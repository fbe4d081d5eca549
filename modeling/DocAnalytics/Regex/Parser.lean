import DocAnalytics.Regex.Bracket
import DocAnalytics.Regex.Size

/-!
# DocAnalytics.Regex.Parser

The text of patterns: literals, `.`, anchors, escapes, classes, groups with names and flags,
alternatives, and repetition with `?`, `*`, `+` and `{m,n}`. There are no back references and no
look-around. `Pattern.ofText?` refuses malformed patterns, those that nest too deeply, and those
that are too large.
-/

namespace DocAnalytics
namespace Regex

open Unicode

namespace Parser

/-! ## Groups -/

/-- Reads flags up to the closing parenthesis or the colon, which stays. `seen` are the flags read
so far, `off` says that a minus sign came before, and `dangling` that it came last. -/
def readFlags (f : Flags) (seen : List Char) (off dangling : Bool) : List Char →
    Option (Flags × Bool × List Char)
  | [] => none
  | c :: cs =>
    if c = ':' ∨ c = ')' then (if dangling then none else some (f, seen.isEmpty && !off, c :: cs))
    else if c = '-' then (if off then none else readFlags f seen true true cs)
    else if seen.contains c then none
    else
      match c with
      | 'i' => readFlags { f with ignoreCase := !off } (c :: seen) off false cs
      | 'm' => readFlags { f with multiLine := !off } (c :: seen) off false cs
      | 's' => readFlags { f with dotAll := !off } (c :: seen) off false cs
      | 'R' => readFlags { f with anyLineEnd := !off } (c :: seen) off false cs
      | 'u' => readFlags { f with unicode := !off } (c :: seen) off false cs
      | 'x' => readFlags { f with verbose := !off } (c :: seen) off false cs
      | 'U' => readFlags { f with lazy := !off } (c :: seen) off false cs
      | _ => none

def readGroupName (cs : List Char) : Option (List Char × List Char) :=
  match cs.takeWhile (· ≠ '>'), cs.dropWhile (· ≠ '>') with
  | c :: more, '>' :: rest =>
    let follows (c : Char) : Bool :=
      isAlphabetic c || isNumeric c || c = '_' || c = '.' || c = '[' || c = ']'
    if (isAlphabetic c || c = '_') && more.all follows then some (c :: more, rest) else none
  | _, _ => none

/-- How a group begins. -/
inductive Opening where
  /-- Flags for the rest of the enclosing group. -/
  | setFlags (f : Flags)
  /-- A group that captures nothing, under its own flags. -/
  | plain (f : Flags)
  /-- A group that captures, perhaps under a name. -/
  | capturing (name : Option (List Char))

def readOpening (f : Flags) (cs : List Char) : Option (Opening × List Char) :=
  match f.skip cs with
  | '?' :: '=' :: _ => none
  | '?' :: '!' :: _ => none
  | '?' :: '<' :: '=' :: _ => none
  | '?' :: '<' :: '!' :: _ => none
  | '?' :: 'P' :: '<' :: rest =>
    (readGroupName rest).map fun (name, rest) => (.capturing (some name), rest)
  | '?' :: '<' :: rest =>
    (readGroupName rest).map fun (name, rest) => (.capturing (some name), rest)
  | '?' :: rest =>
    match readFlags f [] false false rest with
    | some (inner, bare, ')' :: rest) => if bare then none else some (.setFlags inner, rest)
    | some (inner, _, ':' :: rest) => some (.plain inner, rest)
    | _ => none
  | rest => some (.capturing none, rest)

/-! ## Repetition -/

/-- The first number that is too large for a repetition: counts have 32 bits. -/
def countLimit : Nat := 4294967296

/-- Reads decimal digits, without what means nothing between them. `fuel` bounds their number. -/
def readDigits (f : Flags) : Nat → List Char → List Char × List Char
  | 0, cs => ([], cs)
  | fuel + 1, cs =>
    match cs with
    | [] => ([], [])
    | c :: rest =>
      if c.isDigit then
        let (digits, rest) := readDigits f fuel (f.skip rest)
        (c :: digits, rest)
      else ([], cs)

/-- Reads a number of a repetition, with the blanks around it, which mean nothing also where blanks
count. -/
def readCount (f : Flags) (cs : List Char) : Option (Nat × List Char) :=
  let cs := cs.dropWhile isBlank
  let (digits, rest) := readDigits f (cs.length + 1) cs
  if digits.isEmpty then none
  else
    let n := digits.foldl (fun n c => n * 10 + (c.toNat - '0'.toNat)) 0
    if n < countLimit then some (n, rest.dropWhile isBlank) else none

/-- Reads a repetition between braces, behind the opening one. -/
def readCounts (f : Flags) (cs : List Char) : Option (Nat × Option Nat × List Char) :=
  match readCount f (f.skip cs) with
  | some (min, '\x7d' :: rest) => some (min, some min, rest)
  | some (min, ',' :: rest) =>
    match f.skip rest with
    | '\x7d' :: rest => some (min, none, rest)
    | rest =>
      match readCount f rest with
      | some (max, '\x7d' :: rest) => if min ≤ max then some (min, some max, rest) else none
      | _ => none
  | _ => none

def readMark : List Char → Bool × List Char
  | '?' :: rest => (true, rest)
  | cs => (false, cs)

/-! ## Sequences and alternatives -/

/-- An item of a sequence: a pattern, or none for flags, and how deep it nests. -/
structure Item where
  pattern? : Option Pattern
  depth : Nat

/-- The item of the items of a sequence, given in reverse: two or more nest one deeper than the
deepest of them. -/
def sequence (items : List Item) : Item :=
  let depth := (items.map Item.depth).foldl max 0
  ⟨some (.sequence (items.reverse.filterMap Item.pattern?)),
    if items.length < 2 then depth else depth + 1⟩

def alternatives (branches : List Item) : Item :=
  match branches with
  | [branch] => branch
  | _ =>
    ⟨some (.alternatives (branches.reverse.filterMap Item.pattern?)),
      (branches.map Item.depth).foldl max 0 + 1⟩

/-- The state of reading the alternatives of a group. -/
structure State where
  flags : Flags
  /-- The names of all groups so far. -/
  names : List (List Char)
  /-- The alternatives that are complete, in reverse. -/
  branches : List Item
  /-- The items of the alternative that is being read, in reverse. -/
  items : List Item

namespace State

/-- The same state with one more item. -/
def push (st : State) (p : Pattern) (depth : Nat) : State :=
  { st with items := ⟨some p, depth⟩ :: st.items }

/-- The same state with the last item repeated; there has to be one, and it must not be flags. -/
def repeatLast? (st : State) (min : Nat) (max : Option Nat) (mark : Bool) : Option State :=
  match st.items with
  | ⟨some p, depth⟩ :: items =>
    if depth < maxDepth then
      some { st with
        items := ⟨some (.repeated p min max (st.flags.greedy mark)), depth + 1⟩ :: items }
    else none
  | _ => none

def nextBranch (st : State) : State :=
  { st with branches := sequence st.items :: st.branches, items := [] }

/-- What the state has read. -/
def item (st : State) : Item := alternatives (sequence st.items :: st.branches)

end State

def readRepetition (st : State) (sign : Char) (cs : List Char) : Option (State × List Char) :=
  let finish (min : Nat) (max : Option Nat) (cs : List Char) : Option (State × List Char) :=
    let (mark, rest) := readMark cs
    (st.repeatLast? min max mark).map (·, rest)
  match sign with
  | '?' => finish 0 (some 1) cs
  | '*' => finish 0 none cs
  | '+' => finish 1 none cs
  | _ =>
    match readCounts st.flags cs with
    | none => none
    | some (min, max, rest) => finish min max (st.flags.skip rest)

/-- Reads an item that is no group and no repetition, which begins with `c`. -/
def readItem (st : State) (c : Char) (cs : List Char) : Option (State × List Char) :=
  let f := st.flags
  match c with
  | '[' => (Bracket.read f cs).map fun (part, rest) => (st.push (.ofSet part.set) part.depth, rest)
  | '.' => f.dot?.map fun p => (st.push p 0, cs)
  | '^' => some (st.push (.look f.caret) 0, cs)
  | '$' => some (st.push (.look f.dollar) 0, cs)
  | '\\' =>
    match Atom.readEscape f cs with
    | none => none
    | some (a, rest) => (a.pattern? f).map fun p => (st.push p 0, rest)
  | _ => (f.literal? c false).map fun p => (st.push p 0, cs)

/-- Reads alternatives up to the end of the text or to the parenthesis that ends their group, which
stays. The answer has the item read and the names of all groups so far. `room` is how many groups
may still begin within, and `fuel` bounds the number of items. -/
def readBody (room : Nat) : Nat → State → List Char →
    Option (Item × List (List Char) × List Char)
  | 0, _, _ => none
  | fuel + 1, st, cs =>
    match st.flags.skip cs with
    | [] => some (st.item, st.names, [])
    | ')' :: rest => some (st.item, st.names, ')' :: rest)
    | '|' :: rest => readBody room fuel st.nextBranch rest
    | '(' :: rest =>
      match readOpening st.flags rest with
      | none => none
      | some (.setFlags inner, rest) =>
        readBody room fuel { st with flags := inner, items := ⟨none, 0⟩ :: st.items } rest
      | some (opening, rest) =>
        match room with
        | 0 => none
        | room' + 1 =>
          let (inner, names, captures) :=
            match opening with
            | .plain inner => (inner, st.names, false)
            | .capturing (some name) => (st.flags, name :: st.names, true)
            | _ => (st.flags, st.names, true)
          match readBody room' fuel ⟨inner, names, [], []⟩ rest with
          | some (⟨some p, depth⟩, names, ')' :: rest) =>
            let p := if captures then .group p else p
            readBody room fuel ({ st with names := names }.push p (depth + 1)) rest
          | _ => none
    | c :: rest =>
      let next :=
        if c = '?' ∨ c = '*' ∨ c = '+' ∨ c = '\x7b' then readRepetition st c rest
        else readItem st c rest
      match next with
      | none => none
      | some (st, rest) => readBody room fuel st rest

/-- Whether no name stands twice in the list. -/
def allDistinct : List (List Char) → Bool
  | [] => true
  | name :: names => !names.contains name && allDistinct names

end Parser

/-- The pattern of a text, if it is well-formed, and neither too deep nor too large. -/
def Pattern.ofText? (text : String) : Option Pattern :=
  let cs := text.toList
  match Parser.readBody maxDepth (cs.length + 1) ⟨{}, [], [], []⟩ cs with
  | some (⟨some p, depth⟩, names, []) =>
    if Parser.allDistinct names && depth ≤ maxDepth && p.isWithinLimit then some p else none
  | _ => none

end Regex
end DocAnalytics
