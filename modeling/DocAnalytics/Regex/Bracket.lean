import DocAnalytics.Regex.Escape

/-!
# DocAnalytics.Regex.Bracket

Classes of characters between brackets: characters, ranges, escapes, named ASCII classes, classes
within classes, and the operations between them. With its characters a class has a depth, for
patterns that nest too deeply are refused.
-/

namespace DocAnalytics
namespace Regex

open Unicode

/-- How deep patterns may nest. -/
def maxDepth : Nat := 250

namespace Bracket

/-- Some characters, and how deep what denotes them nests. -/
structure Part where
  set : CharSet
  depth : Nat
deriving Repr

/-- The members read so far between two operations, the last one first. -/
structure Members where
  sets : List CharSet
  depth : Nat
deriving Repr

namespace Members

def none : Members := ⟨[], 0⟩

def add (m : Members) (s : CharSet) (depth : Nat) : Members :=
  ⟨s :: m.sets, max m.depth depth⟩

def part (m : Members) : Part :=
  ⟨.unionAll m.sets, if m.sets.length < 2 then m.depth else m.depth + 1⟩

end Members

/-- The operations between the operands of a class. -/
inductive Operation where
  | inter
  | diff
  | symmDiff
deriving DecidableEq, Repr

def Operation.apply : Operation → CharSet → CharSet → CharSet
  | .inter => .inter
  | .diff => .diff
  | .symmDiff => .symmDiff

/-- The members read last, joined to the operation that waits for them. -/
def settle (f : Flags) (pending : Option (Part × Operation)) (m : Members) : Part :=
  match pending with
  | none => m.part
  | some (left, op) =>
    let right := m.part
    ⟨op.apply (f.caseClosed left.set) (f.caseClosed right.set), max left.depth right.depth + 1⟩

/-- Reads the leading hyphens of a class, which stand for themselves. `fuel` bounds their number. -/
def leadingHyphens (f : Flags) : Nat → Members → List Char → Members × List Char
  | 0, m, cs => (m, cs)
  | fuel + 1, m, cs =>
    match cs with
    | '-' :: rest => leadingHyphens f fuel (m.add (.singleton '-') 0) (f.skip rest)
    | _ => (m, cs)

/-- Reads what stands at the front of a class behind its bracket: a negation, hyphens, and a closing
bracket that stands for itself. -/
def openClass (f : Flags) (cs : List Char) : Bool × Members × List Char :=
  let (negated, cs) :=
    match f.skip cs with
    | '^' :: rest => (true, f.skip rest)
    | cs => (false, cs)
  match cs with
  | ']' :: rest => (negated, Members.none.add (.singleton ']') 0, f.skip rest)
  | _ =>
    let (m, rest) := leadingHyphens f (cs.length + 1) .none cs
    (negated, m, rest)

/-- The negation and the name of an ASCII class behind its opening bracket and colon, if one stands
there. -/
def asciiName? (cs : List Char) : Option (Bool × CharSet × List Char) :=
  let (negated, cs) :=
    match cs with
    | '^' :: rest => (true, rest)
    | cs => (false, cs)
  match cs.dropWhile (· ≠ ':') with
  | ':' :: ']' :: rest =>
    (asciiClass? (String.ofList (cs.takeWhile (· ≠ ':')))).map fun s => (negated, s, rest)
  | _ => none

def readMember (f : Flags) : List Char → Option (Atom × List Char)
  | [] => none
  | '\\' :: rest => Atom.readEscape f rest
  | c :: rest => some (.literal c false, rest)

def bound? (f : Flags) : Atom → Option Char
  | .literal c _ => if !f.unicode && 0x80 ≤ c.toNat then none else some c
  | _ => none

/-- A member of a class that is not a range. -/
def memberSet? (f : Flags) : Atom → Option CharSet
  | .literal c octet => (bound? f (.literal c octet)).map .singleton
  | .set s => some s
  | .look _ => none

/-- The character that decides whether a hyphen makes a range, given those behind the hyphen. Where
blanks mean nothing, the sign of a comment is passed over, but not the comment. -/
def behindHyphen (f : Flags) (cs : List Char) : Option Char :=
  if f.verbose then
    match cs.dropWhile isBlank with
    | '#' :: rest => (rest.dropWhile isBlank).head?
    | rest => rest.head?
  else cs.head?

def readRange (f : Flags) (cs : List Char) : Option (CharSet × List Char) :=
  match readMember f cs with
  | none => none
  | some (first, rest) =>
    match f.skip rest with
    | [] => none
    | '-' :: more =>
      let next := behindHyphen f more
      if next = some ']' ∨ next = some '-' then
        (memberSet? f first).map (·, '-' :: more)
      else
        match readMember f (f.skip more) with
        | none => none
        | some (last, rest) =>
          match bound? f first, bound? f last with
          | some a, some b => if a ≤ b then some (.range a b, rest) else none
          | _, _ => none
    | rest => (memberSet? f first).map (·, rest)

/-- Reads a class up to and with its closing bracket, behind what `openClass` reads. `room` is how
many classes may still begin within it, and `fuel` bounds the number of members. -/
def readClass (f : Flags) (room : Nat) :
    Nat → Option (Part × Operation) → Members → List Char → Option (Part × List Char)
  | 0, _, _, _ => none
  | fuel + 1, pending, m, cs =>
    let operate (op : Operation) (rest : List Char) : Option (Part × List Char) :=
      readClass f room fuel (some (settle f pending m, op)) .none rest
    match f.skip cs with
    | [] => none
    | ']' :: rest => some (settle f pending m, rest)
    | '&' :: '&' :: rest => operate .inter rest
    | '-' :: '-' :: rest => operate .diff rest
    | '~' :: '~' :: rest => operate .symmDiff rest
    | '[' :: rest =>
      let named? :=
        match rest with
        | ':' :: more => asciiName? more
        | _ => none
      match named? with
      | some (negated, s, rest) =>
        match f.finishSet negated s with
        | none => none
        | some s => readClass f room fuel pending (m.add s 0) rest
      | none =>
        match room with
        | 0 => none
        | room' + 1 =>
          let (negated, start, rest) := openClass f rest
          match readClass f room' fuel none start rest with
          | none => none
          | some (inner, rest) =>
            match f.finishSet negated inner.set with
            | none => none
            | some s => readClass f room fuel pending (m.add s (inner.depth + 1)) rest
    | cs =>
      match readRange f cs with
      | none => none
      | some (s, rest) => readClass f room fuel pending (m.add s 0) rest

def read (f : Flags) (cs : List Char) : Option (Part × List Char) :=
  let (negated, start, rest) := openClass f cs
  match readClass f maxDepth (rest.length + 1) none start rest with
  | none => none
  | some (inner, rest) =>
    (f.finishSet negated inner.set).map fun s => (⟨s, inner.depth + 1⟩, rest)

end Bracket
end Regex
end DocAnalytics
