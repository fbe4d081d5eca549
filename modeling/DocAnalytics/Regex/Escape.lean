import DocAnalytics.Regex.Flags

/-!
# DocAnalytics.Regex.Escape

What stands behind a backslash: a character by itself or by its code point, a class, a property, or
a condition on the position. Every reader takes the characters that are left and gives back what it
has not read.
-/

namespace DocAnalytics
namespace Regex

open Unicode

/-- What an escape or a plain character stands for. -/
inductive Atom where
  /-- A character; `octet` if it is written by two hexadecimal digits. -/
  | literal (c : Char) (octet : Bool)
  | set (s : CharSet)
  | look (l : Look)
deriving Repr

namespace Atom

def hexValue? (c : Char) : Option Nat :=
  if c.isDigit then some (c.toNat - '0'.toNat)
  else if 'a' ≤ c ∧ c ≤ 'f' then some (c.toNat - 'a'.toNat + 10)
  else if 'A' ≤ c ∧ c ≤ 'F' then some (c.toNat - 'A'.toNat + 10)
  else none

/-- The character of a code point, surrogates excluded. -/
def charOf? (n : Nat) : Option Char :=
  if n < 0xD800 ∨ (0xE000 ≤ n ∧ n < 0x110000) then some (Char.ofNat n) else none

def readDigits (f : Flags) (acc : Nat) : Nat → List Char → Option (Nat × List Char)
  | 0, cs => some (acc, cs)
  | _ + 1, [] => none
  | n + 1, c :: cs =>
    match hexValue? c with
    | none => none
    | some v => readDigits f (acc * 16 + v) n (f.skip cs)

/-- Reads characters up to a closing brace, behind the opening one, without what means nothing.
`fuel` bounds their number. -/
def readBraced (f : Flags) : Nat → List Char → Option (List Char × List Char)
  | 0, _ => none
  | fuel + 1, cs =>
    match f.skip cs with
    | [] => none
    | '\x7d' :: rest => some ([], rest)
    | c :: rest => (readBraced f fuel rest).map fun (name, rest) => (c :: name, rest)

/-- The value of some hexadecimal digits, at least one. -/
def hexText? (digits : List Char) : Option Nat :=
  if digits.isEmpty then none
  else (digits.mapM hexValue?).map fun values => values.foldl (fun n v => n * 16 + v) 0

/-- Reads a character given by its code point, behind the letter that introduces it. -/
def readCode (f : Flags) (digits : Nat) (cs : List Char) : Option (Atom × List Char) :=
  match f.skip cs with
  | [] => none
  | '\x7b' :: rest =>
    match readBraced f (rest.length + 1) rest with
    | none => none
    | some (text, rest) =>
      ((hexText? text).bind charOf?).map fun c => (.literal c false, f.skip rest)
  | cs =>
    match readDigits f 0 digits cs with
    | none => none
    | some (n, rest) => (charOf? n).map fun c => (.literal c (digits == 2), rest)

/-- The text before and behind the first occurrence of a separator. -/
def cutAt (separator : List Char) : List Char → Option (List Char × List Char)
  | [] => none
  | c :: cs =>
    if separator.isPrefixOf (c :: cs) then some ([], (c :: cs).drop separator.length)
    else (cutAt separator cs).map fun (a, b) => (c :: a, b)

/-- The characters of the property that stands between braces, a name alone or with a value, and
whether it is negated there. -/
def bracedProperty? (text : List Char) : Option (CharSet × Bool) :=
  match cutAt ['!', '='] text with
  | some (name, value) => (propertyValued? name value).map (·, true)
  | none =>
    match cutAt [':'] text with
    | some (name, value) => (propertyValued? name value).map (·, false)
    | none =>
      match cutAt ['='] text with
      | some (name, value) => (propertyValued? name value).map (·, false)
      | none => (propertyNamed? text).map (·, false)

def readProperty (f : Flags) (negated : Bool) (cs : List Char) : Option (Atom × List Char) :=
  let finish (s : CharSet) (negated : Bool) (rest : List Char) : Option (Atom × List Char) :=
    if f.unicode then (f.finishSet negated s).map fun s => (.set s, rest) else none
  match f.skip cs with
  | [] => none
  | '\\' :: _ => none
  | '\x7b' :: rest =>
    match readBraced f (rest.length + 1) rest with
    | none => none
    | some (text, rest) =>
      (bracedProperty? text).bind fun (s, flipped) => finish s (negated != flipped) rest
  | c :: rest => (propertyNamed? [c]).bind fun s => finish s negated (f.skip rest)

def boundary? (name : List Char) : Option Boundary :=
  if name = "start".toList then some .start
  else if name = "end".toList then some .stop
  else if name = "start-half".toList then some .startHalf
  else if name = "end-half".toList then some .stopHalf
  else none

/-- Reads the letters and hyphens of a name, without what means nothing between them. `fuel` bounds
their number. -/
def readName (f : Flags) : Nat → List Char → List Char × List Char
  | 0, cs => ([], cs)
  | fuel + 1, cs =>
    match cs with
    | [] => ([], [])
    | c :: rest =>
      if c.isAlpha || c = '-' then
        let (name, rest) := readName f fuel (f.skip rest)
        (c :: name, rest)
      else ([], cs)

/-- Reads the name of a boundary of words between braces, if one begins there; else the boundary is
any. -/
def readBoundary (f : Flags) (cs : List Char) : Option (Boundary × List Char) :=
  match cs with
  | '\x7b' :: inside =>
    let inside := f.skip inside
    match readName f (inside.length + 1) inside with
    | ([], []) => none
    | ([], _) => some (.any, cs)
    | (name, '\x7d' :: rest) => (boundary? name).map (·, rest)
    | _ => none
  | _ => some (.any, cs)

def isMeta (c : Char) : Bool :=
  ['\\', '.', '+', '*', '?', '(', ')', '|', '[', ']', '\x7b', '\x7d', '^', '$', '#', '&', '-',
    '~'].contains c

/-- Whether a backslash before the character means the character itself. -/
def isEscapable (c : Char) : Bool :=
  isMeta c || (c.toNat < 0x80 && !c.isAlphanum && c ≠ '<' && c ≠ '>')

def readEscape (f : Flags) : List Char → Option (Atom × List Char)
  | [] => none
  | c :: rest =>
    match c with
    | 'x' => readCode f 2 rest
    | 'u' => readCode f 4 rest
    | 'U' => readCode f 8 rest
    | 'p' => readProperty f false rest
    | 'P' => readProperty f true rest
    | 'a' => some (.literal '\x07' false, rest)
    | 'f' => some (.literal '\x0c' false, rest)
    | 't' => some (.literal '\t' false, rest)
    | 'n' => some (.literal '\n' false, rest)
    | 'r' => some (.literal '\r' false, rest)
    | 'v' => some (.literal '\x0b' false, rest)
    | 'A' => some (.look .textStart, rest)
    | 'z' => some (.look .textEnd, rest)
    | 'B' => some (.look (.word .nowhere f.unicode), rest)
    | '<' => some (.look (.word .start f.unicode), rest)
    | '>' => some (.look (.word .stop f.unicode), rest)
    | 'b' => (readBoundary f rest).map fun (b, rest) => (.look (.word b f.unicode), rest)
    | _ =>
      if isEscapable c then some (.literal c false, rest)
      else (f.letterSet? c).map fun s => (.set s, rest)

def pattern? (f : Flags) : Atom → Option Pattern
  | .literal c octet => f.literal? c octet
  | .set s => some (.ofSet s)
  | .look l => some (.look l)

end Atom
end Regex
end DocAnalytics
