import DocAnalytics.Binary64.Layout
import DocAnalytics.Json.Basic

/-!
# DocAnalytics.Json.Printer

JSON text. `compact` writes without any blanks; `pretty` writes one member or item a line, indented
by two spaces a level.
-/

namespace DocAnalytics
namespace Json

/-- Doubles in JSON text always show that they are doubles: positionally with a point from `0.00001`
up to sixteen digits before the point, and with an exponent outside that. -/
def numberLayout : Binary64.Layout where
  tie := .toEven
  positional := fun point => -5 < point && point ≤ 16
  keepsPoint := true

def Number.chars : Number → List Char
  | .integer n _ => Binary64.intChars n
  | .float x => x.render numberLayout

def Number.text (n : Number) : String := String.ofList n.chars

/-- A control character as an escape of four hexadecimal digits. -/
def controlEscape (c : Char) : List Char :=
  let digits := Nat.toDigits 16 c.toNat
  ['\\', 'u'] ++ List.replicate (4 - digits.length) '0' ++ digits

def escapeChar (c : Char) : List Char :=
  if c = '"' then ['\\', '"']
  else if c = '\\' then ['\\', '\\']
  else if c = '\n' then ['\\', 'n']
  else if c = '\r' then ['\\', 'r']
  else if c = '\t' then ['\\', 't']
  else if c = '\x08' then ['\\', 'b']
  else if c = '\x0c' then ['\\', 'f']
  else if c.toNat < 0x20 then controlEscape c
  else [c]

def quote (s : String) : List Char := '"' :: s.toList.flatMap escapeChar ++ ['"']

mutual

/-- JSON text without blanks. -/
def compactChars : Json → List Char
  | .null => ['n', 'u', 'l', 'l']
  | .bool true => ['t', 'r', 'u', 'e']
  | .bool false => ['f', 'a', 'l', 's', 'e']
  | .number n => n.chars
  | .string s => quote s
  | .array items => '[' :: compactItems items
  | .object members => '\x7b' :: compactMembers members

/-- The items of an array, up to and with the closing bracket. -/
def compactItems : List Json → List Char
  | [] => [']']
  | [item] => compactChars item ++ [']']
  | item :: items => compactChars item ++ ',' :: compactItems items

/-- The members of an object, up to and with the closing brace. -/
def compactMembers : List (String × Json) → List Char
  | [] => ['\x7d']
  | [(key, value)] => quote key ++ ':' :: compactChars value ++ ['\x7d']
  | (key, value) :: members =>
    quote key ++ ':' :: compactChars value ++ ',' :: compactMembers members

end

def compact (j : Json) : String := String.ofList (compactChars j)

/-- A line break and the indentation of a level. -/
def lineStart (level : Nat) : List Char := '\n' :: List.replicate (2 * level) ' '

mutual

/-- Indented JSON text of a value that stands at an indentation level. -/
def prettyChars (level : Nat) : Json → List Char
  | .null => ['n', 'u', 'l', 'l']
  | .bool true => ['t', 'r', 'u', 'e']
  | .bool false => ['f', 'a', 'l', 's', 'e']
  | .number n => n.chars
  | .string s => quote s
  | .array [] => ['[', ']']
  | .array items => '[' :: prettyItems level items
  | .object [] => ['\x7b', '\x7d']
  | .object members => '\x7b' :: prettyMembers level members

/-- The items of an array, each on a line, and the closing bracket. -/
def prettyItems (level : Nat) : List Json → List Char
  | [] => lineStart level ++ [']']
  | [item] => lineStart (level + 1) ++ prettyChars (level + 1) item ++ lineStart level ++ [']']
  | item :: items =>
    lineStart (level + 1) ++ prettyChars (level + 1) item ++ ',' :: prettyItems level items

/-- The members of an object, each on a line, and the closing brace. -/
def prettyMembers (level : Nat) : List (String × Json) → List Char
  | [] => lineStart level ++ ['\x7d']
  | [(key, value)] =>
    lineStart (level + 1) ++ quote key ++ ':' :: ' ' :: prettyChars (level + 1) value ++
      lineStart level ++ ['\x7d']
  | (key, value) :: members =>
    lineStart (level + 1) ++ quote key ++ ':' :: ' ' :: prettyChars (level + 1) value ++
      ',' :: prettyMembers level members

end

def pretty (j : Json) : String := String.ofList (prettyChars 0 j)

end Json
end DocAnalytics
