import DocAnalytics.Json.Basic
import DocAnalytics.Json.Source

/-!
# DocAnalytics.Json.Reader

The value of a JSON text. A text has one if its number literals are in range, its escaped surrogates
come in pairs and its arrays and objects are nested at most 127 deep. Of a repeated key the last
value counts.
-/

namespace DocAnalytics
namespace Json

/-- How deep arrays and objects may be nested. -/
def maxDepth : Nat := 127

namespace Source

/-- The characters of a list of code units, whose surrogates must come in pairs. -/
def decodeUnits : List Nat → Option (List Char)
  | [] => some []
  | [u] => if 0xD800 ≤ u ∧ u < 0xE000 then none else some [Char.ofNat u]
  | u :: v :: rest =>
    if 0xD800 ≤ u ∧ u < 0xDC00 then
      if 0xDC00 ≤ v ∧ v < 0xE000 then
        (decodeUnits rest).map (Char.ofNat (0x10000 + (u - 0xD800) * 0x400 + (v - 0xDC00)) :: ·)
      else none
    else if 0xDC00 ≤ u ∧ u < 0xE000 then none
    else (decodeUnits (v :: rest)).map (Char.ofNat u :: ·)

def text? (units : List Nat) : Option String := (decodeUnits units).map String.ofList

mutual

/-- The value of a JSON text, with at most `levels` levels of arrays and objects. -/
def value? (levels : Nat) : Source → Option Json
  | .null => some .null
  | .bool b => some (.bool b)
  | .number l => l.number?.map .number
  | .string units => (text? units).map .string
  | .array items =>
    match levels with
    | 0 => none
    | levels + 1 => (values? levels items).map .array
  | .object members =>
    match levels with
    | 0 => none
    | levels + 1 => (members? levels members).map Json.ofMembers

def values? (levels : Nat) : List Source → Option (List Json)
  | [] => some []
  | item :: items =>
    match value? levels item with
    | none => none
    | some v => (values? levels items).map (v :: ·)

/-- The members of an object as written, with their values. -/
def members? (levels : Nat) : List (List Nat × Source) → Option (List (String × Json))
  | [] => some []
  | (key, item) :: items =>
    match text? key with
    | none => none
    | some k =>
      match value? levels item with
      | none => none
      | some v => (members? levels items).map ((k, v) :: ·)

end

end Source

def read? (text : String) : Option Json := (Source.read? text).bind (Source.value? maxDepth)

end Json
end DocAnalytics
