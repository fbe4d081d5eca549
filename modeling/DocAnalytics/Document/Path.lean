import DocAnalytics.Json.Basic
import DocAnalytics.Text.Integer
import DocAnalytics.Text.Split

/-!
# DocAnalytics.Document.Path

Dotted paths into documents. A path is the list of its segments, never empty. Reading follows
object keys and array positions; writing knows object keys only, creates the objects on its way and
puts one in the place of any other value that stands there.
-/

namespace DocAnalytics

/-- The segments of a dotted path. Segments may be empty. -/
def Path.segments (path : String) : List String :=
  (Text.splitAt '.' path.toList).map String.ofList

/-- A segment as a position in an array: decimal digits, with a plus sign or without. -/
def Path.index? (segment : String) : Option Nat := Text.unsigned? segment.toList

namespace Json

/-- The value that one segment selects. -/
def child? (segment : String) : Json → Option Json
  | .object members => Document.get? members segment
  | .array items =>
    match Path.index? segment with
    | none => none
    | some i => items[i]?
  | _ => none

/-- The value at the end of a list of segments. -/
def at? : List String → Json → Option Json
  | [], j => some j
  | segment :: rest, j =>
    match j.child? segment with
    | none => none
    | some next => at? rest next

end Json

namespace Document

def at? (d : Document) (path : String) : Option Json := Json.at? (Path.segments path) (.object d)

/-- The object under a key; an empty one if the key is missing or holds another value. -/
def objectAt (d : Document) (key : String) : Document :=
  match d.get? key with
  | some (.object members) => members
  | _ => []

/-- Writes a value at the end of a list of segments. -/
def setSegments (value : Json) : List String → Document → Document
  | [], d => d
  | [key], d => Document.insert key value d
  | key :: next :: rest, d =>
    Document.insert key (.object (setSegments value (next :: rest) (d.objectAt key))) d

def setAt (d : Document) (path : String) (value : Json) : Document :=
  setSegments value (Path.segments path) d

/-- Whether a field holds something: null and missing values do not. -/
def isPresent : Option Json → Bool
  | none => false
  | some v => !v.isNull

end Document
end DocAnalytics
