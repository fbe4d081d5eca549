import DocAnalytics.Unicode.CharSet

/-!
# DocAnalytics.Unicode.Table

Two written forms of tables of code points. A text of ranges lists hexadecimal numbers: `41-5A` are
the capitals of ASCII, and `100-136/2` is every second code point of a range. A text of runs divides
all code points: a number and a tag for so many further code points.
-/

namespace DocAnalytics
namespace Unicode

def hexDigit (c : Char) : Nat :=
  if c.isDigit then c.toNat - '0'.toNat else c.toNat - 'A'.toNat + 10

def hexNumber (s : String) : Nat := s.toList.foldl (fun n c => n * 16 + hexDigit c) 0

/-- Every second code point from `first` to `last`. -/
def everySecond (first last : Nat) : List (Nat × Nat) :=
  (List.range ((last - first) / 2 + 1)).map fun k => (first + 2 * k, first + 2 * k)

/-- The code points of one item of a text of ranges. -/
def readRange (item : String) : List (Nat × Nat) :=
  match item.splitOn "-" with
  | [first, last] =>
    match last.splitOn "/" with
    | [last] => [(hexNumber first, hexNumber last)]
    | last :: _ => everySecond (hexNumber first) (hexNumber last)
    | [] => []
  | _ => [(hexNumber item, hexNumber item)]

/-- The set of the code points of a text of ranges. -/
def CharSet.ofText (text : List String) : CharSet :=
  .ofRanges (text.flatMap fun line => (line.splitOn " ").flatMap readRange)

/-- Neighbouring code points with the same tag. -/
structure Run where
  first : Nat
  last : Nat
  tag : List Char
deriving Repr

/-- Reads a text of runs whose tags have `width` characters. `next` is the first code point that no
run covers yet, `count` the number read so far, and `tag` the tag read so far, in reverse. -/
def readRunsFrom (width next count : Nat) (tag : List Char) : List Char → List Run
  | [] => []
  | c :: cs =>
    if tag.isEmpty && c.isDigit then
      readRunsFrom width next (count * 10 + (c.toNat - '0'.toNat)) [] cs
    else if tag.length + 1 = width then
      ⟨next, next + count - 1, (c :: tag).reverse⟩ :: readRunsFrom width (next + count) 0 [] cs
    else readRunsFrom width next count (c :: tag) cs

/-- The runs of a text whose tags have `width` characters. -/
def readRuns (width : Nat) (text : List String) : List Run :=
  readRunsFrom width 0 0 [] (text.flatMap String.toList)

/-- The code points of the runs with an accepted tag. -/
def Run.members (accept : List Char → Bool) (runs : List Run) : CharSet :=
  .ofAscending ((runs.filter fun r => accept r.tag).map fun r => (r.first, r.last))

end Unicode
end DocAnalytics
