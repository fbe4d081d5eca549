import DocAnalytics.Text.Trim
import DocAnalytics.Unicode.Lowercase

/-!
# DocAnalytics.Aggregate.Function

The functions that summarise many values in one.
-/

namespace DocAnalytics

inductive Aggregate where
  | count
  | sum
  | avg
  | min
  | max
deriving DecidableEq, Repr

namespace Aggregate

def all : List Aggregate := [.count, .sum, .avg, .min, .max]

def name : Aggregate → String
  | .count => "count"
  | .sum => "sum"
  | .avg => "avg"
  | .min => "min"
  | .max => "max"

/-- Whether the function reads a field; counting does not. -/
def needsSource : Aggregate → Bool
  | .count => false
  | _ => true

def ofName? (name : String) : Option Aggregate :=
  match name with
  | "count" => some .count
  | "sum" => some .sum
  | "avg" => some .avg
  | "min" => some .min
  | "max" => some .max
  | _ => none

/-- The function that a text names, blanks around it and letter case left aside. -/
def ofText? (text : String) : Option Aggregate := ofName? (Unicode.lowercase (Text.trim text))

theorem ofName?_name (f : Aggregate) : ofName? f.name = some f := by cases f <;> rfl

end Aggregate
end DocAnalytics
