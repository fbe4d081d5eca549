import DocAnalytics.Aggregate.Function
import DocAnalytics.Value.Numeric

/-!
# DocAnalytics.Pipeline.Stage

The stages of a pipeline over rows.
-/

namespace DocAnalytics

/-- Which rows a stage lets pass. -/
inductive Predicate where
  /-- Rows that satisfy a filter. -/
  | filter (f : Json)
  /-- Rows in which every field is there and not null, and no empty text if those are rejected. -/
  | present (fields : List String) (rejectEmpty : Bool)
deriving DecidableEq

/-- A numeric copy of one field in another. -/
structure NumericField where
  source : String
  target : String
  coercion : Coercion
deriving DecidableEq

structure Grouping where
  /-- The field that rows of one group share; without one all rows are one group. -/
  key : Option String
  function : Aggregate
  /-- The field that is aggregated; without one there is nothing but nulls. -/
  source : Option String
  /-- The field that holds the aggregate. -/
  output : String
  /-- Whether values are read as numbers first, those that cannot be as zero. -/
  coerce : Bool
deriving DecidableEq

/-- What a projected field holds. -/
inductive Projected where
  /-- The value of a field. -/
  | field (source : String)
  /-- A number rounded to decimal places. -/
  | rounded (field : String) (places : Nat)
  /-- The text `lo - hi` of two rounded numbers. -/
  | rangeLabel (min max : String) (places : Nat)
deriving DecidableEq

structure Projection where
  name : String
  value : Projected
deriving DecidableEq

inductive Stage where
  | select (p : Predicate)
  | addNumeric (f : NumericField)
  | group (g : Grouping)
  /-- Rows of the listed fields only. -/
  | project (ps : List Projection)
  | sort (key : String) (descending : Bool)
  /-- Buckets of nearly equal counts, from the numbers of a field. -/
  | bucketAuto (field : String) (buckets : Nat)
  | limit (n : Nat)
  /-- One row with the count of rows under a name; no row if there are none. -/
  | count (name : String)
deriving DecidableEq

namespace Stage

def name : Stage → String
  | .select _ => "match"
  | .addNumeric _ => "add_numeric_field"
  | .group _ => "group"
  | .project _ => "project"
  | .sort _ _ => "sort"
  | .bucketAuto _ _ => "bucket_auto"
  | .limit _ => "limit"
  | .count _ => "count"

/-- Rows in which all fields hold something. -/
def present (fields : List String) : Stage := .select (.present fields false)

/-- Rows in which all fields hold something other than the empty text. -/
def nonEmpty (fields : List String) : Stage := .select (.present fields true)

end Stage

def Projection.copy (name source : String) : Projection := ⟨name, .field source⟩

def Projection.round (name source : String) (places : Nat) : Projection :=
  ⟨name, .rounded source places⟩

end DocAnalytics
