import DocAnalytics.Filter.Matching
import DocAnalytics.Pipeline.Bucket
import DocAnalytics.Pipeline.Group
import DocAnalytics.Pipeline.Stage
import DocAnalytics.Pipeline.StableSort
import DocAnalytics.Store.Error

/-!
# DocAnalytics.Pipeline.Run

What the stages of a pipeline do to rows.
-/

namespace DocAnalytics

namespace Predicate

def fieldPresent (row : Document) (rejectEmpty : Bool) (field : String) : Bool :=
  match row.at? field with
  | some (.string s) => !(rejectEmpty && s == "")
  | value => Document.isPresent value

def passes (row : Document) : Predicate → Except StorageError Bool
  | .filter f =>
    match Filter.matchesFilter row f with
    | .ok b => .ok b
    | .error e => .error (.invalidFilter e)
  | .present fields rejectEmpty => .ok (fields.all (fieldPresent row rejectEmpty))

/-- The rows that pass; the first one in error ends the run. -/
def keep (p : Predicate) : List Document → Except StorageError (List Document)
  | [] => .ok []
  | row :: rows =>
    match p.passes row with
    | .error e => .error e
    | .ok passed =>
      match keep p rows with
      | .error e => .error e
      | .ok kept => .ok (if passed then row :: kept else kept)

end Predicate

/-- Writes the number that the source of a row stands for into the target, or null. -/
def NumericField.apply (f : NumericField) (row : Document) : Document :=
  let number :=
    match (row.at? f.source).bind (Json.coerce? f.coercion) with
    | some x => Json.ofFinite x
    | none => .null
  row.setAt f.target number

def roundedLabel (places : Nat) (x : Binary64.Finite) : String :=
  ((Binary64.finite x).roundTo places).label

/-- The value of a projected field; none if the row lacks what it is made of. -/
def Projected.valueIn? (row : Document) : Projected → Option Json
  | .field source => row.at? source
  | .rounded source places => (row.at? source).bind (Json.roundedNumber? places)
  | .rangeLabel min max places =>
    match (row.at? min).bind Json.double?, (row.at? max).bind Json.double? with
    | some lo, some hi =>
      some (.string (roundedLabel places lo ++ " - " ++ roundedLabel places hi))
    | _, _ => some .null

/-- The projected row: of the listed fields those that have a value. -/
def projectRow (ps : List Projection) (row : Document) : Document :=
  Document.ofList (ps.filterMap fun p => (p.value.valueIn? row).map fun v => (p.name, v))

/-- The value that a row is sorted by; null if it has none. -/
def sortValue (key : String) (row : Document) : Json := (row.at? key).getD .null

def sortsBefore (key : String) (descending : Bool) (a b : Document) : Bool :=
  (sortValue key a).compare (sortValue key b) == (if descending then .gt else .lt)

/-- Rows sorted by a field, rows with equal values in the order in which they were. -/
def sortRows (key : String) (descending : Bool) (rows : List Document) : List Document :=
  stableSort (sortsBefore key descending) rows

/-- The row with the count of rows; none if there are none. -/
def countRows (name : String) (rows : List Document) : List Document :=
  if rows.isEmpty then [] else [[(name, Json.ofNat rows.length)]]

def Stage.run (rows : List Document) : Stage → Except StorageError (List Document)
  | .select p => p.keep rows
  | .addNumeric f => .ok (rows.map f.apply)
  | .group g => .ok (g.run rows)
  | .project ps => .ok (rows.map (projectRow ps))
  | .sort key descending => .ok (sortRows key descending rows)
  | .bucketAuto field buckets =>
    if buckets = 0 then .error .noBuckets else .ok (Bucket.run field buckets rows)
  | .limit n => .ok (rows.take n)
  | .count name => .ok (countRows name rows)

/-- What a pipeline does: its stages one after the other, up to the first error. -/
def runPipeline : List Stage → List Document → Except StorageError (List Document)
  | [], rows => .ok rows
  | stage :: stages, rows =>
    match stage.run rows with
    | .error e => .error e
    | .ok rows => runPipeline stages rows

end DocAnalytics
