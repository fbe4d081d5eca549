import DocAnalytics.Aggregate.Accumulator
import DocAnalytics.Document.Path
import DocAnalytics.Pipeline.StableSort

/-!
# DocAnalytics.Pipeline.Bucket

Buckets of nearly equal counts. The numbers of a field are sorted and cut into slices; each slice
takes its share of what is left, and then all following numbers that compare equal to its last one,
so that equal numbers never part.
-/

namespace DocAnalytics
namespace Bucket

/-- The numbers that rows have in a field, in the order of the rows. -/
def numbersOf (field : String) (rows : List Document) : List Json :=
  rows.filterMap fun row =>
    match row.at? field with
    | some v => if v.double?.isSome then some v else none
    | none => none

def sortValues (values : List Json) : List Json :=
  stableSort (fun a b => a.compare b == .lt) values

/-- Takes `more` values, and then those that compare equal to the value before them. -/
def cut : Nat → Json → List Json → List Json × List Json
  | _, _, [] => ([], [])
  | 0, last, v :: vs =>
    if v.compare last = .eq then
      let (slice, rest) := cut 0 v vs
      (v :: slice, rest)
    else ([], v :: vs)
  | more + 1, _, v :: vs =>
    let (slice, rest) := cut more v vs
    (v :: slice, rest)

/-- Cutting loses nothing. -/
theorem cut_append (more : Nat) (last : Json) (vs : List Json) :
    (cut more last vs).1 ++ (cut more last vs).2 = vs := by
  induction vs generalizing more last with
  | nil => cases more <;> rfl
  | cons v vs ih =>
    cases more with
    | zero =>
      unfold cut
      split
      · simpa using ih 0 v
      · rfl
    | succ more => simpa [cut] using ih more v

theorem length_cut_rest (more : Nat) (last : Json) (vs : List Json) :
    (cut more last vs).2.length ≤ vs.length := by
  have h := congrArg List.length (cut_append more last vs)
  simp only [List.length_append] at h
  omega

/-- The share of a slice, rounded up, if `count` values are left for `buckets` slices. -/
def share (count buckets : Nat) : Nat :=
  let slices := max buckets 1
  (count + slices - 1) / slices

def slices (buckets : Nat) : List Json → List (List Json)
  | [] => []
  | v :: vs =>
    let parts := cut (share (vs.length + 1) buckets - 1) v vs
    (v :: parts.1) :: slices (buckets - 1) parts.2
termination_by values => values.length
decreasing_by
  have := length_cut_rest (share (vs.length + 1) buckets - 1) v vs
  simp only [List.length_cons]
  omega

/-- The row of a slice; `upper` is where the bucket ends. -/
def row (slice : List Json) (upper : Json) : Document :=
  Document.ofList [
    ("_id", Json.ofMembers [("min", slice.headD .null), ("max", upper)]),
    ("count", Json.ofNat slice.length),
    ("min", Aggregate.of .min slice),
    ("max", Aggregate.of .max slice)]

/-- The rows of all slices. A bucket ends where the next one begins, the last one at its last
value. -/
def rowsOf : List (List Json) → List Document
  | [] => []
  | [slice] => [row slice (slice.getLastD .null)]
  | slice :: next :: rest => row slice (next.headD .null) :: rowsOf (next :: rest)

def run (field : String) (buckets : Nat) (rows : List Document) : List Document :=
  rowsOf (slices buckets (sortValues (numbersOf field rows)))

end Bucket
end DocAnalytics
