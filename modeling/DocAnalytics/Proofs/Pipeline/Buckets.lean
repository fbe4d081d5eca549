import DocAnalytics.Proofs.Pipeline.Sorting
import Mathlib.Algebra.GroupWithZero.Nat

/-!
# DocAnalytics.Proofs.Pipeline.Buckets

The slices of a list of values. They are the list again one after the other (`flatten_slices`), none
is empty (`ne_nil_of_mem_slices`), and there are no more of them than were asked for
(`length_slices_le`). Each has a row that counts its values (`map_count_rowsOf`).
-/

namespace DocAnalytics
namespace Bucket

/-! ## Slices -/

theorem cut_of_length_le {more : Nat} {vs : List Json} (last : Json) (h : vs.length ≤ more) :
    cut more last vs = (vs, []) := by
  induction vs generalizing more last with
  | nil => cases more <;> rfl
  | cons v vs ih =>
    cases more with
    | zero => cases h
    | succ more =>
      have hvs : vs.length ≤ more := Nat.le_of_succ_le_succ h
      rw [cut, ih v hvs]

/-- The last slice takes all that is left. -/
theorem share_of_le_one {buckets : Nat} (h : buckets ≤ 1) (count : Nat) :
    share count buckets = count := by
  have hmax : max buckets 1 = 1 := by omega
  rw [share, hmax, Nat.div_one, Nat.add_sub_cancel]

theorem length_sortValues (vs : List Json) : (sortValues vs).length = vs.length :=
  (stableSort_perm _ vs).length_eq

theorem flatten_slices (buckets : Nat) (vs : List Json) : (slices buckets vs).flatten = vs := by
  induction buckets, vs using slices.induct with
  | case1 buckets =>
    rw [slices]
    rfl
  | case2 buckets v vs parts ih =>
    rw [slices, List.flatten_cons, ih, List.cons_append, cut_append]

theorem ne_nil_of_mem_slices {buckets : Nat} {vs slice : List Json}
    (h : slice ∈ slices buckets vs) : slice ≠ [] := by
  induction buckets, vs using slices.induct with
  | case1 buckets =>
    rw [slices] at h
    cases h
  | case2 buckets v vs parts ih =>
    rw [slices, List.mem_cons] at h
    rcases h with rfl | h
    · exact List.cons_ne_nil v _
    · exact ih h

theorem length_slices_le (buckets : Nat) (vs : List Json) :
    (slices buckets vs).length ≤ max buckets 1 := by
  induction buckets, vs using slices.induct with
  | case1 buckets =>
    rw [slices]
    exact Nat.zero_le _
  | case2 buckets v vs parts ih =>
    have hlen : (slices buckets (v :: vs)).length = (slices (buckets - 1) parts.2).length + 1 := by
      rw [slices, List.length_cons]
    by_cases hlast : buckets ≤ 1
    · have hshare : vs.length ≤ share (vs.length + 1) buckets - 1 := by
        rw [share_of_le_one hlast]
        exact Nat.le_refl _
      have hall : parts = (vs, []) := cut_of_length_le v hshare
      have hrest : (slices (buckets - 1) parts.2).length = 0 := by
        rw [hall, slices]
        rfl
      omega
    · omega

theorem slices_eq_nil_iff {buckets : Nat} {vs : List Json} : slices buckets vs = [] ↔ vs = [] := by
  constructor
  · intro h
    rw [← flatten_slices buckets vs, h]
    rfl
  · rintro rfl
    rw [slices]

/-! ## The rows of slices -/

theorem length_rowsOf (slices : List (List Json)) : (rowsOf slices).length = slices.length := by
  induction slices using rowsOf.induct with
  | case1 => rfl
  | case2 slice => rfl
  | case3 slice next rest ih =>
    rw [rowsOf, List.length_cons, ih]
    rfl

theorem at?_count_row (slice : List Json) (upper : Json) :
    (row slice upper).at? "count" = some (Json.ofNat slice.length) := by
  have hmin : "count" ≠ "min" := by decide
  have hmax : "count" ≠ "max" := by decide
  have hsegments : Path.segments "count" = ["count"] := by decide +kernel
  rw [Document.at?, hsegments]
  simp only [Json.at?, Json.child?, Document.get?, row, Document.ofList, Keyed.ofList, List.foldl,
    Keyed.get?_insert_of_ne hmax, Keyed.get?_insert_of_ne hmin, Keyed.get?_insert_self]

theorem map_count_rowsOf (slices : List (List Json)) :
    (rowsOf slices).map (fun row => row.at? "count") =
      slices.map fun slice => some (Json.ofNat slice.length) := by
  induction slices using rowsOf.induct with
  | case1 => rfl
  | case2 slice => rw [rowsOf, List.map_singleton, at?_count_row, List.map_singleton]
  | case3 slice next rest ih =>
    rw [rowsOf, List.map_cons, at?_count_row, ih]
    rfl

/-- Buckets count each number once. -/
theorem sum_length_slices (buckets : Nat) (vs : List Json) :
    ((slices buckets (sortValues vs)).map List.length).sum = vs.length := by
  rw [← List.length_flatten, flatten_slices, length_sortValues]

end Bucket
end DocAnalytics
