import DocAnalytics.Keyed
import Mathlib.Data.List.Basic

/-!
# DocAnalytics.Proofs.Keyed.Order

Tables stand in ascending order of keys, and setting a key keeps them so (`Sorted.insert`). A table
that is in order is the table of its own members (`ofList_of_sorted`), and members with distinct
keys, written in any order, make the table of the members sorted by key (`ofList_eq_mergeSort`).
Lists of names grow at the end where each name stands once, where it first appears
(`eraseDups_concat`).
-/

namespace DocAnalytics
namespace Keyed

variable {α : Type} {m rest : List (String × α)} {key k : String} {value : α}

theorem mem_keys_insert :
    k ∈ keys (Keyed.insert key value m) ↔ k = key ∨ k ∈ keys m := by
  induction m with
  | nil => simp [Keyed.insert, keys]
  | cons member m ih =>
    obtain ⟨first, v⟩ := member
    unfold Keyed.insert
    split
    · rename_i hkey
      subst hkey
      simp [keys]
    · split
      · simp [keys]
      · simp only [keys, List.map_cons, List.mem_cons] at ih ⊢
        rw [ih, or_left_comm]

theorem Sorted.insert (h : Sorted m) (key : String) (value : α) :
    Sorted (Keyed.insert key value m) := by
  induction m with
  | nil => exact List.pairwise_singleton _ _
  | cons member m ih =>
    obtain ⟨first, v⟩ := member
    obtain ⟨hfirst, hm⟩ := List.pairwise_cons.1 h
    unfold Keyed.insert
    split
    · rename_i hkey
      subst hkey
      exact h
    · rename_i hne
      split
      · rename_i hlt
        refine List.pairwise_cons.2 ⟨?_, h⟩
        intro k hk
        rcases List.mem_cons.1 hk with rfl | hk
        · exact hlt
        · exact String.lt_trans hlt (hfirst k hk)
      · rename_i hnot
        refine List.pairwise_cons.2 ⟨?_, ih hm⟩
        intro k hk
        rcases mem_keys_insert.1 hk with rfl | hk
        · exact Std.lt_of_le_of_ne (Std.not_lt.1 hnot) (Ne.symm hne)
        · exact hfirst k hk

/-- A key behind all others is added at the end. -/
theorem insert_of_lt (h : ∀ k ∈ keys m, k < key) (value : α) :
    Keyed.insert key value m = m ++ [(key, value)] := by
  induction m with
  | nil => rfl
  | cons member m ih =>
    obtain ⟨first, v⟩ := member
    have hlt : first < key := h first List.mem_cons_self
    have hne : key ≠ first := (Std.ne_of_lt hlt).symm
    have hnot : ¬ key < first := Std.not_lt.2 (Std.le_of_lt hlt)
    rw [Keyed.insert, if_neg hne, if_neg hnot, ih fun k hk => h k (List.mem_cons_of_mem _ hk)]
    rfl

/-- The first key that is still to come is behind those that are there. -/
theorem Sorted.lt_next {member : String × α} (h : Sorted (m ++ member :: rest)) :
    ∀ k ∈ keys m, k < member.1 := by
  intro k hk
  rw [Sorted, keys, List.map_append, List.pairwise_append] at h
  exact h.2.2 k hk member.1 List.mem_cons_self

theorem foldl_insert_of_sorted (h : Sorted (m ++ rest)) :
    rest.foldl (fun m member => Keyed.insert member.1 member.2 m) m = m ++ rest := by
  induction rest generalizing m with
  | nil => simp
  | cons member rest ih =>
    have hsplit : m ++ member :: rest = (m ++ [member]) ++ rest := by simp
    rw [List.foldl_cons, insert_of_lt h.lt_next, hsplit]
    exact ih (hsplit ▸ h)

theorem ofList_of_sorted (h : Sorted m) : ofList m = m := foldl_insert_of_sorted h

theorem Sorted.get?_of_mem (h : Sorted m) (hmem : (key, value) ∈ m) : get? m key = some value := by
  induction m with
  | nil => cases hmem
  | cons member m ih =>
    obtain ⟨hfirst, hm⟩ := List.pairwise_cons.1 h
    rcases List.mem_cons.1 hmem with rfl | hmem
    · exact List.lookup_cons_self
    · have hne : (key == member.1) = false := by
        have hlt : member.1 < key := hfirst key (List.mem_map.2 ⟨_, hmem, rfl⟩)
        simpa using (Std.ne_of_lt hlt).symm
      rw [get?, List.lookup_cons, hne]
      exact ih hm hmem

/-! ## Members written in any order -/

theorem insert_perm (h : key ∉ keys m) (value : α) :
    (Keyed.insert key value m).Perm ((key, value) :: m) := by
  induction m with
  | nil => exact .refl _
  | cons member m ih =>
    obtain ⟨first, v⟩ := member
    have hne : key ≠ first := fun heq => h (heq ▸ List.mem_cons_self)
    have hrest : key ∉ keys m := fun hmem => h (List.mem_cons_of_mem first hmem)
    rw [Keyed.insert, if_neg hne]
    split
    · exact .refl _
    · exact ((ih hrest).cons _).trans (.swap _ _ m)

theorem foldl_insert_perm (h : (keys (m ++ rest)).Nodup) :
    (rest.foldl (fun m member => Keyed.insert member.1 member.2 m) m).Perm (m ++ rest) := by
  induction rest generalizing m with
  | nil => simp
  | cons member rest ih =>
    have hmiddle : (m ++ member :: rest).Perm (member :: m ++ rest) := List.perm_middle
    have hnew : member.1 ∉ keys m := by
      have hnodup := (hmiddle.map Prod.fst).nodup_iff.1 h
      intro hmem
      exact (List.nodup_cons.1 hnodup).1 (by simpa [keys] using Or.inl hmem)
    have hinsert : (Keyed.insert member.1 member.2 m ++ rest).Perm (m ++ member :: rest) :=
      ((insert_perm hnew member.2).append_right rest).trans hmiddle.symm
    rw [List.foldl_cons]
    exact (ih ((hinsert.map Prod.fst).nodup_iff.2 h)).trans hinsert

theorem ofList_perm {members : List (String × α)} (h : (keys members).Nodup) :
    (ofList members).Perm members := foldl_insert_perm (m := []) h

theorem sorted_ofList (members : List (String × α)) : Sorted (ofList members) := by
  refine List.foldlRecOn members _ (motive := Sorted) List.Pairwise.nil ?_
  intro m hm member _
  exact hm.insert member.1 member.2

/-- Two members in the order of their keys. -/
def inOrder (a b : String × α) : Bool := decide (a.1 ≤ b.1)

theorem sorted_mergeSort {members : List (String × α)} (h : (keys members).Nodup) :
    Sorted (members.mergeSort inOrder) := by
  have hperm := (List.mergeSort_perm members inOrder).map Prod.fst
  have hle : (members.mergeSort inOrder).Pairwise fun a b => a.1 ≤ b.1 := by
    refine (List.pairwise_mergeSort ?_ ?_ members).imp fun h => of_decide_eq_true h
    · intro a b c hab hbc
      exact decide_eq_true (String.le_trans (of_decide_eq_true hab) (of_decide_eq_true hbc))
    · intro a b
      rw [Bool.or_eq_true]
      exact (String.le_total a.1 b.1).imp decide_eq_true decide_eq_true
  have hne := hperm.nodup_iff.2 h
  refine (List.pairwise_map.2 hle).imp₂ ?_ hne
  exact fun _ _ hab hne => Std.lt_of_le_of_ne hab hne

/-- Members with distinct keys make the table of the members sorted by key. -/
theorem ofList_eq_mergeSort {members : List (String × α)} (h : (keys members).Nodup) :
    ofList members = members.mergeSort inOrder := by
  have hperm := (ofList_perm h).trans (List.mergeSort_perm members inOrder).symm
  refine hperm.eq_of_pairwise (fun a b _ _ hab hba => ?_)
    (List.pairwise_map.1 (sorted_ofList members)) (List.pairwise_map.1 (sorted_mergeSort h))
  exact absurd hba (Std.not_lt.2 (Std.le_of_lt hab))

/-! ## Keys where they first appear -/

theorem eraseDups_concat (names : List String) (name : String) :
    (names ++ [name]).eraseDups =
      if name ∈ names then names.eraseDups else names.eraseDups ++ [name] := by
  rw [List.eraseDups_append]
  split
  · rename_i hseen
    have hnone : List.removeAll [name] names = [] := by simpa [List.removeAll] using hseen
    rw [hnone, List.eraseDups_nil, List.append_nil]
  · rename_i hnew
    have hkept : List.removeAll [name] names = [name] := by simpa [List.removeAll] using hnew
    rw [hkept]
    rfl

end Keyed
end DocAnalytics
