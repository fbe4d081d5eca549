import DocAnalytics.Proofs.Keyed.Order
import DocAnalytics.Proofs.Store.Identities

/-!
# DocAnalytics.Proofs.Store.Tables

The collections of a store are in ascending order of their names from the time it is made
(`Made.sorted_after`), so it is the store of its own collections (`ofCollections_of_sorted`) but for
the number of the next identity.
-/

namespace DocAnalytics
namespace MemoryStore

variable {s : MemoryStore}

theorem sorted_insert (hs : Keyed.Sorted s.collections) (c : String) (d : Document) :
    Keyed.Sorted (s.insert c d).2.collections := by
  unfold MemoryStore.insert
  split
  · exact hs.insert _ _
  · exact hs.insert _ _

theorem sorted_insertMany (hs : Keyed.Sorted s.collections) (c : String) (docs : List Document) :
    Keyed.Sorted (s.insertMany c docs).2.collections := by
  induction docs generalizing s with
  | nil => exact hs
  | cons d docs ih => exact ih (sorted_insert hs c d)

theorem sorted_apply (hs : Keyed.Sorted s.collections) (op : StoreOp) :
    Keyed.Sorted (op.apply s).collections := by
  cases op with
  | insert c d => exact sorted_insert hs c d
  | insertMany c docs => exact sorted_insertMany hs c docs
  | upsert c id d => exact hs.insert _ _
  | delete c id =>
    rw [StoreOp.apply, MemoryStore.delete]
    split
    · exact hs
    · exact hs.insert _ _
  | read c => exact hs

theorem sorted_ofCollections (collections : Collections) :
    Keyed.Sorted (ofCollections collections).collections := by
  refine List.foldlRecOn collections _
    (motive := fun s : MemoryStore => Keyed.Sorted s.collections) List.Pairwise.nil ?_
  intro s hs member _
  exact hs.insert _ _

theorem Made.sorted (h : Made s) : Keyed.Sorted s.collections := by
  cases h with
  | empty => exact List.Pairwise.nil
  | ofCollections collections => exact sorted_ofCollections collections
  | ofSnapshot h =>
    unfold MemoryStore.ofSnapshot at h
    split at h
    · cases h
      exact sorted_ofCollections _
    · cases h

theorem Made.sorted_after (h : Made s) (history : List StoreOp) :
    Keyed.Sorted (s.after history).collections := by
  refine List.foldlRecOn history StoreOp.apply
    (motive := fun s => Keyed.Sorted s.collections) h.sorted ?_
  intro s hs op _
  exact sorted_apply hs op

theorem foldl_put_of_sorted {rest : Collections} (h : Keyed.Sorted (s.collections ++ rest)) :
    rest.foldl (fun s c => s.put c.1 (s.find c.1 ++ c.2)) s =
      { s with collections := s.collections ++ rest } := by
  induction rest generalizing s with
  | nil => simp
  | cons member rest ih =>
    have hlt := h.lt_next
    have hnone : s.find member.1 = [] := by
      rw [find, Keyed.get?_eq_none fun hmem => Std.lt_irrefl (hlt _ hmem)]
      rfl
    have hput : s.put member.1 (s.find member.1 ++ member.2) =
        { s with collections := s.collections ++ [member] } := by
      rw [hnone, put, List.nil_append, Keyed.insert_of_lt hlt]
    have hsplit : s.collections ++ member :: rest = (s.collections ++ [member]) ++ rest := by simp
    rw [List.foldl_cons, hput, hsplit]
    rw [hsplit] at h
    exact ih h

theorem ofCollections_of_sorted {collections : Collections} (h : Keyed.Sorted collections) :
    ofCollections collections = ⟨collections, 1⟩ := foldl_put_of_sorted (s := empty) h

end MemoryStore
end DocAnalytics
