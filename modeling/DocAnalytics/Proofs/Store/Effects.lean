import DocAnalytics.Store.Datastore

/-!
# DocAnalytics.Proofs.Store.Effects

What the operations of a store change. Putting documents into a collection leaves the others as they
are (`find_put_of_ne`, `get?_put_of_ne`); an upsert changes the first document of its identity and
no document of another one (`find?_upsert`, `filter_upsert`); a delete takes all documents of its
identity (`find_delete`). A call is refused or done, and a store that refuses the same calls all the
time goes on to do so (`attempt_of_refused`, `attempt_of_granted`).
-/

namespace DocAnalytics

theorem Document.hasId_insert (id : String) (d : Document) :
    (Document.insert "_id" (.string id) d).hasId id = true := by
  simp only [Document.hasId, Document.id?, Document.get?, Document.insert, Keyed.get?_insert_self,
    beq_self_eq_true]

theorem Document.hasId_of_ne {id other : String} {d : Document} (hd : d.hasId id = true)
    (h : other ≠ id) : d.hasId other = false := by
  rw [hasId, beq_iff_eq] at hd
  rw [hasId, hd, beq_eq_false_iff_ne]
  intro heq
  exact h (Option.some.inj heq).symm

namespace MemoryStore

variable (s : MemoryStore) {collection other : String}

/-! ## Putting documents into a collection -/

theorem find_put_self (collection : String) (docs : List Document) :
    (s.put collection docs).find collection = docs := by
  rw [find, put, Keyed.get?_insert_self, Option.getD_some]

theorem get?_put_of_ne (h : other ≠ collection) (docs : List Document) :
    Keyed.get? (s.put collection docs).collections other = Keyed.get? s.collections other :=
  Keyed.get?_insert_of_ne h docs s.collections

theorem find_put_of_ne (h : other ≠ collection) (docs : List Document) :
    (s.put collection docs).find other = s.find other := by
  rw [find, get?_put_of_ne s h, find]

/-! ## Replacing the documents of an identity -/

theorem replaceFirst_nil (id : String) (d : Document) : replaceFirst id d [] = [d] := rfl

theorem replaceFirst_cons (id : String) (d e : Document) (docs : List Document) :
    replaceFirst id d (e :: docs) =
      if e.hasId id then d :: docs else e :: replaceFirst id d docs := rfl

theorem find?_replaceFirst {id : String} {d : Document} (hd : d.hasId id = true)
    (docs : List Document) : (replaceFirst id d docs).find? (Document.hasId id) = some d := by
  induction docs with
  | nil => exact List.find?_cons_of_pos hd
  | cons e docs ih =>
    rw [replaceFirst_cons]
    split
    · exact List.find?_cons_of_pos hd
    · rename_i he
      rw [List.find?_cons_of_neg he]
      exact ih

theorem filter_replaceFirst {id : String} {d : Document} (hd : d.hasId id = true)
    (docs : List Document) :
    (replaceFirst id d docs).filter (!Document.hasId id ·) =
      docs.filter (!Document.hasId id ·) := by
  have hdrop : (!Document.hasId id d) = false := by rw [hd]; rfl
  induction docs with
  | nil => rw [replaceFirst_nil, List.filter_cons, hdrop]; rfl
  | cons e docs ih =>
    rw [replaceFirst_cons]
    split
    · rename_i he
      rw [List.filter_cons, List.filter_cons, hdrop, he]
      rfl
    · rw [List.filter_cons, List.filter_cons, ih]

section Replacing

variable {id other : String} {d e : Document} {docs : List Document}

theorem find?_replaceFirst_of_ne (h : other ≠ id) (hd : d.hasId id = true)
    (docs : List Document) :
    (replaceFirst id d docs).find? (Document.hasId other) =
      docs.find? (Document.hasId other) := by
  have hd' : ¬ d.hasId other = true := Bool.eq_false_iff.1 (Document.hasId_of_ne hd h)
  induction docs with
  | nil => exact List.find?_cons_of_neg hd'
  | cons f docs ih =>
    rw [replaceFirst_cons]
    split
    · rename_i hf
      have hf' : ¬ f.hasId other = true := Bool.eq_false_iff.1 (Document.hasId_of_ne hf h)
      rw [List.find?_cons_of_neg hd', List.find?_cons_of_neg hf']
    · rw [List.find?_cons, List.find?_cons, ih]

end Replacing

/-- The document that an upsert puts under an identity. -/
theorem find?_upsert (collection id : String) (d : Document) :
    ((s.upsert collection id d).find collection).find? (Document.hasId id) =
      some (Document.insert "_id" (.string id) d) := by
  rw [upsert, find_put_self]
  exact find?_replaceFirst (Document.hasId_insert id d) _

theorem filter_upsert (collection id : String) (d : Document) :
    ((s.upsert collection id d).find collection).filter (!Document.hasId id ·) =
      (s.find collection).filter (!Document.hasId id ·) := by
  rw [upsert, find_put_self]
  exact filter_replaceFirst (Document.hasId_insert id d) _

theorem get?_upsert_of_ne (h : other ≠ collection) (id : String) (d : Document) :
    Keyed.get? (s.upsert collection id d).collections other = Keyed.get? s.collections other :=
  get?_put_of_ne s h _

/-! ## Deleting the documents of an identity -/

theorem find_delete (collection id : String) :
    (s.delete collection id).2.find collection =
      (s.find collection).filter (!Document.hasId id ·) := by
  unfold delete
  split
  · rename_i hnone
    rw [find, hnone]
    rfl
  · rename_i docs hdocs
    rw [find_put_self, find, hdocs]
    rfl

theorem delete_eq_true_iff (collection id : String) :
    (s.delete collection id).1 = true ↔ ∃ d ∈ s.find collection, d.hasId id = true := by
  unfold delete
  split
  · rename_i hnone
    simp [find, hnone]
  · rename_i docs hdocs
    simp [find, hdocs, List.length_filter_lt_length_iff_exists]

/-- A delete leaves its collection as it was exactly if that has no document of the identity. -/
theorem get?_delete_eq_iff (collection id : String) :
    Keyed.get? (s.delete collection id).2.collections collection =
        Keyed.get? s.collections collection ↔
      ¬ ∃ d ∈ s.find collection, d.hasId id = true := by
  cases hdocs : Keyed.get? s.collections collection with
  | none => simp [delete, find, hdocs]
  | some docs =>
    have hput : Keyed.get? (s.delete collection id).2.collections collection =
        some (docs.filter (!Document.hasId id ·)) := by
      rw [delete, hdocs]
      exact Keyed.get?_insert_self collection _ s.collections
    rw [hput, Option.some.injEq, List.filter_eq_self, find, hdocs]
    simp

theorem get?_delete_of_ne (h : other ≠ collection) (id : String) :
    Keyed.get? (s.delete collection id).2.collections other = Keyed.get? s.collections other := by
  unfold delete
  split
  · rfl
  · exact get?_put_of_ne s h _

theorem find_delete_of_ne (h : other ≠ collection) (id : String) :
    (s.delete collection id).2.find other = s.find other := by
  rw [find, get?_delete_of_ne s h, find]

end MemoryStore

/-! ## Calls that are refused or done -/

namespace Datastore

section Attempt

variable {α : Type} (ds : Datastore) (call : StoreCall)
  (act : MemoryStore → Except StorageError α × MemoryStore)

/-- A call can be refused by its number. -/
theorem attempt_eq :
    ds.attempt call act =
      if ds.refuses ds.calls call then
        (.error (.refused call), { ds with calls := ds.calls + 1 })
      else
        ((act ds.store).1, { ds with calls := ds.calls + 1, store := (act ds.store).2 }) := by
  unfold attempt
  split <;> rfl

end Attempt

/-! ## Stores that refuse the same calls all the time -/

/-- A store that refuses the listed calls whenever they are made. -/
def Refuses (refused : List StoreCall) (ds : Datastore) : Prop :=
  ds.refuses = fun _ call => refused.contains call

theorem refuses_refusing (store : MemoryStore) (refused : List StoreCall) :
    Refuses refused (refusing store refused) := rfl

theorem refuses_willing (store : MemoryStore) : Refuses [] (willing store) := rfl

variable {α : Type} {refused : List StoreCall} {ds : Datastore} {call : StoreCall}

/-- A refused call fails and leaves the documents alone. -/
theorem attempt_of_refused (hds : Refuses refused ds) (hcall : call ∈ refused)
    (act : MemoryStore → Except StorageError α × MemoryStore) :
    ∃ after, ds.attempt call act = (.error (.refused call), after) ∧ after.store = ds.store ∧
      Refuses refused after := by
  have hrefuses : ds.refuses ds.calls call = true := by
    rw [hds]
    exact List.contains_iff_mem.2 hcall
  refine ⟨{ ds with calls := ds.calls + 1 }, ?_, rfl, hds⟩
  rw [attempt_eq, if_pos hrefuses]

/-- A call that is not refused is done. -/
theorem attempt_of_granted (hds : Refuses refused ds) (hcall : call ∉ refused)
    (act : MemoryStore → Except StorageError α × MemoryStore) :
    ∃ after, ds.attempt call act = ((act ds.store).1, after) ∧ after.store = (act ds.store).2 ∧
      Refuses refused after := by
  have hgrants : ¬ ds.refuses ds.calls call = true := by
    rw [hds]
    exact fun h => hcall (List.contains_iff_mem.1 h)
  refine ⟨{ ds with calls := ds.calls + 1, store := (act ds.store).2 }, ?_, rfl, hds⟩
  rw [attempt_eq, if_neg hgrants]

end Datastore
end DocAnalytics
