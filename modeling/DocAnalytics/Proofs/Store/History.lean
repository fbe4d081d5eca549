import DocAnalytics.Proofs.Store.Effects

/-!
# DocAnalytics.Proofs.Store.History

Calls of a store, one after the other. A call leaves the collections that it does not name alone
(`StoreOp.find_apply_of_ne`). What a store holds is told by its history in the form "some call
brought this about, and no later call undid it"; `since_concat` says what one more call does to
that.
-/

namespace DocAnalytics

/-- A call of a store. Queries, counts and pipelines all read. -/
inductive StoreOp where
  | insert (collection : String) (d : Document)
  | insertMany (collection : String) (docs : List Document)
  | upsert (collection id : String) (d : Document)
  | delete (collection id : String)
  | read (collection : String)
deriving DecidableEq

namespace StoreOp

def collection : StoreOp → String
  | insert c _ | insertMany c _ | upsert c _ _ | delete c _ | read c => c

/-- Whether a call adds documents under the identities that they bring or that they are given. -/
def isInsert : StoreOp → Bool
  | insert .. | insertMany .. => true
  | upsert .. | delete .. | read .. => false

def apply (s : MemoryStore) : StoreOp → MemoryStore
  | insert c d => (s.insert c d).2
  | insertMany c docs => (s.insertMany c docs).2
  | upsert c id d => s.upsert c id d
  | delete c id => (s.delete c id).2
  | read _ => s

end StoreOp

namespace MemoryStore

variable {s : MemoryStore} {c other : String}

theorem find_insert_of_ne (h : other ≠ c) (s : MemoryStore) (d : Document) :
    (s.insert c d).2.find other = s.find other := by
  unfold insert
  split
  · exact find_put_of_ne s h _
  · exact find_put_of_ne s h _

theorem find_insertMany_of_ne (h : other ≠ c) (s : MemoryStore) (docs : List Document) :
    (s.insertMany c docs).2.find other = s.find other := by
  induction docs generalizing s with
  | nil => rfl
  | cons d docs ih => exact (ih _).trans (find_insert_of_ne h s d)

def after (s : MemoryStore) (history : List StoreOp) : MemoryStore :=
  history.foldl StoreOp.apply s

@[simp] theorem after_nil : s.after [] = s := rfl

@[simp] theorem after_concat (history : List StoreOp) (op : StoreOp) :
    s.after (history ++ [op]) = op.apply (s.after history) := by
  simp [after]

end MemoryStore

theorem StoreOp.find_apply_of_ne {op : StoreOp} {other : String} (h : other ≠ op.collection)
    (s : MemoryStore) : (op.apply s).find other = s.find other := by
  cases op with
  | insert c d => exact MemoryStore.find_insert_of_ne h s d
  | insertMany c docs => exact MemoryStore.find_insertMany_of_ne h s docs
  | upsert c id d => exact MemoryStore.find_put_of_ne s h _
  | delete c id => exact MemoryStore.find_delete_of_ne s h id
  | read c => rfl

/-- Some call starts something, given the calls before it, and no later call ends it. -/
def Since (starts : List StoreOp → StoreOp → Prop) (ends : StoreOp → Prop)
    (history : List StoreOp) : Prop :=
  ∃ before op later, history = before ++ op :: later ∧ starts before op ∧ ∀ e ∈ later, ¬ ends e

namespace Since

variable {starts starts' : List StoreOp → StoreOp → Prop} {ends : StoreOp → Prop}
  {history : List StoreOp} {op : StoreOp}

@[simp] theorem since_nil : ¬ Since starts ends [] := by
  rintro ⟨before, op, later, h, _⟩
  simp at h

@[simp] theorem since_concat :
    Since starts ends (history ++ [op]) ↔
      starts history op ∨ (Since starts ends history ∧ ¬ ends op) := by
  constructor
  · rintro ⟨before, e, later, h, hstarts, hlater⟩
    -- The call that started it is the last one, or it is one of those before.
    rcases List.eq_nil_or_concat later with rfl | ⟨init, last, rfl⟩
    · obtain ⟨rfl, heq⟩ := List.append_inj' h rfl
      cases heq
      exact .inl hstarts
    · have hsplit : history ++ [op] = (before ++ e :: init) ++ [last] := by simp [h]
      obtain ⟨rfl, heq⟩ := List.append_inj' hsplit rfl
      cases heq
      exact .inr ⟨⟨before, e, init, rfl, hstarts, fun x hx => hlater x (by simp [hx])⟩,
        hlater _ (by simp)⟩
  · rintro (h | ⟨⟨before, e, later, rfl, hstarts, hlater⟩, hop⟩)
    · exact ⟨history, op, [], rfl, h, by simp⟩
    · refine ⟨before, e, later ++ [op], by simp, hstarts, ?_⟩
      intro x hx
      rcases List.mem_append.1 hx with hx | hx
      · exact hlater x hx
      · rw [List.mem_singleton.1 hx]
        exact hop

theorem mono
    (h : ∀ before op later, history = before ++ op :: later → starts before op → starts' before op)
    (hsince : Since starts ends history) : Since starts' ends history := by
  obtain ⟨before, op, later, heq, hstarts, hlater⟩ := hsince
  exact ⟨before, op, later, heq, h before op later heq hstarts, hlater⟩

end Since
end DocAnalytics
