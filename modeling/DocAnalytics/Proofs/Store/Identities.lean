import Mathlib.Data.List.Induction
import DocAnalytics.Proofs.Store.History
import DocAnalytics.Store.Snapshot

/-!
# DocAnalytics.Proofs.Store.Identities

Which identities a collection has after a history of calls (`has_after`), and whether the one that
is minted next is among them. The number that it is made of tells how many were minted since the
store was made (`minted_after`) and nothing about the documents, so only a caller that chose the
same identity can be in its way (`taken_iff_chosen`).
-/

namespace DocAnalytics

def mintedId (n : Nat) : String := toString ((n + 1) % Text.unsignedLimit)

def unnamed (docs : List Document) : Nat := docs.countP (·.id?.isNone)

/-- The identities under which documents are added after `n` were minted. -/
def addedIds (n : Nat) : List Document → List String
  | [] => []
  | d :: docs => d.id?.getD (mintedId n) :: addedIds (n + unnamed [d]) docs

namespace StoreOp

def inserted : StoreOp → List Document
  | insert _ d => [d]
  | insertMany _ docs => docs
  | upsert .. | delete .. | read .. => []

/-- Whether a call adds a document under an identity, when `n` identities were minted before. -/
def Brings (c id : String) (n : Nat) (op : StoreOp) : Prop :=
  op.collection = c ∧ (id ∈ addedIds n op.inserted ∨ ∃ d, op = .upsert c id d)

def Chooses (c id : String) (op : StoreOp) : Prop :=
  op.collection = c ∧ ((∃ d ∈ op.inserted, d.id? = some id) ∨ ∃ d, op = .upsert c id d)

end StoreOp

def minted (history : List StoreOp) : Nat := unnamed (history.flatMap StoreOp.inserted)

namespace MemoryStore

/-- A store as it is made: without collections, with given ones, or from a snapshot. -/
inductive Made : MemoryStore → Prop where
  | empty : Made MemoryStore.empty
  | ofCollections (collections : Collections) : Made (MemoryStore.ofCollections collections)
  | ofSnapshot {text : String} {s : MemoryStore} (h : MemoryStore.ofSnapshot text = .ok s) : Made s

/-- The collection has a document of the identity. -/
def Has (s : MemoryStore) (c id : String) : Prop := ∃ d ∈ s.find c, d.hasId id = true

/-- A document that was there at the start has the identity, or a later call brought it, and it was
not deleted since. -/
def Held (s : MemoryStore) (brings : List StoreOp → StoreOp → Prop) (c id : String)
    (history : List StoreOp) : Prop :=
  (s.Has c id ∧ StoreOp.delete c id ∉ history) ∨ Since brings (· = .delete c id) history

/-- The identity is held, whether a caller chose it or it was minted. -/
def Taken (s : MemoryStore) (c id : String) (history : List StoreOp) : Prop :=
  s.Held (fun before op => op.Brings c id (minted before)) c id history

/-- The identity is held by a document whose identity a caller chose. -/
def Chosen (s : MemoryStore) (c id : String) (history : List StoreOp) : Prop :=
  s.Held (fun _ op => op.Chooses c id) c id history

variable {s : MemoryStore} {c id other : String} {d : Document} {docs : List Document} {n : Nat}
  {history : List StoreOp} {op : StoreOp}

/-! ## The number of the next identity -/

theorem nextId_ofCollections (collections : Collections) :
    (ofCollections collections).nextId = 1 := by
  refine List.foldlRecOn collections _ (motive := fun s : MemoryStore => s.nextId = 1) rfl ?_
  intro s hs member _
  exact hs

theorem Made.nextId (h : Made s) : s.nextId = 1 := by
  cases h with
  | empty => rfl
  | ofCollections collections => exact nextId_ofCollections collections
  | ofSnapshot h =>
    unfold MemoryStore.ofSnapshot at h
    split at h
    · cases h
      exact nextId_ofCollections _
    · cases h

/-- The next identity is the one that is minted after `n` others. -/
def Minted (s : MemoryStore) (n : Nat) : Prop := s.nextId = (n + 1) % Text.unsignedLimit

theorem Minted.insert (hs : s.Minted n) (c : String) (d : Document) :
    (s.insert c d).2.Minted (n + unnamed [d]) := by
  unfold MemoryStore.insert
  split
  · rename_i id hid
    have hnone : unnamed [d] = 0 := by simp [unnamed, hid]
    rw [hnone]
    exact hs
  · rename_i hid
    have hone : unnamed [d] = 1 := by simp [unnamed, hid]
    have hnext : following s.nextId = (n + 1 + 1) % Text.unsignedLimit := by
      rw [following, hs, Nat.mod_add_mod]
    rw [hone]
    exact hnext

theorem Minted.insertMany (hs : s.Minted n) (c : String) (docs : List Document) :
    (s.insertMany c docs).2.Minted (n + unnamed docs) := by
  induction docs generalizing s n with
  | nil => exact hs
  | cons d docs ih =>
    have hsum : n + unnamed (d :: docs) = n + unnamed [d] + unnamed docs := by
      simp only [unnamed, List.countP_cons, List.countP_nil]
      omega
    rw [hsum]
    exact ih (hs.insert c d)

theorem Minted.apply (hs : s.Minted n) (op : StoreOp) :
    (op.apply s).Minted (n + unnamed op.inserted) := by
  cases op with
  | insert c d => exact hs.insert c d
  | insertMany c docs => exact hs.insertMany c docs
  | upsert c id d => exact hs
  | delete c id =>
    simp only [StoreOp.apply, delete]
    split
    · exact hs
    · exact hs
  | read c => exact hs

theorem Made.minted_after (hs : Made s) (history : List StoreOp) :
    (s.after history).Minted (minted history) := by
  induction history using List.reverseRec with
  | nil => exact hs.nextId
  | append_singleton history op ih => simpa [minted, unnamed] using ih.apply op

/-! ## The identities of a collection -/

theorem insert_fst (hs : s.Minted n) (c : String) (d : Document) :
    (s.insert c d).1 = d.id?.getD (mintedId n) := by
  have hnext : s.nextId = (n + 1) % Text.unsignedLimit := hs
  cases hd : d.id? with
  | some id => simp [insert, hd]
  | none => simp [insert, hd, mintedId, hnext]

/-- An inserted document comes last, under the identity that is returned. -/
theorem find_insert (s : MemoryStore) (c : String) (d : Document) :
    ∃ e, e.id? = some (s.insert c d).1 ∧ (s.insert c d).2.find c = s.find c ++ [e] := by
  cases hd : d.id? with
  | some id => exact ⟨d, by simp [insert, hd, find_put_self]⟩
  | none =>
    refine ⟨Document.insert "_id" (.string (toString s.nextId)) d, ?_, ?_⟩
    · simpa [Document.hasId, insert, hd] using Document.hasId_insert (toString s.nextId) d
    · simp only [insert, hd]
      exact find_put_self s c _

theorem has_insert (s : MemoryStore) (c : String) (d : Document) (id : String) :
    (s.insert c d).2.Has c id ↔ s.Has c id ∨ id = (s.insert c d).1 := by
  obtain ⟨e, he, hfind⟩ := find_insert s c d
  simp only [Has, hfind, List.mem_append, List.mem_singleton, or_and_right, exists_or,
    exists_eq_left, Document.hasId, he, beq_iff_eq, Option.some.injEq, @eq_comm _ id]

/-- Deleting what was inserted undoes the insert exactly if its identity is new. -/
theorem find_delete_insert (s : MemoryStore) (c : String) (d : Document) :
    ((s.insert c d).2.delete c (s.insert c d).1).2.find c = s.find c ↔
      ∀ e ∈ s.find c, e.id? ≠ some (s.insert c d).1 := by
  obtain ⟨e, he, hfind⟩ := find_insert s c d
  have hlast : [e].filter (!Document.hasId (s.insert c d).1 ·) = [] := by
    simp [Document.hasId, he]
  rw [find_delete, hfind, List.filter_append, hlast, List.append_nil, List.filter_eq_self]
  simp [Document.hasId]

theorem insertMany_fst (hs : s.Minted n) (c : String) (docs : List Document) :
    (s.insertMany c docs).1 = addedIds n docs := by
  induction docs generalizing s n with
  | nil => rfl
  | cons d docs ih =>
    rw [addedIds, ← insert_fst hs c, ← ih (hs.insert c d)]
    rfl

theorem has_insertMany (s : MemoryStore) (c : String) (docs : List Document) (id : String) :
    (s.insertMany c docs).2.Has c id ↔ s.Has c id ∨ id ∈ (s.insertMany c docs).1 := by
  induction docs generalizing s with
  | nil => simp [insertMany]
  | cons d docs ih =>
    rw [insertMany, List.mem_cons, ← or_assoc, ← has_insert]
    exact ih _

theorem has_iff_find? : s.Has c id ↔ ((s.find c).find? (Document.hasId id)).isSome := by
  rw [List.find?_isSome, Has]

theorem has_upsert (s : MemoryStore) (c id : String) (d : Document) (other : String) :
    (s.upsert c id d).Has c other ↔ s.Has c other ∨ other = id := by
  by_cases h : other = id
  · subst h
    simp [has_iff_find?, find?_upsert]
  · rw [has_iff_find?, has_iff_find?, upsert, find_put_self,
      find?_replaceFirst_of_ne h (Document.hasId_insert id d)]
    simp [h]

theorem has_delete (s : MemoryStore) (c id other : String) :
    (s.delete c id).2.Has c other ↔ s.Has c other ∧ other ≠ id := by
  simp only [Has, find_delete, List.mem_filter, Bool.not_eq_true']
  constructor
  · rintro ⟨d, ⟨hd, hid⟩, hother⟩
    refine ⟨⟨d, hd, hother⟩, ?_⟩
    rintro rfl
    rw [hother] at hid
    cases hid
  · rintro ⟨⟨d, hd, hother⟩, hne⟩
    exact ⟨d, ⟨hd, Document.hasId_of_ne hother (Ne.symm hne)⟩, hother⟩

/-- What one call does to the identities of a collection. -/
theorem has_apply (hs : s.Minted n) (op : StoreOp) (c id : String) :
    (op.apply s).Has c id ↔ op.Brings c id n ∨ (s.Has c id ∧ op ≠ .delete c id) := by
  by_cases hc : op.collection = c
  · subst hc
    cases op with
    | insert c d =>
      simp only [StoreOp.apply, StoreOp.collection, StoreOp.Brings, StoreOp.inserted, has_insert,
        insert_fst hs, addedIds]
      simp [or_comm]
    | insertMany c docs =>
      simp only [StoreOp.apply, StoreOp.collection, StoreOp.Brings, StoreOp.inserted,
        has_insertMany, insertMany_fst hs]
      simp [or_comm]
    | upsert c i d =>
      simp only [StoreOp.apply, StoreOp.collection, StoreOp.Brings, StoreOp.inserted, has_upsert]
      simp [or_comm, addedIds, eq_comm]
    | delete c i =>
      simp only [StoreOp.apply, StoreOp.collection, StoreOp.Brings, StoreOp.inserted, has_delete]
      simp [addedIds, eq_comm]
    | read c => simp [StoreOp.apply, StoreOp.Brings, StoreOp.inserted, addedIds]
  · have hother : op ≠ .delete c id := by
      rintro rfl
      exact hc rfl
    simp [Has, StoreOp.find_apply_of_ne (Ne.symm hc), StoreOp.Brings, hc, hother]

/-- The identities of a collection after a history. -/
theorem Made.has_after (hs : Made s) (c id : String) (history : List StoreOp) :
    (s.after history).Has c id ↔ s.Taken c id history := by
  unfold Taken
  induction history using List.reverseRec with
  | nil => simp [Held]
  | append_singleton history op ih =>
    -- How many identities were minted so far tells which ones the last call brings.
    rw [after_concat, has_apply (hs.minted_after history), ih]
    simp only [Held, Since.since_concat, List.mem_append, List.mem_singleton]
    tauto

/-! ## Minted identities among those that callers chose -/

theorem mintedId_inj {m n : Nat} (hm : m < Text.unsignedLimit) (hn : n < Text.unsignedLimit)
    (h : mintedId m = mintedId n) : m = n := by
  have hdigits : Nat.toDigits 10 ((m + 1) % Text.unsignedLimit) =
      Nat.toDigits 10 ((n + 1) % Text.unsignedLimit) := by
    rw [← Nat.toList_repr, ← Nat.toList_repr]
    exact congrArg String.toList h
  have hmod := congrArg (Nat.ofDigitChars 10 · 0) hdigits
  simp only [Nat.ofDigitChars_toDigits (show 1 < 10 by decide) (Nat.le_refl 10)] at hmod
  unfold Text.unsignedLimit at *
  omega

theorem mem_addedIds (n : Nat) (docs : List Document) (id : String) :
    id ∈ addedIds n docs ↔
      (∃ d ∈ docs, d.id? = some id) ∨ ∃ k, n ≤ k ∧ k < n + unnamed docs ∧ id = mintedId k := by
  induction docs generalizing n with
  | nil =>
    simp only [addedIds, unnamed, List.countP_nil, List.not_mem_nil, false_and, exists_false,
      false_or, false_iff]
    rintro ⟨k, hle, hlt, _⟩
    omega
  | cons d docs ih =>
    rw [addedIds, List.mem_cons, ih]
    cases hd : d.id? with
    | some other =>
      have hnone : unnamed [d] = 0 := by simp [unnamed, hd]
      have hcount : unnamed (d :: docs) = unnamed docs := by simp [unnamed, hd]
      simp [hnone, hcount, hd, or_assoc, @eq_comm _ id]
    | none =>
      -- The first of the numbers in range goes to the first document.
      have hone : unnamed [d] = 1 := by simp [unnamed, hd]
      have hrange : ∀ k, n ≤ k ∧ k < n + unnamed (d :: docs) ↔
          k = n ∨ n + 1 ≤ k ∧ k < n + 1 + unnamed docs := by
        intro k
        have hcount : unnamed (d :: docs) = unnamed docs + 1 := by simp [unnamed, hd]
        omega
      simp [hone, ← and_assoc, hrange, or_and_right, exists_or, hd, or_left_comm]

theorem brings_iff_chooses {m : Nat} (hm : m + unnamed op.inserted ≤ n)
    (hn : n < Text.unsignedLimit) :
    op.Brings c (mintedId n) m ↔ op.Chooses c (mintedId n) := by
  rw [StoreOp.Brings, StoreOp.Chooses, mem_addedIds]
  have hfresh : ¬ ∃ k, m ≤ k ∧ k < m + unnamed op.inserted ∧ mintedId n = mintedId k := by
    rintro ⟨k, _, hk, heq⟩
    have : n = k := mintedId_inj hn (by omega) heq
    omega
  simp only [hfresh, or_false]

theorem taken_iff_chosen (s : MemoryStore) (c : String) (hn : minted history < Text.unsignedLimit) :
    s.Taken c (mintedId (minted history)) history ↔
      s.Chosen c (mintedId (minted history)) history := by
  have hbrings : ∀ before op later, history = before ++ op :: later →
      (op.Brings c (mintedId (minted history)) (minted before) ↔
        op.Chooses c (mintedId (minted history))) := by
    intro before op later heq
    refine brings_iff_chooses ?_ hn
    rw [heq]
    simp only [minted, unnamed, List.flatMap_append, List.flatMap_cons, List.countP_append]
    omega
  refine or_congr_right ⟨Since.mono ?_, Since.mono ?_⟩
  · exact fun before op later heq => (hbrings before op later heq).1
  · exact fun before op later heq => (hbrings before op later heq).2

/-- The identity of a document that has none of its own depends only on how many were minted
before. It is new to the collection, and deleting it undoes the insert, exactly if it is not taken.
While the numbers last, only an identity that a caller chose can be in its way. -/
theorem minted_identity_fresh_iff (hs : Made s) (history : List StoreOp) (c : String)
    (hd : d.id? = none) :
    let t := s.after history
    let id := mintedId (minted history)
    (t.insert c d).1 = id ∧
      ((∀ e ∈ t.find c, e.id? ≠ some id) ↔ ¬ s.Taken c id history) ∧
      (((t.insert c d).2.delete c id).2.find c = t.find c ↔ ¬ s.Taken c id history) ∧
      (minted history < Text.unsignedLimit →
        (s.Taken c id history ↔ s.Chosen c id history)) := by
  intro t id
  have hid : (t.insert c d).1 = id := by
    rw [insert_fst (hs.minted_after history), hd, Option.getD_none]
  have hfresh : (∀ e ∈ t.find c, e.id? ≠ some id) ↔ ¬ s.Taken c id history := by
    rw [← hs.has_after]
    simp [Has, Document.hasId, t]
  have hundone := find_delete_insert t c d
  rw [hid, hfresh] at hundone
  exact ⟨hid, hfresh, hundone, taken_iff_chosen s c⟩

/-- A caller that puts a document under "1" takes the first identity, and gives it back by
deleting the document. -/
theorem minted_identity_fresh_iff_deleted :
    let taken : List StoreOp := [.upsert "c" "1" []]
    let freed : List StoreOp := taken ++ [.delete "c" "1"]
    let undone (history : List StoreOp) : Prop :=
      ((((MemoryStore.empty.after history).insert "c" []).2.delete "c" "1").2.find "c" =
        (MemoryStore.empty.after history).find "c")
    Made MemoryStore.empty ∧ Document.id? [] = none ∧
      ((MemoryStore.empty.after taken).insert "c" []).1 = "1" ∧
      MemoryStore.empty.Chosen "c" "1" taken ∧ ¬ undone taken ∧
      ((MemoryStore.empty.after freed).insert "c" []).1 = "1" ∧
      ¬ MemoryStore.empty.Chosen "c" "1" freed ∧ undone freed := by
  intro taken freed undone
  have hd : Document.id? [] = none := rfl
  have hone : mintedId 0 = "1" := by decide +kernel
  have hminted : minted taken = 0 := rfl
  have hminted' : minted freed = 0 := rfl
  obtain ⟨hid, hfresh, hundone, hchosen⟩ := minted_identity_fresh_iff .empty taken "c" hd
  obtain ⟨hid', hfresh', hundone', hchosen'⟩ := minted_identity_fresh_iff .empty freed "c" hd
  rw [hminted, hone] at hid hfresh hundone hchosen
  rw [hminted', hone] at hid' hfresh' hundone' hchosen'
  have htaken : MemoryStore.empty.Taken "c" "1" taken := by
    by_contra hnot
    exact absurd (hfresh.2 hnot) (by decide +kernel)
  have hfreed : ¬ MemoryStore.empty.Taken "c" "1" freed := hfresh'.1 (by decide +kernel)
  refine ⟨.empty, hd, hid, (hchosen (by decide)).1 htaken, ?_, hid', ?_, hundone'.2 hfreed⟩
  · exact fun h => hundone.1 h htaken
  · exact fun h => hfreed ((hchosen' (by decide)).2 h)

/-- Loading a store again makes it mint the same identity once more. -/
theorem minted_identity_taken_after_snapshot :
    let saved := (MemoryStore.empty.insert "c" []).2
    ∃ s, MemoryStore.ofSnapshot (saved.toSnapshot "2024-01-01T00:00:00Z") = .ok s ∧
      s.find "c" = [Document.ofList [("_id", .string "1")]] ∧ (s.insert "c" []).1 = "1" ∧
      ((s.insert "c" []).2.delete "c" "1").2.find "c" = [] := by
  refine ⟨⟨[("c", [Document.ofList [("_id", .string "1")]])], 1⟩, ?_, ?_, ?_, ?_⟩ <;> decide +kernel

end MemoryStore
end DocAnalytics
