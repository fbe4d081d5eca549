import DocAnalytics.Proofs.Json.Printing
import DocAnalytics.Proofs.Store.Tables

/-!
# DocAnalytics.Proofs.Store.Restoring

Saving a store and loading it again. The frame that a snapshot puts around the documents is read
back as it was written (`Snapshot.read?_text`), so if each document is read back, the loaded store
has the same collections. Only the number of the next identity starts again, and on that no call
depends that mints none (`Datastore.answers_of_alike`).
-/

namespace DocAnalytics

open Json (Source)

/-! ## The text of a snapshot -/

namespace Snapshot

/-- The text of a document is read as the document. It is the text that stands in a snapshot, three
levels deep, and the reader has the levels left that it has there. -/
def ReadsBack (d : Document) : Prop :=
  (Source.readChars? (Json.prettyChars 3 (.object d))).bind (Source.value? documentDepth) =
    some (.object d)

instance : DecidablePred ReadsBack := fun _ => inferInstanceAs (Decidable (_ = _))

variable {d : Document} {docs : List Document} {collections : Collections} {savedAt : String}

/-- Only the text of an object has an object as its value. -/
theorem exists_members_of_value? {levels : Nat} {source : Source}
    (h : Source.value? levels source = some (.object d)) :
    ∃ members, source = .object members := by
  cases source with
  | object members => exact ⟨members, rfl⟩
  | null => cases h
  | bool b => cases h
  | number l =>
    obtain ⟨_, _, heq⟩ := Option.map_eq_some_iff.1 h
    cases heq
  | string units =>
    obtain ⟨_, _, heq⟩ := Option.map_eq_some_iff.1 h
    cases heq
  | array items =>
    cases levels with
    | zero => cases h
    | succ levels =>
      obtain ⟨_, _, heq⟩ := Option.map_eq_some_iff.1 h
      cases heq

theorem ReadsBack.exists_source (h : ReadsBack d) :
    ∃ source, Json.Spells (Json.prettyChars 3 (.object d)) source ∧
      Source.value? documentDepth source = some (.object d) := by
  obtain ⟨source, hread, hvalue⟩ := Option.bind_eq_some_iff.1 h
  obtain ⟨members, rfl⟩ := exists_members_of_value? hvalue
  exact ⟨_, Json.spells_of_readChars? hread, hvalue⟩

theorem exists_documents (h : ∀ d ∈ docs, ReadsBack d) :
    ∃ values, Json.SpellsEach 3 (docs.map .object) values ∧ documents? values = some docs := by
  induction docs with
  | nil => exact ⟨[], .nil, rfl⟩
  | cons d docs ih =>
    obtain ⟨source, hspells, hvalue⟩ := (h d List.mem_cons_self).exists_source
    obtain ⟨values, heach, hdocs⟩ := ih fun e he => h e (List.mem_cons_of_mem d he)
    refine ⟨source :: values, .cons hspells heach, ?_⟩
    rw [documents?, hvalue, hdocs]

theorem exists_members (h : ∀ member ∈ collections, ∀ d ∈ member.2, ReadsBack d) :
    ∃ members,
      Json.SpellsEachMember 2
        (collections.map fun (name, docs) => (name, .array (docs.map .object))) members ∧
      members? members = some collections := by
  induction collections with
  | nil => exact ⟨[], .nil, rfl⟩
  | cons member collections ih =>
    obtain ⟨name, docs⟩ := member
    obtain ⟨values, heach, hdocs⟩ := exists_documents (h (name, docs) List.mem_cons_self)
    obtain ⟨members, hmembers, hcollections⟩ :=
      ih fun other hother => h other (List.mem_cons_of_mem _ hother)
    refine ⟨(Json.units name, .array values) :: members,
      .cons ⟨rfl, Json.spells_array heach⟩ hmembers, ?_⟩
    rw [members?, Json.text?_units, hdocs, hcollections]

/-- A snapshot whose documents are read back is read as the collections it was written from. -/
theorem read?_text (hsaved : Timestamp.isTimestamp savedAt = true)
    (h : ∀ member ∈ collections, ∀ d ∈ member.2, ReadsBack d) :
    read? (text savedAt collections) = some (Keyed.ofList collections) := by
  obtain ⟨members, heach, hmembers⟩ := exists_members h
  let frame : List (List Nat × Source) :=
    [(Json.units "saved_at", .string (Json.units savedAt)),
      (Json.units "collections", .object members)]
  have hspells : Source.read? (text savedAt collections) = some (.object frame) := by
    rw [text, Json.pretty, Source.read?, String.toList_ofList]
    exact (Json.spells_object (.cons ⟨rfl, Json.spells_string 1 savedAt⟩
      (.cons ⟨rfl, Json.spells_object heach⟩ .nil))).readChars?
  have hfields : Source.fields? ["saved_at", "collections"] (.object frame) =
      some [("saved_at", .string (Json.units savedAt)), ("collections", .object members)] := by
    simp [frame, Source.fields?, Source.knownMembers?]
  simp [read?, hspells, hfields, isSavedAt, hsaved, hmembers, List.lookup_cons]

end Snapshot

/-! ## Calls that mint no identity -/

namespace Datastore

/-- A call under which no document is given a number. -/
inductive NamedCall where
  | aggregate (collection : String) (stages : List Stage)
  | find (collection : String)
  | count (collection : String)
  | upsert (collection id : String) (d : Document)
  | delete (collection id : String)

/-- What a call answers. -/
inductive Answer where
  | documents (result : Except StorageError (List Document))
  | count (result : Except StorageError Nat)
  | done (result : Except StorageError Unit)
  | removed (result : Except StorageError Bool)
deriving DecidableEq

def answer (ds : Datastore) : NamedCall → Answer × Datastore
  | .aggregate c stages => (ds.aggregate c stages).map .documents id
  | .find c => (ds.find c).map .documents id
  | .count c => (ds.count c).map .count id
  | .upsert c key d => (ds.upsert c key d).map .done id
  | .delete c key => (ds.delete c key).map .removed id

def answers (ds : Datastore) : List NamedCall → List Answer
  | [] => []
  | call :: calls => (ds.answer call).1 :: (ds.answer call).2.answers calls

/-- Stores that differ at most in the number of the next identity. -/
structure Alike (ds es : Datastore) : Prop where
  collections : ds.store.collections = es.store.collections
  calls : ds.calls = es.calls
  refuses : ds.refuses = es.refuses

variable {ds es : Datastore}

theorem Alike.attempt {α : Type} (h : Alike ds es) (call : StoreCall)
    (act : MemoryStore → Except StorageError α × MemoryStore)
    (hresult : (act ds.store).1 = (act es.store).1)
    (hafter : (act ds.store).2.collections = (act es.store).2.collections) :
    (ds.attempt call act).1 = (es.attempt call act).1 ∧
      Alike (ds.attempt call act).2 (es.attempt call act).2 := by
  rw [attempt_eq, attempt_eq, h.calls, h.refuses]
  split
  · exact ⟨rfl, h.collections, rfl, rfl⟩
  · exact ⟨hresult, hafter, rfl, rfl⟩

theorem Alike.find_eq (h : Alike ds es) (c : String) : ds.store.find c = es.store.find c := by
  rw [MemoryStore.find, h.collections, MemoryStore.find]

/-- One call: the answers agree, and the stores stay alike. -/
theorem Alike.answer (h : Alike ds es) (call : NamedCall) :
    (ds.answer call).1 = (es.answer call).1 ∧ Alike (ds.answer call).2 (es.answer call).2 := by
  cases call with
  | aggregate c stages =>
    obtain ⟨hresult, hafter⟩ := h.attempt .aggregate
      (fun s => (runPipeline stages (s.find c), s)) (by rw [h.find_eq]) h.collections
    exact ⟨congrArg Answer.documents hresult, hafter⟩
  | find c =>
    obtain ⟨hresult, hafter⟩ := h.attempt .find
      (fun s => (.ok (s.find c), s)) (by rw [h.find_eq]) h.collections
    exact ⟨congrArg Answer.documents hresult, hafter⟩
  | count c =>
    obtain ⟨hresult, hafter⟩ := h.attempt .count
      (fun s => (.ok (s.count c), s)) (by simp only [MemoryStore.count, h.find_eq])
      h.collections
    exact ⟨congrArg Answer.count hresult, hafter⟩
  | upsert c id d =>
    have hput : (ds.store.upsert c id d).collections = (es.store.upsert c id d).collections := by
      simp only [MemoryStore.upsert, MemoryStore.put, h.find_eq, h.collections]
    obtain ⟨hresult, hafter⟩ := h.attempt .upsert
      (fun s => (.ok (), s.upsert c id d)) rfl hput
    exact ⟨congrArg Answer.done hresult, hafter⟩
  | delete c id =>
    have hdelete : (ds.store.delete c id).1 = (es.store.delete c id).1 ∧
        (ds.store.delete c id).2.collections = (es.store.delete c id).2.collections := by
      unfold MemoryStore.delete
      rw [h.collections]
      split
      · exact ⟨rfl, h.collections⟩
      · exact ⟨rfl, by simp only [MemoryStore.put, h.collections]⟩
    obtain ⟨hresult, hafter⟩ := h.attempt .delete
      (fun s => (.ok (s.delete c id).1, (s.delete c id).2))
      (congrArg Except.ok hdelete.1) hdelete.2
    exact ⟨congrArg Answer.removed hresult, hafter⟩

/-- Any sequence of calls: the answers agree. -/
theorem answers_of_alike (h : Alike ds es) (calls : List NamedCall) :
    ds.answers calls = es.answers calls := by
  induction calls generalizing ds es with
  | nil => rfl
  | cons call calls ih =>
    obtain ⟨hanswer, hafter⟩ := h.answer call
    rw [answers, answers, hanswer, ih hafter]

end Datastore

/-! ## Saving a store and loading it -/

namespace MemoryStore

variable {s : MemoryStore} {savedAt : String}

/-- A store that was made, changed by any calls, and saved is loaded with the same collections, also
those that deletes have emptied, and the same documents in the same order. Calls that mint no
identity are answered alike from then on, whichever of them are refused. The documents must be such
as the JSON reader takes back from their texts. -/
theorem ofSnapshot_toSnapshot (hs : Made s) (history : List StoreOp)
    (hsaved : Timestamp.isTimestamp savedAt = true)
    (hdocs : ∀ c ∈ (s.after history).names, ∀ d ∈ (s.after history).find c,
      Snapshot.ReadsBack d) :
    ∃ t, ofSnapshot ((s.after history).toSnapshot savedAt) = .ok t ∧
      t.names = (s.after history).names ∧ (∀ c, t.find c = (s.after history).find c) ∧
      ∀ calls made refuses,
        Datastore.answers ⟨t, made, refuses⟩ calls =
          Datastore.answers ⟨s.after history, made, refuses⟩ calls := by
  have hsorted := hs.sorted_after history
  generalize s.after history = saved at hdocs hsorted ⊢
  have hread : Snapshot.read? (saved.toSnapshot savedAt) = some saved.collections := by
    rw [toSnapshot, Snapshot.read?_text hsaved, Keyed.ofList_of_sorted hsorted]
    rintro ⟨c, docs⟩ hmember d hd
    have hfind : saved.find c = docs := by rw [find, hsorted.get?_of_mem hmember]; rfl
    exact hdocs c (List.mem_map.2 ⟨_, hmember, rfl⟩) d (hfind ▸ hd)
  refine ⟨⟨saved.collections, 1⟩, ?_, rfl, fun _ => rfl, ?_⟩
  · rw [ofSnapshot, hread, ← ofCollections_of_sorted hsorted]
  · intro calls made refuses
    have halike : Datastore.Alike ⟨⟨saved.collections, 1⟩, made, refuses⟩
        ⟨saved, made, refuses⟩ := ⟨rfl, rfl, rfl⟩
    exact Datastore.answers_of_alike halike calls

/-- A collection with an identity held twice, a document without one and a double, and a collection
that a delete has emptied. -/
theorem ofSnapshot_toSnapshot_emptied :
    let twice : Document := Document.ofList [("_id", Json.ofInt 7), ("name", .string "a\"b\n")]
    let nameless : Document := Document.ofList
      [("x", .number (.float (Binary64.Finite.nearestInt 3))), ("list", .array [.null])]
    let collections : Collections := [("events", [twice, nameless, twice])]
    let history : List StoreOp :=
      [.insert "log" (Document.ofList [("n", Json.ofInt (-1))]), .delete "log" "1"]
    let saved := (ofCollections collections).after history
    let calls : List Datastore.NamedCall :=
      [.find "log", .delete "events" "7", .count "events", .upsert "events" "8" []]
    saved.names = ["events", "log"] ∧
      ∃ t, ofSnapshot (saved.toSnapshot "2024-05-01T12:00:00.25Z") = .ok t ∧
        t.names = ["events", "log"] ∧ t.find "log" = [] ∧
        t.find "events" = [twice, nameless, twice] ∧
        (Datastore.willing t).answers calls =
          [.documents (.ok []), .removed (.ok true), .count (.ok 1), .done (.ok ())] := by
  intro twice nameless collections history saved calls
  have hsaved : Timestamp.isTimestamp "2024-05-01T12:00:00.25Z" = true := by decide +kernel
  have hdocs : ∀ c ∈ saved.names, ∀ d ∈ saved.find c, Snapshot.ReadsBack d := by decide +kernel
  obtain ⟨t, hload, hnames, hfind, hanswers⟩ :=
    ofSnapshot_toSnapshot (.ofCollections collections) history hsaved hdocs
  have hsavedNames : saved.names = ["events", "log"] := by decide +kernel
  refine ⟨hsavedNames, t, hload, hnames.trans hsavedNames, ?_, ?_, ?_⟩
  · rw [hfind]
    decide +kernel
  · rw [hfind]
    decide +kernel
  · rw [Datastore.willing, hanswers]
    decide +kernel

end MemoryStore
end DocAnalytics
