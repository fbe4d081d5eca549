import Mathlib.Data.List.Forall2
import Mathlib.Data.List.Induction
import DocAnalytics.Proofs.Store.History

/-!
# DocAnalytics.Proofs.Store.OrderedMap

A collection that is written by upserts and deletes alone is a map from identities to documents
that remembers the order in which its keys came. `Lists` says what such a collection holds in terms
of the calls made so far; `Lists.apply` is the step for one more call, and `Lists.find_after` the
run of a whole history.
-/

namespace DocAnalytics
namespace OrderedMap

/-- The identity was put in and not deleted since. -/
def Live (c id : String) : List StoreOp → Prop :=
  Since (fun _ op => ∃ d, op = .upsert c id d) (· = .delete c id)

/-- The document was put in last under the identity, which was not deleted since. -/
def Latest (c id : String) (d : Document) : List StoreOp → Prop :=
  Since (fun _ op => op = .upsert c id d) (fun op => op = .delete c id ∨ ∃ e, op = .upsert c id e)

/-- Call number `n` put in the identity, which was not there before, and was not deleted since. -/
def BornAt (c id : String) (n : Nat) : List StoreOp → Prop :=
  Since (fun before op => before.length = n ∧ ¬ Live c id before ∧ ∃ d, op = .upsert c id d)
    (· = .delete c id)

/-- A document of the collection: the last one put in, under its identity. -/
def Entry (c : String) (history : List StoreOp) (id : String) (d : Document) : Prop :=
  ∃ put, Latest c id put history ∧ d = Document.insert "_id" (.string id) put

/-- The identities stand in the order of the calls that first put them in. -/
structure InBirthOrder (c : String) (history : List StoreOp) (ids : List String) : Prop where
  born : ∀ id ∈ ids, ∃ n, BornAt c id n history
  ordered : ids.Pairwise fun i j => ∀ m n, BornAt c i m history → BornAt c j n history → m < n

/-- The documents of a collection are the live identities, each once and in order, with the last
document put in for each. -/
structure Lists (c : String) (history : List StoreOp) (ids : List String) (docs : List Document) :
    Prop where
  distinct : ids.Nodup
  live : ∀ id, id ∈ ids ↔ Live c id history
  entries : List.Forall₂ (Entry c history) ids docs
  inOrder : InBirthOrder c history ids

variable {c id other : String} {d e : Document} {n : Nat} {history later : List StoreOp}
  {op : StoreOp} {ids kept : List String} {docs : List Document}

/-! ## One more call -/

theorem live_upsert :
    Live c id (history ++ [.upsert c other d]) ↔ id = other ∨ Live c id history := by
  simp [Live, eq_comm]

theorem live_delete :
    Live c id (history ++ [.delete c other]) ↔ id ≠ other ∧ Live c id history := by
  simp [Live, eq_comm, and_comm]

theorem latest_upsert_self :
    Latest c id e (history ++ [.upsert c id d]) ↔ e = d := by
  simp [Latest, eq_comm]

theorem latest_upsert_of_ne (h : id ≠ other) :
    Latest c id e (history ++ [.upsert c other d]) ↔ Latest c id e history := by
  simp [Latest, h.symm]

theorem latest_delete_of_ne (h : id ≠ other) :
    Latest c id e (history ++ [.delete c other]) ↔ Latest c id e history := by
  simp [Latest, h.symm]

theorem bornAt_upsert :
    BornAt c id n (history ++ [.upsert c other d]) ↔
      (history.length = n ∧ ¬ Live c id history ∧ id = other) ∨ BornAt c id n history := by
  simp [BornAt, eq_comm]

theorem bornAt_delete :
    BornAt c id n (history ++ [.delete c other]) ↔ id ≠ other ∧ BornAt c id n history := by
  simp [BornAt, eq_comm, and_comm]

theorem BornAt.live (h : BornAt c id n history) : Live c id history :=
  Since.mono (fun _ _ _ _ hstarts => hstarts.2.2) h

theorem BornAt.lt_length (h : BornAt c id n history) : n < history.length := by
  obtain ⟨before, op, later, rfl, ⟨hn, _⟩, _⟩ := h
  simp only [List.length_append, List.length_cons]
  omega

theorem Entry.id?_eq (h : Entry c history id d) : d.id? = some id := by
  obtain ⟨put, _, rfl⟩ := h
  exact beq_iff_eq.1 (Document.hasId_insert id put)

theorem Entry.hasId_iff (h : Entry c history id d) (other : String) :
    d.hasId other = true ↔ id = other := by
  rw [Document.hasId, beq_iff_eq, h.id?_eq, Option.some.injEq]

theorem exists_hasId_iff (h : List.Forall₂ (Entry c history) ids docs) :
    (∃ d ∈ docs, d.hasId id = true) ↔ id ∈ ids := by
  induction h with
  | nil => simp
  | cons hentry _ ih => simp [hentry.hasId_iff, ih, @eq_comm _ id]

theorem entries_of_latest (h : List.Forall₂ (Entry c history) ids docs)
    (hlatest : ∀ id ∈ ids, ∀ put, Latest c id put history → Latest c id put later) :
    List.Forall₂ (Entry c later) ids docs := by
  refine ((List.forall₂_and_left _ _).2 ⟨hlatest, h⟩).imp ?_
  rintro id d ⟨hid, put, hput, rfl⟩
  exact ⟨put, hid put hput, rfl⟩

theorem InBirthOrder.of_sublist (h : InBirthOrder c history ids) (hkept : kept.Sublist ids)
    (hborn : ∀ id ∈ kept, ∀ n, BornAt c id n later ↔ BornAt c id n history) :
    InBirthOrder c later kept := by
  constructor
  case born =>
    intro id hid
    obtain ⟨n, hn⟩ := h.born id (hkept.subset hid)
    exact ⟨n, (hborn id hid n).2 hn⟩
  case ordered =>
    refine (h.ordered.sublist hkept).imp_of_mem ?_
    intro i j hi hj hij m n hm hn
    exact hij m n ((hborn i hi m).1 hm) ((hborn j hj n).1 hn)

/-- An identity that is put in by the last call comes last. -/
theorem InBirthOrder.concat (h : InBirthOrder c history ids) (hid : id ∉ ids)
    (hdead : ¬ Live c id history) (d : Document) :
    InBirthOrder c (history ++ [.upsert c id d]) (ids ++ [id]) := by
  have hborn : ∀ i ∈ ids, ∀ n,
      BornAt c i n (history ++ [.upsert c id d]) ↔ BornAt c i n history := by
    intro i hi n
    have hne : i ≠ id := fun heq => hid (heq ▸ hi)
    simp [bornAt_upsert, hne]
  have hlast : ∀ n, BornAt c id n (history ++ [.upsert c id d]) ↔ n = history.length := by
    intro n
    have hnever : ¬ BornAt c id n history := fun hn => hdead hn.live
    simp [bornAt_upsert, hdead, hnever, eq_comm]
  have hold := h.of_sublist (List.Sublist.refl ids) hborn
  constructor
  case born =>
    intro i hi
    rcases List.mem_append.1 hi with hi | hi
    · exact hold.born i hi
    · rw [List.mem_singleton.1 hi]
      exact ⟨history.length, (hlast _).2 rfl⟩
  case ordered =>
    refine List.pairwise_append.2 ⟨hold.ordered, List.pairwise_singleton _ _, ?_⟩
    intro i hi j hj m n hm hn
    rw [List.mem_singleton.1 hj, hlast] at hn
    have hm' : m < history.length := ((hborn i hi m).1 hm).lt_length
    omega

/-! ## Replacing an entry, adding one, and taking one out -/

section Replacing

variable {R S : String → Document → Prop}

/-- Replacing the document of an identity that is listed once leaves the others in their places. -/
theorem forall₂_replaceFirst (hhas : ∀ i e other, R i e → (e.hasId other = true ↔ i = other))
    (hself : S id d) (hother : ∀ i e, i ≠ id → R i e → S i e) (hids : ids.Nodup) (hid : id ∈ ids)
    (h : List.Forall₂ R ids docs) :
    List.Forall₂ S ids (MemoryStore.replaceFirst id d docs) := by
  induction h with
  | nil => cases hid
  | @cons i e ids docs hie hrest ih =>
    obtain ⟨hnotin, hids⟩ := List.nodup_cons.1 hids
    by_cases hi : i = id
    · subst hi
      rw [MemoryStore.replaceFirst, if_pos ((hhas i e i hie).2 rfl)]
      have hrest' : List.Forall₂ (fun j f => j ≠ i ∧ R j f) ids docs := by
        refine (List.forall₂_and_left _ _).2 ⟨?_, hrest⟩
        rintro j hj rfl
        exact hnotin hj
      exact .cons hself (hrest'.imp fun j f hj => hother j f hj.1 hj.2)
    · have hhead : ¬ e.hasId id = true := fun hid => hi ((hhas i e id hie).1 hid)
      rw [MemoryStore.replaceFirst, if_neg hhead]
      exact .cons (hother i e hi hie) (ih hids ((List.mem_cons.1 hid).resolve_left (Ne.symm hi)))

theorem replaceFirst_of_absent (h : ∀ e ∈ docs, ¬ e.hasId id = true) :
    MemoryStore.replaceFirst id d docs = docs ++ [d] := by
  induction docs with
  | nil => rfl
  | cons e docs ih =>
    rw [MemoryStore.replaceFirst, if_neg (h e (by simp)), ih fun f hf => h f (by simp [hf])]
    rfl

end Replacing

namespace Lists

/-- A call that neither puts something into the collection nor deletes from it. -/
theorem quiet (h : Lists c history ids docs) (hupsert : ∀ id d, op ≠ .upsert c id d)
    (hdelete : ∀ id, op ≠ .delete c id) : Lists c (history ++ [op]) ids docs := by
  have hlive : ∀ id, Live c id (history ++ [op]) ↔ Live c id history := by
    simp [Live, hupsert, hdelete]
  have hlatest : ∀ id e, Latest c id e (history ++ [op]) ↔ Latest c id e history := by
    simp [Latest, hupsert, hdelete]
  have hborn : ∀ id n, BornAt c id n (history ++ [op]) ↔ BornAt c id n history := by
    simp [BornAt, hupsert, hdelete]
  constructor
  case distinct => exact h.distinct
  case live => simpa only [hlive] using h.live
  case entries => exact entries_of_latest h.entries fun id _ put => (hlatest id put).2
  case inOrder => exact h.inOrder.of_sublist (List.Sublist.refl ids) fun id _ => hborn id

theorem upsert_live (h : Lists c history ids docs) (hid : id ∈ ids) (d : Document) :
    Lists c (history ++ [.upsert c id d]) ids
      (MemoryStore.replaceFirst id (Document.insert "_id" (.string id) d) docs) := by
  have hborn : ∀ i n, BornAt c i n (history ++ [.upsert c id d]) ↔ BornAt c i n history := by
    intro i n
    rw [bornAt_upsert]
    constructor
    · rintro (⟨_, hlive, rfl⟩ | hi)
      · exact absurd ((h.live _).1 hid) hlive
      · exact hi
    · exact .inr
  constructor
  case distinct => exact h.distinct
  case live =>
    intro i
    rw [live_upsert, h.live]
    constructor
    · exact .inr
    · rintro (rfl | hi)
      · exact (h.live _).1 hid
      · exact hi
  case entries =>
    refine forall₂_replaceFirst (fun i e other hie => hie.hasId_iff other) ?_ ?_ h.distinct hid
      h.entries
    · exact ⟨d, latest_upsert_self.2 rfl, rfl⟩
    · rintro i e hi ⟨put, hput, rfl⟩
      exact ⟨put, (latest_upsert_of_ne hi).2 hput, rfl⟩
  case inOrder => exact h.inOrder.of_sublist (List.Sublist.refl ids) fun i _ => hborn i

theorem upsert_new (h : Lists c history ids docs) (hid : id ∉ ids) (d : Document) :
    Lists c (history ++ [.upsert c id d]) (ids ++ [id])
      (MemoryStore.replaceFirst id (Document.insert "_id" (.string id) d) docs) := by
  have hne : ∀ i ∈ ids, i ≠ id := by
    rintro i hi rfl
    exact hid hi
  constructor
  case distinct => simpa [List.nodup_append, h.distinct] using hne
  case live =>
    intro i
    rw [live_upsert, ← h.live, List.mem_append, List.mem_singleton, or_comm]
  case entries =>
    have habsent : ∀ e ∈ docs, ¬ e.hasId id = true := fun e he hhas =>
      hid ((exists_hasId_iff h.entries).1 ⟨e, he, hhas⟩)
    have hold : List.Forall₂ (Entry c (history ++ [.upsert c id d])) ids docs :=
      entries_of_latest h.entries fun i hi _ => (latest_upsert_of_ne (hne i hi)).2
    rw [replaceFirst_of_absent habsent]
    exact List.rel_append hold (.cons ⟨d, latest_upsert_self.2 rfl, rfl⟩ .nil)
  case inOrder => exact h.inOrder.concat hid (fun hlive => hid ((h.live id).2 hlive)) d

theorem delete (h : Lists c history ids docs) (id : String) :
    Lists c (history ++ [.delete c id]) (ids.filter (· != id))
      (docs.filter (!Document.hasId id ·)) := by
  have hne : ∀ i ∈ ids.filter (· != id), i ≠ id := by
    intro i hi
    simpa using (List.mem_filter.1 hi).2
  constructor
  case distinct => exact h.distinct.filter _
  case live =>
    intro i
    rw [live_delete, ← h.live, List.mem_filter, bne_iff_ne, and_comm]
  case entries =>
    have hkept : List.Forall₂ (Entry c history) (ids.filter (· != id))
        (docs.filter (!Document.hasId id ·)) := by
      refine List.rel_filter ?_ h.entries
      intro i e hie
      simp [hie.hasId_iff id, ← Bool.not_eq_true]
    exact entries_of_latest hkept fun i hi _ => (latest_delete_of_ne (hne i hi)).2
  case inOrder =>
    refine h.inOrder.of_sublist List.filter_sublist ?_
    intro i hi n
    simp [bornAt_delete, hne i hi]

theorem nil (c : String) : Lists c [] [] [] := by
  constructor
  case distinct => exact List.nodup_nil
  case live => simp [Live]
  case entries => exact .nil
  case inOrder => constructor <;> simp

/-- One call, an insert into the collection apart, keeps its documents listed. -/
theorem apply {s : MemoryStore} (h : Lists c history ids (s.find c))
    (hop : op.collection = c → op.isInsert = false) :
    ∃ ids, Lists c (history ++ [op]) ids ((op.apply s).find c) := by
  by_cases hc : op.collection = c
  · cases op with
    | insert => cases hop hc
    | insertMany => cases hop hc
    | upsert _ id d =>
      simp only [StoreOp.collection] at hc
      subst hc
      simp only [StoreOp.apply, MemoryStore.upsert, MemoryStore.find_put_self]
      by_cases hid : id ∈ ids
      · exact ⟨ids, h.upsert_live hid d⟩
      · exact ⟨ids ++ [id], h.upsert_new hid d⟩
    | delete _ id =>
      simp only [StoreOp.collection] at hc
      subst hc
      simp only [StoreOp.apply, MemoryStore.find_delete]
      exact ⟨ids.filter (· != id), h.delete id⟩
    | read => exact ⟨ids, h.quiet (by simp) (by simp)⟩
  · rw [StoreOp.find_apply_of_ne (Ne.symm hc)]
    refine ⟨ids, h.quiet ?_ ?_⟩
    · rintro id d rfl
      exact hc rfl
    · rintro id rfl
      exact hc rfl

theorem find_after {s : MemoryStore} (hempty : s.find c = [])
    (hhistory : ∀ op ∈ history, op.collection = c → op.isInsert = false) :
    ∃ ids, Lists c history ids ((s.after history).find c) := by
  induction history using List.reverseRec with
  | nil =>
    rw [MemoryStore.after_nil, hempty]
    exact ⟨[], nil c⟩
  | append_singleton history op ih =>
    obtain ⟨ids, hids⟩ := ih fun e he => hhistory e (by simp [he])
    rw [MemoryStore.after_concat]
    exact hids.apply (hhistory op (by simp))

end Lists

/-- A collection without documents at the start that no call inserts into is an ordered map: it
lists the live identities, counts them, and says of a deleted one whether it was live. Calls that
name another collection leave it alone. -/
theorem ordered_map_of_upserts {s : MemoryStore} (hempty : s.find c = [])
    (hhistory : ∀ op ∈ history, op.collection = c → op.isInsert = false) :
    let t := s.after history
    (∃ ids, Lists c history ids (t.find c) ∧ t.count c = ids.length) ∧
      (∀ id, (t.delete c id).1 = true ↔ Live c id history) ∧
      ∀ op : StoreOp, op.collection ≠ c →
        (op.apply t).find c = t.find c ∧ (op.apply t).count c = t.count c := by
  intro t
  obtain ⟨ids, hids⟩ := Lists.find_after hempty hhistory
  refine ⟨⟨ids, hids, hids.entries.length_eq.symm⟩, ?_, ?_⟩
  · intro id
    rw [MemoryStore.delete_eq_true_iff, exists_hasId_iff hids.entries, hids.live]
  · intro op hop
    have hfind := StoreOp.find_apply_of_ne (Ne.symm hop) t
    exact ⟨hfind, congrArg List.length hfind⟩

/-- An identity that comes back after a delete is listed last, and one put in again keeps its
place. -/
theorem ordered_map_of_upserts_returning :
    let doc (n : Int) : Document := Document.ofList [("v", Json.ofInt n)]
    let under (id : String) (n : Int) : Document := Document.insert "_id" (.string id) (doc n)
    let history : List StoreOp := [.upsert "c" "a" (doc 1), .upsert "c" "b" (doc 2),
      .insert "log" (doc 5), .delete "c" "a", .upsert "c" "a" (under "z" 3),
      .upsert "c" "b" (doc 4)]
    let t := MemoryStore.empty.after history
    MemoryStore.empty.find "c" = [] ∧
      (∀ op ∈ history, op.collection = "c" → op.isInsert = false) ∧
      t.find "c" = [under "b" 4, under "a" 3] ∧
      (∃ ids, Lists "c" history ids [under "b" 4, under "a" 3] ∧ ids.length = 2) ∧
      Live "c" "a" history ∧ ¬ Live "c" "z" history := by
  intro doc under history t
  have hempty : MemoryStore.empty.find "c" = [] := rfl
  have hhistory : ∀ op ∈ history, op.collection = "c" → op.isInsert = false := by decide +kernel
  have hfind : t.find "c" = [under "b" 4, under "a" 3] := by decide +kernel
  obtain ⟨⟨ids, hids, hcount⟩, hdelete, _⟩ :=
    ordered_map_of_upserts hempty hhistory
  have hlength : ids.length = 2 := by
    rw [← hcount, MemoryStore.count, hfind]
    rfl
  refine ⟨hempty, hhistory, hfind, ⟨ids, hfind ▸ hids, hlength⟩, ?_, ?_⟩
  · exact (hdelete "a").1 (by decide +kernel)
  · exact fun hlive => absurd ((hdelete "z").2 hlive) (by decide +kernel)

end OrderedMap
end DocAnalytics
