import DocAnalytics.Proofs.Plan.GroupCount

/-!
# DocAnalytics.Proofs.Plan.Results

What running a validated plan gives (`run_result`): the first error that its filter raises, or the
rows of its operation on the documents that the filter selects, cut off at the limit.

* `FirstError`: the first error that a filter raises on a list of documents. There is none exactly
  if no document raises an error (`firstError_or_raisesNone`, `FirstError.not_raisesNone`).
* `aggregateRows`: an aggregate of one field over all documents, which is a grouping without a key
  (`run_aggregateStages`).
-/

namespace DocAnalytics

/-! ## The first error of a filter -/

namespace Plan

/-- The first error that a filter raises on a list of documents, taken in order. -/
def FirstError (filter : Option Json) (docs : List Document) (e : FilterError) : Prop :=
  ∃ f ∈ filter, ∃ before d after, docs = before ++ d :: after ∧ RaisesNone filter before ∧
    Filter.matchesFilter d f = .error e

/-- The row of an aggregate of one field, in which a missing field counts as null; no row for
nothing. -/
def aggregateRows (op : NumericOperation) (field : String) (docs : List Document) :
    List Document :=
  if docs = [] then []
  else [Document.ofList [("_id", .null), ("value", op.function.of (docs.map (fieldValue field)))]]

variable {filter : Option Json} {docs : List Document}

theorem firstError_or_raisesNone (filter : Option Json) (docs : List Document) :
    (∃ e, FirstError filter docs e) ∨ RaisesNone filter docs := by
  cases filter with
  | none => exact .inr fun f hf => by cases hf
  | some f =>
    induction docs with
    | nil => exact .inr fun _ _ d hd => by cases hd
    | cons first docs ih =>
      cases hfirst : Filter.matchesFilter first f with
      | error e =>
        have hnone : RaisesNone (some f) [] := fun _ _ d hd => by cases hd
        exact .inl ⟨e, f, rfl, [], first, docs, rfl, hnone, hfirst⟩
      | ok b =>
        have hcons : ∀ {rest : List Document}, RaisesNone (some f) rest →
            RaisesNone (some f) (first :: rest) := by
          rintro rest hrest _ ⟨⟩ d hd
          rcases List.mem_cons.1 hd with rfl | hd
          · rw [hfirst]
            rfl
          · exact hrest f rfl d hd
        rcases ih with ⟨e, g, hg, before, d, after, rfl, hbefore, hd⟩ | hnone
        · exact .inl ⟨e, g, hg, first :: before, d, after, rfl, hcons hbefore, hd⟩
        · exact .inr (hcons hnone)

theorem FirstError.not_raisesNone {e : FilterError} (h : FirstError filter docs e) :
    ¬ RaisesNone filter docs := by
  obtain ⟨f, hf, before, d, after, rfl, _, hd⟩ := h
  intro hnone
  have hok := hnone f hf d (List.mem_append_right before (.head after))
  rw [hd] at hok
  cases hok

theorem run_filterStages_of_firstError {e : FilterError} (h : FirstError filter docs e) :
    runPipeline (filterStages filter) docs = .error (.invalidFilter e) := by
  obtain ⟨f, hf, before, d, after, rfl, hbefore, hd⟩ := h
  cases hf
  have hpasses : ∀ r ∈ before, ∃ b, (Predicate.filter f).passes r = .ok b := by
    intro r hr
    have hok := hbefore f rfl r hr
    cases hm : Filter.matchesFilter r f with
    | ok b => exact ⟨b, by simp only [Predicate.passes, hm]⟩
    | error e =>
      rw [hm] at hok
      cases hok
  have hrow : (Predicate.filter f).passes d = .error (.invalidFilter e) := by
    simp only [Predicate.passes, hd]
  have hkeep : (Predicate.filter f).keep (before ++ d :: after) = .error (.invalidFilter e) :=
    Predicate.keep_of_error hpasses hrow
  simp only [filterStages, runPipeline, Stage.run, hkeep]

end Plan

/-! ## Grouping without a key -/

namespace Grouping

theorem firstSeen_replicate (key : Json) (n : Nat) :
    firstSeen (List.replicate (n + 1) key) = [key] := by
  have hlater : ∀ k ∈ firstSeen (List.replicate n key), ¬ (!key.sharesSlot k) = true := by
    intro k hk
    rw [List.eq_of_mem_replicate (mem_of_mem_firstSeen hk), sharesSlot_self]
    exact Bool.false_ne_true
  rw [List.replicate_succ, firstSeen, List.filter_eq_nil_iff.2 hlater]

/-- All rows are one group, if there are any. -/
theorem run_of_keyless {g : Grouping} (h : g.key = none) {rows : List Document} (hne : rows ≠ []) :
    g.run rows = [Document.ofList
      [("_id", .null), (g.output, g.function.of (rows.map g.inputOf))]] := by
  have hkey : g.keyOf = fun _ => .null := by
    funext row
    rw [keyOf, h]
  have hkeys : firstSeen (rows.map g.keyOf) = [.null] := by
    cases rows with
    | nil => exact absurd rfl hne
    | cons row rows => rw [hkey, List.map_const', List.length_cons, firstSeen_replicate]
  have hrows : g.rowsOf rows .null = rows := by
    rw [rowsOf, hkey]
    exact List.filter_eq_self.2 fun _ _ => sharesSlot_self .null
  rw [run_eq, hkeys, List.map_singleton, totalOf, hrows]
  rfl

end Grouping

/-! ## The rows of an operation -/

namespace Plan

theorem run_aggregateStages (op : NumericOperation) (field : String) (docs : List Document) :
    runPipeline (Operation.aggregate op field).stages docs =
      .ok (aggregateRows op field docs) := by
  let g : Grouping := ⟨none, op.function, some field, "value", false⟩
  have hrun : g.run docs = aggregateRows op field docs := by
    by_cases hnil : docs = []
    · subst hnil
      rfl
    · rw [aggregateRows, if_neg hnil, Grouping.run_of_keyless rfl hnil]
      rfl
  rw [← hrun]
  rfl

/-- The stages of an operation are never in error. -/
theorem exists_run_stages (op : Operation) (docs : List Document) :
    ∃ rows, runPipeline op.stages docs = .ok rows := by
  cases op with
  | groupByCount field => exact ⟨_, rfl⟩
  | aggregate op field => exact ⟨_, run_aggregateStages op field docs⟩
  | count => exact ⟨_, run_countStages docs⟩
  | filterOnly field => exact ⟨_, rfl⟩

/-! ## Plans -/

variable {r : PlanRequest} {catalog : Catalog} {p : Plan}

theorem run_of_firstError (hr : r.validate catalog = .ok p) {store : MemoryStore}
    {collection : String} {e : FilterError} (h : FirstError p.filter (store.find collection) e) :
    (r.run catalog (.willing store) collection).1 = .error (.execution (.invalidFilter e)) := by
  have hstages : runPipeline p.compile (store.find collection) = .error (.invalidFilter e) := by
    rw [compile, List.append_assoc]
    exact runPipeline_append_of_error _ (run_filterStages_of_firstError h)
  simp only [PlanRequest.run_of_valid hr, Datastore.aggregate, Datastore.attempt,
    Datastore.willing, hstages]
  rfl

/-- A limit is the last stage of a pipeline, and stages that fail without it fail with it. -/
theorem runPipeline_limited (operation : Operation) (filter : Option Json) (n : Nat)
    (docs : List Document) :
    runPipeline (compile ⟨operation, filter, some n⟩) docs =
      (runPipeline (compile ⟨operation, filter, none⟩) docs).map (List.take n) := by
  simp only [compile, limitStages, List.append_nil]
  cases hrows : runPipeline (filterStages filter ++ operation.stages) docs with
  | error e => exact runPipeline_append_of_error _ hrows
  | ok rows => exact runPipeline_append [.limit n] hrows

theorem validate_limited (r : PlanRequest) (catalog : Catalog) (limit : Option Nat) :
    PlanRequest.validate { r with limit := limit } catalog =
      (r.validate catalog).map fun p => { p with limit := limit } := by
  have hoperation : PlanRequest.operationIn { r with limit := limit } catalog =
      r.operationIn catalog := rfl
  unfold PlanRequest.validate
  rw [hoperation]
  cases r.operationIn catalog <;> rfl

/-- A limit keeps the first rows and every error, those of the store included. -/
theorem run_limited (r : PlanRequest) (catalog : Catalog) (ds : Datastore) (collection : String)
    (n : Nat) :
    (PlanRequest.run { r with limit := some n } catalog ds collection).1 =
      (PlanRequest.run { r with limit := none } catalog ds collection).1.map (List.take n) := by
  have hsome := validate_limited r catalog (some n)
  have hnone := validate_limited r catalog none
  cases hr : r.validate catalog with
  | error e =>
    rw [hr] at hsome hnone
    rw [PlanRequest.run_of_invalid hsome, PlanRequest.run_of_invalid hnone]
    rfl
  | ok p =>
    rw [hr] at hsome hnone
    rw [PlanRequest.run_of_valid hsome, PlanRequest.run_of_valid hnone]
    simp only [Datastore.aggregate, Datastore.attempt, runPipeline_limited p.operation p.filter n]
    split
    · rfl
    · cases runPipeline (compile ⟨p.operation, p.filter, none⟩) (ds.store.find collection) <;> rfl

/-- A validated plan fails exactly with the first error that its filter raises. Without one it gives
the selected documents, their number or an aggregate of one of their fields, by its operation. A
limit keeps the first rows and every error, whatever the operation. -/
theorem run_result (hr : r.validate catalog = .ok p) (store : MemoryStore) (collection : String) :
    let docs := store.find collection
    let selected := docs.filter (selects p.filter)
    let ran := (r.run catalog (.willing store) collection).1
    (∀ e, ran = .error e ↔
      ∃ fault, FirstError p.filter docs fault ∧ e = .execution (.invalidFilter fault)) ∧
    ((¬ ∃ fault, FirstError p.filter docs fault) →
      match p.operation with
      | .filterOnly _ => ran = .ok (upTo p.limit selected)
      | .count => ran = .ok (upTo p.limit (totalRows selected.length))
      | .aggregate op field => ran = .ok (upTo p.limit (aggregateRows op field selected))
      | .groupByCount _ => ∃ rows, ran = .ok rows) ∧
    ∀ (ds : Datastore) (n : Nat),
      (PlanRequest.run { r with limit := some n } catalog ds collection).1 =
        (PlanRequest.run { r with limit := none } catalog ds collection).1.map (List.take n) := by
  intro docs selected ran
  -- the stages of the operation have no errors of their own, so those of the filter are all
  have hrows : RaisesNone p.filter docs → ∀ rows,
      runPipeline p.operation.stages selected = .ok rows → ran = .ok (upTo p.limit rows) :=
    fun hnone _ hrows => run_of_validate hr (runPipeline_compile hnone hrows)
  refine ⟨fun e => ⟨fun he => ?_, ?_⟩, fun hnot => ?_,
    fun ds n => run_limited r catalog ds collection n⟩
  · rcases firstError_or_raisesNone p.filter docs with ⟨fault, hfault⟩ | hnone
    · have hran : ran = _ := run_of_firstError hr hfault
      exact ⟨fault, hfault, Except.error.inj (he.symm.trans hran)⟩
    · obtain ⟨rows, hstages⟩ := exists_run_stages p.operation selected
      rw [hrows hnone rows hstages] at he
      cases he
  · rintro ⟨fault, hfault, rfl⟩
    exact run_of_firstError hr hfault
  · have hnone := (firstError_or_raisesNone p.filter docs).resolve_left hnot
    cases hop : p.operation with
    | filterOnly field =>
      rw [hop] at hrows
      exact hrows hnone selected rfl
    | count =>
      rw [hop] at hrows
      exact hrows hnone _ (run_countStages selected)
    | aggregate op field =>
      rw [hop] at hrows
      exact hrows hnone _ (run_aggregateStages op field selected)
    | groupByCount field =>
      obtain ⟨rows, hstages⟩ := exists_run_stages p.operation selected
      exact ⟨_, hrows hnone rows hstages⟩

/-- Units are added up over the open shops, of which one has none and one has a text. -/
theorem run_result_units :
    let shop (isOpen : Bool) (units : Json) : Document :=
      Document.ofList [("open", .bool isOpen), ("units", units)]
    let docs := [shop true (Json.ofInt 3), Document.ofList [("open", .bool true)],
      shop false (Json.ofInt 7), shop true (.string "9"), shop true (Json.ofInt 5)]
    let r : PlanRequest := ⟨"sum", some "units", some (Json.ofMembers [("open", .bool true)]), none⟩
    let catalog := Catalog.ofFields [⟨"units", .integer, "integer"⟩]
    let store := MemoryStore.empty.put "data" docs
    r.validate catalog = .ok ⟨.aggregate .sum "units", r.filter, none⟩ ∧
      (r.run catalog (.willing store) "data").1 =
        .ok [Document.ofList [("_id", .null), ("value", Json.ofInt 8)]] := by
  intro shop docs r catalog store
  have hr : r.validate catalog = .ok ⟨.aggregate .sum "units", r.filter, none⟩ := rfl
  have hnone : RaisesNone r.filter (store.find "data") := by decide +kernel
  refine ⟨hr, ?_⟩
  obtain ⟨_, hresult, _⟩ := run_result hr store "data"
  refine (hresult ?_).trans ?_
  · rintro ⟨fault, hfault⟩
    exact hfault.not_raisesNone hnone
  · exact congrArg Except.ok (by decide +kernel)

end Plan
end DocAnalytics
