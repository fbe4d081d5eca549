import DocAnalytics.Plan.Execute
import DocAnalytics.Proofs.Pipeline.Rows

/-!
# DocAnalytics.Proofs.Plan.Selection

The two ends of every plan: the documents that its filter selects, and the rows that its limit
leaves. On documents on which the filter raises no error, a plan is the stages of its operation on
the selected documents, cut off at the limit (`runPipeline_compile`); a request that passes
validation gives what they give (`run_of_validate`).
-/

namespace DocAnalytics

namespace PlanRequest

variable {r : PlanRequest} {catalog : Catalog}

theorem run_of_invalid {e : ValidationError} (h : r.validate catalog = .error e) (ds : Datastore)
    (collection : String) : (r.run catalog ds collection).1 = .error (.validation e) := by
  rw [run, h]

theorem run_of_valid {plan : Plan} (h : r.validate catalog = .ok plan) (ds : Datastore)
    (collection : String) :
    (r.run catalog ds collection).1 =
      (ds.aggregate collection plan.compile).1.mapError PlanFailure.execution := by
  simp only [run, h]
  cases hcall : ds.aggregate collection plan.compile with
  | mk result after => cases result <;> rfl

end PlanRequest

namespace Plan

/-- Whether a document satisfies a filter, which every document does if there is none. -/
def selects (filter : Option Json) (d : Document) : Bool :=
  match filter with
  | none => true
  | some f =>
    match Filter.matchesFilter d f with
    | .ok b => b
    | .error _ => false

/-- No document raises an error in the filter. -/
def RaisesNone (filter : Option Json) (docs : List Document) : Prop :=
  ∀ f ∈ filter, ∀ d ∈ docs, (Filter.matchesFilter d f).isOk = true

instance (filter : Option Json) (docs : List Document) : Decidable (RaisesNone filter docs) :=
  inferInstanceAs (Decidable (∀ f ∈ filter, ∀ d ∈ docs, (Filter.matchesFilter d f).isOk = true))

def upTo (limit : Option Nat) (rows : List Document) : List Document :=
  match limit with
  | none => rows
  | some n => rows.take n

theorem run_filterStages {filter : Option Json} {docs : List Document}
    (h : RaisesNone filter docs) :
    runPipeline (filterStages filter) docs = .ok (docs.filter (selects filter)) := by
  cases filter with
  | none => exact congrArg Except.ok (List.filter_eq_self.2 fun _ _ => rfl).symm
  | some f =>
    have hpasses : ∀ d ∈ docs, (Predicate.filter f).passes d = .ok (selects (some f) d) := by
      intro d hd
      simp only [Predicate.passes, selects]
      cases hm : Filter.matchesFilter d f with
      | ok b => rfl
      | error e =>
        have hok := h f rfl d hd
        rw [hm] at hok
        cases hok
    have hkeep : (Stage.select (.filter f)).run docs = .ok (docs.filter (selects (some f))) :=
      Predicate.keep_eq_filter hpasses
    rw [filterStages, runPipeline_cons [] hkeep]
    rfl

theorem run_limitStages (limit : Option Nat) (rows : List Document) :
    runPipeline (limitStages limit) rows = .ok (upTo limit rows) := by
  cases limit <;> rfl

theorem runPipeline_compile {p : Plan} {docs rows : List Document}
    (hfilter : RaisesNone p.filter docs)
    (hrows : runPipeline p.operation.stages (docs.filter (selects p.filter)) = .ok rows) :
    runPipeline p.compile docs = .ok (upTo p.limit rows) := by
  rw [compile, List.append_assoc, runPipeline_append _ (run_filterStages hfilter),
    runPipeline_append _ hrows, run_limitStages]

theorem run_of_validate {r : PlanRequest} {catalog : Catalog} {p : Plan}
    (h : r.validate catalog = .ok p) {store : MemoryStore} {collection : String}
    {rows : List Document} (hrows : runPipeline p.compile (store.find collection) = .ok rows) :
    (r.run catalog (.willing store) collection).1 = .ok rows := by
  simp only [PlanRequest.run_of_valid h, Datastore.aggregate, Datastore.attempt, Datastore.willing,
    hrows]
  rfl

end Plan
end DocAnalytics
