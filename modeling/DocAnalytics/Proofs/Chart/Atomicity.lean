import DocAnalytics.Proofs.Chart.Step
import Mathlib.Data.List.Basic

/-!
# DocAnalytics.Proofs.Chart.Atomicity

What is left of a chart whose run fails, where every single call may be refused. `ChartRun` lists
the ways in which a run can go. Those that fail change nothing, except for one: a chart without
rows is removed, and then the rows that were stored for it are refused to be (`HalfPruned`), so
that they stay behind without a chart (`executeChart_error_iff`).
-/

namespace DocAnalytics
namespace Project

/-- A chart without rows is removed, and the rows stored for it are refused to be. -/
structure HalfPruned (p : Project) (ds : Datastore) (stages : List Stage) : Prop where
  runs : ds.refuses ds.calls .aggregate = false
  empty : runPipeline stages (ds.store.find p.data) = .ok []
  removes : ds.refuses (ds.calls + 1) .delete = false
  leaves : ds.refuses (ds.calls + 2) .delete = true

/-- The ways in which a run of a chart goes: its result, and the store behind it. -/
inductive ChartRun (p : Project) (ds : Datastore) (chart : ChartRecord) (stages : List Stage)
    (now : String) : Except StorageError ChartStatus → MemoryStore → Prop
  | unread (h : ds.refuses ds.calls .aggregate = true) :
    ChartRun p ds chart stages now (.error (.refused .aggregate)) ds.store
  | faulty {e : StorageError} (h : ds.refuses ds.calls .aggregate = false)
    (hrows : runPipeline stages (ds.store.find p.data) = .error e) :
    ChartRun p ds chart stages now (.error e) ds.store
  | kept (h : ds.refuses ds.calls .aggregate = false)
    (hrows : runPipeline stages (ds.store.find p.data) = .ok [])
    (hchart : ds.refuses (ds.calls + 1) .delete = true) :
    ChartRun p ds chart stages now (.error (.refused .delete)) ds.store
  | halfPruned (h : p.HalfPruned ds stages) :
    ChartRun p ds chart stages now (.error (.refused .delete))
      (ds.store.delete p.charts chart.id).2
  | pruned (h : ds.refuses ds.calls .aggregate = false)
    (hrows : runPipeline stages (ds.store.find p.data) = .ok [])
    (hchart : ds.refuses (ds.calls + 1) .delete = false)
    (hstored : ds.refuses (ds.calls + 2) .delete = false) :
    ChartRun p ds chart stages now (.ok .pruned)
      ((ds.store.delete p.charts chart.id).2.delete p.materialized chart.id).2
  | unstored {rows : List Document} (h : ds.refuses ds.calls .aggregate = false)
    (hrows : runPipeline stages (ds.store.find p.data) = .ok rows) (hne : rows ≠ [])
    (hupsert : ds.refuses (ds.calls + 1) .upsert = true) :
    ChartRun p ds chart stages now (.error (.refused .upsert)) ds.store
  | stored {rows : List Document} (h : ds.refuses ds.calls .aggregate = false)
    (hrows : runPipeline stages (ds.store.find p.data) = .ok rows) (hne : rows ≠ [])
    (hupsert : ds.refuses (ds.calls + 1) .upsert = false) :
    ChartRun p ds chart stages now (.ok (.stored rows.length))
      (ds.store.upsert p.materialized chart.id (chart.materialized rows now))

variable (p : Project) (ds : Datastore) (chart : ChartRecord) (stages : List Stage) (now : String)

theorem chartRun_executeChart :
    ChartRun p ds chart stages now (p.executeChart ds chart stages now).1
      (p.executeChart ds chart stages now).2.store := by
  rw [executeChart, Datastore.aggregate, Datastore.attempt_eq]
  cases hagg : ds.refuses ds.calls .aggregate with
  | true => exact .unread hagg
  | false =>
    simp only [Bool.false_eq_true, if_false]
    cases hrows : runPipeline stages (ds.store.find p.data) with
    | error e => exact .faulty hagg hrows
    | ok rows =>
      cases rows with
      | nil =>
        simp only [pruneChart, Datastore.delete, Datastore.attempt_eq]
        cases hchart : ds.refuses (ds.calls + 1) .delete with
        | true => exact .kept hagg hrows hchart
        | false =>
          simp only [Bool.false_eq_true, if_false]
          cases hstored : ds.refuses (ds.calls + 1 + 1) .delete with
          | true => exact .halfPruned ⟨hagg, hrows, hchart, hstored⟩
          | false => exact .pruned hagg hrows hchart hstored
      | cons row rows =>
        simp only [storeChart, Datastore.upsert, Datastore.attempt_eq]
        cases hupsert : ds.refuses (ds.calls + 1) .upsert with
        | true => exact .unstored hagg hrows (List.cons_ne_nil row rows) hupsert
        | false => exact .stored hagg hrows (List.cons_ne_nil row rows) hupsert

variable {p ds chart stages now} {result : Except StorageError ChartStatus} {s : MemoryStore}
  {e : StorageError} {after : Datastore}

/-- A failed run that is not half pruned changes nothing at all. -/
theorem ChartRun.store_of_error (h : ChartRun p ds chart stages now (.error e) s) :
    s = ds.store ∧ ¬ p.HalfPruned ds stages ∨
      p.HalfPruned ds stages ∧ e = .refused .delete ∧
        s = (ds.store.delete p.charts chart.id).2 := by
  cases h with
  | unread h => exact .inl ⟨rfl, fun half => by simp [half.runs] at h⟩
  | faulty h hrows => exact .inl ⟨rfl, fun half => by simp [half.empty] at hrows⟩
  | kept h hrows hchart => exact .inl ⟨rfl, fun half => by simp [half.removes] at hchart⟩
  | halfPruned half => exact .inr ⟨half, rfl, rfl⟩
  | unstored h hrows hne hupsert =>
    refine .inl ⟨rfl, fun half => hne ?_⟩
    rw [half.empty] at hrows
    exact (Except.ok.inj hrows).symm

/-- Where a run fails, no collection is changed but that of the charts, and that one exactly if the
run is half pruned and there was a document of the chart: then all documents of the chart are gone,
and nothing else. -/
theorem executeChart_error_iff (h : p.executeChart ds chart stages now = (.error e, after)) :
    let documents? (s : MemoryStore) (collection : String) := Keyed.get? s.collections collection
    (∀ other, other ≠ p.charts → documents? after.store other = documents? ds.store other) ∧
      documents? after.store p.materialized = documents? ds.store p.materialized ∧
      (documents? after.store p.charts = documents? ds.store p.charts ↔
        ¬ (p.HalfPruned ds stages ∧ ∃ d ∈ ds.store.find p.charts, d.hasId chart.id = true)) ∧
      (p.HalfPruned ds stages → e = .refused .delete ∧
        after.store.find p.charts =
          (ds.store.find p.charts).filter (!Document.hasId chart.id ·)) := by
  intro documents?
  have hrun := chartRun_executeChart p ds chart stages now
  rw [h] at hrun
  rcases hrun.store_of_error with ⟨hsame, hwhole⟩ | ⟨half, rfl, hdeleted⟩
  · simp only at hsame
    rw [hsame]
    exact ⟨fun _ _ => rfl, rfl, iff_of_true rfl fun half => hwhole half.1,
      fun half => absurd half hwhole⟩
  · simp only at hdeleted
    rw [hdeleted]
    refine ⟨fun other hother => MemoryStore.get?_delete_of_ne _ hother _,
      MemoryStore.get?_delete_of_ne _ p.charts_ne_materialized.symm _, ?_,
      fun _ => ⟨rfl, MemoryStore.find_delete _ _ _⟩⟩
    rw [and_iff_right half]
    exact MemoryStore.get?_delete_eq_iff _ _ _

/-- The store of a project with two charts and the rows of both, and a histogram of its empty
dataset. -/
def twoCharts (p : Project) : MemoryStore :=
  let documents (members : List (String × Json)) :=
    ["a", "b"].map fun id => Document.ofList (("_id", .string id) :: members)
  (MemoryStore.empty.put p.charts
    (documents [("chart_type", .string "histogram")])).put p.materialized
      (documents [("rows", .array [Json.ofNat 1])])

/-- The histogram of a field under the identity of the first chart. -/
def weights : ChartRecord :=
  ⟨"a", "histogram", "", "", "direct", Document.ofList [("field", .string "weight")]⟩

/-- Refusing the first removal keeps the chart; refusing the second one leaves the rows without
it. -/
theorem executeChart_error_iff_two :
    let p : Project := ⟨"p"⟩
    let stages := (ChartSpec.histogram "weight" 10).compile
    let refusing (n : Nat) : Datastore := ⟨p.twoCharts, 0, fun call _ => call == n⟩
    weights.spec = .ok (.histogram "weight" 10) ∧
      (∃ after, p.executeChart (refusing 1) weights stages "" =
          (.error (.refused .delete), after) ∧
        Keyed.get? after.store.collections p.charts =
          Keyed.get? p.twoCharts.collections p.charts) ∧
      ∃ after, p.executeChart (refusing 2) weights stages "" =
          (.error (.refused .delete), after) ∧
        (after.store.find p.charts).map (·.id?) = [some "b"] ∧
        Keyed.get? after.store.collections p.materialized =
          Keyed.get? p.twoCharts.collections p.materialized := by
  intro p stages refusing
  have hspec : weights.spec = .ok (.histogram "weight" 10) := by decide +kernel
  have hempty : runPipeline stages (p.twoCharts.find p.data) = .ok [] := by decide +kernel
  have hfirst : p.executeChart (refusing 1) weights stages "" =
      (.error (.refused .delete), (p.executeChart (refusing 1) weights stages "").2) :=
    Prod.ext (by decide +kernel) rfl
  have hsecond : p.executeChart (refusing 2) weights stages "" =
      (.error (.refused .delete), (p.executeChart (refusing 2) weights stages "").2) :=
    Prod.ext (by decide +kernel) rfl
  have hwhole : ¬ p.HalfPruned (refusing 1) stages := fun half => Bool.noConfusion half.removes
  have half : p.HalfPruned (refusing 2) stages := ⟨rfl, hempty, rfl, rfl⟩
  obtain ⟨-, -, hkept, -⟩ := executeChart_error_iff hfirst
  obtain ⟨-, hrows, -, hlost⟩ := executeChart_error_iff hsecond
  refine ⟨hspec, ⟨_, hfirst, hkept.2 fun h => hwhole h.1⟩, _, hsecond, ?_, hrows⟩
  rw [(hlost half).2]
  decide +kernel

/-- A chart without rows is gone although its run failed. -/
theorem failed_run_loses_chart :
    let p : Project := ⟨"p"⟩
    let ds : Datastore := ⟨p.twoCharts, 0, fun call _ => call == 2⟩
    ∃ spec e after, weights.spec = .ok spec ∧
      p.executeChart ds weights spec.compile "" = (.error e, after) ∧
      (after.store.find p.charts).map (·.id?) = [some "b"] ∧
      (ds.store.find p.charts).map (·.id?) = [some "a", some "b"] := by
  intro p ds
  refine ⟨.histogram "weight" 10, .refused .delete, _, ?_, Prod.ext ?_ rfl, ?_, ?_⟩ <;>
    decide +kernel

end Project
end DocAnalytics
