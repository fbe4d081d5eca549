import DocAnalytics.Proofs.Chart.Step

/-!
# DocAnalytics.Proofs.Chart.Batch

What materializing the charts of a project does to a store that refuses the same calls all the time
(`materialize_refusing`). Listing the charts may fail, and nothing else: after that every chart has
the outcome that it would have without the other ones.

* `Effect`: what one chart changes in the store, by its outcome; `Stores` and `Prunes` are the two
  that change anything. The change that a chart makes has this effect (`effect_onStore`).
* `Batch`: the effects of charts one after the other, which those of a run are (`batch_storeAfter`).
-/

namespace DocAnalytics

namespace Project

open Datastore (Refuses)

def rowsOf? (p : Project) (store : MemoryStore) (id : String) : Option Json :=
  ((store.find p.materialized).find? (Document.hasId id)).bind fun d => d.get? "rows"

/-- Collections other than those of the charts and of their rows stay as they are. -/
def KeepsOthers (p : Project) (before after : MemoryStore) : Prop :=
  ∀ collection, collection ≠ p.charts → collection ≠ p.materialized →
    Keyed.get? after.collections collection = Keyed.get? before.collections collection

/-- The rows of a chart are stored; charts and the rows of other charts stay as they are. -/
structure Stores (p : Project) (id : String) (rows : List Document)
    (before after : MemoryStore) : Prop where
  rows : p.rowsOf? after id = some (.array (rows.map .object))
  charts : after.find p.charts = before.find p.charts
  others : (after.find p.materialized).filter (!Document.hasId id ·) =
    (before.find p.materialized).filter (!Document.hasId id ·)
  keeps : p.KeepsOthers before after

/-- A chart and its rows are gone; other charts and their rows stay as they are. -/
structure Prunes (p : Project) (id : String) (before after : MemoryStore) : Prop where
  charts : after.find p.charts = (before.find p.charts).filter (!Document.hasId id ·)
  materialized : after.find p.materialized =
    (before.find p.materialized).filter (!Document.hasId id ·)
  keeps : p.KeepsOthers before after

/-- What running a pipeline for a chart changes in the store, by what becomes of the chart. -/
def Changes (p : Project) (data : List Document) (id : String) (stages : List Stage)
    (status : Except StorageError ChartStatus) (before after : MemoryStore) : Prop :=
  match status with
  | .error _ => after = before
  | .ok .pruned => p.Prunes id before after
  | .ok (.stored n) => ∃ rows, runPipeline stages data = .ok rows ∧ rows ≠ [] ∧ rows.length = n ∧
    p.Stores id rows before after

/-- What the chart that a document holds changes in the store, by its outcome: stored rows are those
that its pipeline yields on the dataset. -/
def Effect (p : Project) (data : List Document) (d : Document) (outcome : ChartOutcome)
    (before after : MemoryStore) : Prop :=
  match outcome with
  | .stored id n => ∃ chart spec rows, ChartRecord.ofDocument d = .ok chart ∧ chart.id = id ∧
    chart.spec = .ok spec ∧ runPipeline spec.compile data = .ok rows ∧ rows ≠ [] ∧
    rows.length = n ∧ p.Stores id rows before after
  | .pruned id => p.Prunes id before after
  | .skipped _ _ => after = before
  | .failed _ _ => after = before

/-- The effects of charts one after the other. -/
inductive Batch (p : Project) (data : List Document) :
    MemoryStore → List Document → List ChartOutcome → MemoryStore → Prop
  | nil (store : MemoryStore) : Batch p data store [] [] store
  | cons {before between after : MemoryStore} {d : Document} {rest : List Document}
      {outcome : ChartOutcome} {outcomes : List ChartOutcome} :
      Effect p data d outcome before between → Batch p data between rest outcomes after →
      Batch p data before (d :: rest) (outcome :: outcomes) after

variable (p : Project) {refused : List StoreCall} {ds : Datastore}

/-! ## The other collections -/

theorem KeepsOthers.refl (store : MemoryStore) : p.KeepsOthers store store := fun _ _ _ => rfl

variable {p} in
theorem KeepsOthers.trans {before between after : MemoryStore} (h : p.KeepsOthers before between)
    (h' : p.KeepsOthers between after) : p.KeepsOthers before after :=
  fun collection hc hm => (h' collection hc hm).trans (h collection hc hm)

variable {p} in
theorem Effect.keepsOthers {data : List Document} {d : Document} {outcome : ChartOutcome}
    {before after : MemoryStore} (h : p.Effect data d outcome before after) :
    p.KeepsOthers before after := by
  cases outcome with
  | stored id n =>
    obtain ⟨_, _, _, _, _, _, _, _, _, hstores⟩ := h
    exact hstores.keeps
  | pruned id => exact Prunes.keeps h
  | skipped id reason => rw [show after = before from h]; exact KeepsOthers.refl p before
  | failed id failure => rw [show after = before from h]; exact KeepsOthers.refl p before

/-! ## Storing and removing -/

/-- The rows that a materialized chart shows. -/
theorem rowsOf?_upsert (store : MemoryStore) (chart : ChartRecord) (rows : List Document)
    (now : String) :
    p.rowsOf? (store.upsert p.materialized chart.id (chart.materialized rows now)) chart.id =
      some (.array (rows.map .object)) := by
  have hrows : (chart.materialized rows now).get? "rows" = some (.array (rows.map .object)) := by
    have hne : "rows" ≠ "materialized_at" := by decide
    simp only [ChartRecord.materialized, Document.ofList, Keyed.ofList, List.foldl, Document.get?,
      Keyed.get?_insert_of_ne hne, Keyed.get?_insert_self]
  have hne : "rows" ≠ "_id" := by decide
  rw [rowsOf?, MemoryStore.find?_upsert, Option.bind_some, Document.get?,
    Keyed.get?_insert_of_ne hne]
  exact hrows

theorem stores_upsert (store : MemoryStore) (chart : ChartRecord) (rows : List Document)
    (now : String) : p.Stores chart.id rows store
      (store.upsert p.materialized chart.id (chart.materialized rows now)) where
  rows := p.rowsOf?_upsert store chart rows now
  charts := MemoryStore.find_put_of_ne store p.charts_ne_materialized _
  others := MemoryStore.filter_upsert store p.materialized chart.id _
  keeps := fun _ _ hm => MemoryStore.get?_upsert_of_ne store hm chart.id _

theorem prunes_delete (store : MemoryStore) (id : String) :
    p.Prunes id store ((store.delete p.charts id).2.delete p.materialized id).2 where
  charts := by
    rw [MemoryStore.find_delete_of_ne _ p.charts_ne_materialized, MemoryStore.find_delete]
  materialized := by
    rw [MemoryStore.find_delete,
      MemoryStore.find_delete_of_ne _ p.charts_ne_materialized.symm]
  keeps := fun _ hc hm =>
    (MemoryStore.get?_delete_of_ne _ hm id).trans (MemoryStore.get?_delete_of_ne store hc id)

/-! ## One chart -/

theorem changes_onStore (refused : List StoreCall) (data : List Document) (chart : ChartRecord)
    (stages : List Stage) (now : String) (s : MemoryStore) :
    p.Changes data chart.id stages (statusOn refused data stages) s
      ((changeOn refused data chart stages now).onStore p s) := by
  rw [statusOn, changeOn]
  split
  · rfl
  · cases hrows : runPipeline stages data with
    | error e => rfl
    | ok rows =>
      cases rows with
      | nil =>
        by_cases hdel : StoreCall.delete ∈ refused
        · simp only [if_pos hdel]
          rfl
        · simp only [if_neg hdel]
          exact p.prunes_delete s chart.id
      | cons row rows =>
        by_cases hup : StoreCall.upsert ∈ refused
        · simp only [if_pos hup]
          rfl
        · simp only [if_neg hup]
          have hstores := p.stores_upsert s chart (row :: rows) now
          exact ⟨_, hrows, List.cons_ne_nil row rows, rfl, hstores⟩

theorem effect_onStore (refused : List StoreCall) (data : List Document) (now : String)
    (d : Document) (s : MemoryStore) :
    p.Effect data d (outcomeOn refused data d) s ((changeOf refused data now d).onStore p s) := by
  rw [outcomeOn, changeOf]
  cases hchart : ChartRecord.ofDocument d with
  | error e => rfl
  | ok chart =>
    dsimp only
    cases hspec : chart.spec with
    | error reason => rfl
    | ok spec =>
      have hchanges := p.changes_onStore refused data chart spec.compile now s
      dsimp only
      cases hstatus : statusOn refused data spec.compile with
      | error e =>
        rw [hstatus] at hchanges
        exact hchanges
      | ok status =>
        rw [hstatus] at hchanges
        cases status with
        | pruned => exact hchanges
        | stored n =>
          obtain ⟨rows, hrows, hne, hlen, hstores⟩ := hchanges
          exact ⟨chart, spec, rows, hchart, rfl, hspec, hrows, hne, hlen, hstores⟩

/-- A chart without rows is removed, and any other chart is not. -/
theorem materializeChart_of_rows (store : MemoryStore) {chart : ChartRecord} {spec : ChartSpec}
    (hspec : chart.spec = .ok spec) {rows : List Document}
    (hrows : runPipeline spec.compile (store.find p.data) = .ok rows) (now : String) :
    let ran := p.materializeChart (.willing store) chart now
    (rows = [] → ran.1 = .pruned chart.id ∧ p.Prunes chart.id store ran.2.store) ∧
      (rows ≠ [] → ran.1 = .stored chart.id rows.length) := by
  intro ran
  have hstatus : statusOn [] (store.find p.data) spec.compile =
      .ok (if rows = [] then .pruned else .stored rows.length) := by
    rw [statusOn, if_neg List.not_mem_nil, hrows]
    cases rows <;> rfl
  have hchanges := p.changes_onStore [] (store.find p.data) chart spec.compile now store
  obtain ⟨after, hrun, hafter, _⟩ :=
    p.executeChart_step (Datastore.refuses_willing store) chart spec.compile now
  change p.executeChart (.willing store) chart spec.compile now =
    (statusOn [] (store.find p.data) spec.compile, after) at hrun
  change after.store = (changeOn [] (store.find p.data) chart spec.compile now).onStore p store
    at hafter
  rw [hstatus] at hrun hchanges
  constructor
  · intro hnil
    rw [if_pos hnil] at hrun hchanges
    have hran : ran = (.pruned chart.id, after) := by
      simp only [ran, materializeChart, hspec, hrun]
    rw [hran, hafter]
    exact ⟨rfl, hchanges⟩
  · intro hne
    rw [if_neg hne] at hrun
    simp only [ran, materializeChart, hspec, hrun]

/-! ## All charts -/

theorem batch_storeAfter (refused : List StoreCall) (data : List Document) (now : String)
    (records : List Document) (s : MemoryStore) :
    Batch p data s records (records.map (outcomeOn refused data))
      (Change.storeAfter p (records.map (changeOf refused data now)) s) := by
  induction records generalizing s with
  | nil => exact .nil s
  | cons d rest ih =>
    rw [List.map_cons, List.map_cons, Change.storeAfter_cons]
    have heffect := p.effect_onStore refused data now d s
    exact .cons heffect (ih ((changeOf refused data now d).onStore p s))

variable {p} in
theorem Batch.keepsOthers {data records : List Document} {outcomes : List ChartOutcome}
    {before after : MemoryStore} (h : Batch p data before records outcomes after) :
    p.KeepsOthers before after := by
  induction h with
  | nil store => exact KeepsOthers.refl p store
  | cons heffect _ ih => exact heffect.keepsOthers.trans ih

theorem materialize_of_granted (hds : Refuses refused ds) (h : .find ∉ refused) (now : String) :
    ∃ after, p.materialize ds now = (.ok (.ofOutcomes ((ds.store.find p.charts).map
        (outcomeOn refused (ds.store.find p.data)))), after) ∧
      Batch p (ds.store.find p.data) ds.store (ds.store.find p.charts)
        ((ds.store.find p.charts).map (outcomeOn refused (ds.store.find p.data))) after.store := by
  obtain ⟨after, hrun, hafter, _⟩ := p.materialize_eq hds h now
  refine ⟨after, hrun, ?_⟩
  rw [hafter]
  exact p.batch_storeAfter refused _ now _ ds.store

end Project
end DocAnalytics
