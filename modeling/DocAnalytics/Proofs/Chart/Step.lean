import DocAnalytics.Chart.Materialize
import DocAnalytics.Proofs.Chart.Change

/-!
# DocAnalytics.Proofs.Chart.Step

What materializing charts does to a store that refuses the same calls all the time, exactly. The
outcome of a chart (`outcomeOn`) and the change that it makes (`changeOf`) depend on the dataset,
the chart and the refused calls alone; a batch reports the outcomes and makes the changes one
after the other (`materialize_eq`), by `materializeDocument_step` and induction on the charts.
-/

namespace DocAnalytics

/-! ## Reports -/

namespace ChartReport

/-- The report of a batch with given outcomes. -/
def ofOutcomes (outcomes : List ChartOutcome) : ChartReport := outcomes.foldl record empty

/-- The tallies of a report count the outcomes of their kinds, and every outcome is counted. -/
structure Tallied (r : ChartReport) : Prop where
  processed : r.processed = r.outcomes.countP fun | .stored _ _ => true | _ => false
  deleted : r.deleted = r.outcomes.countP fun | .pruned _ => true | _ => false
  skipped : r.skipped = r.outcomes.countP fun | .skipped _ _ => true | _ => false
  failed : r.failed = r.outcomes.countP fun | .failed _ _ => true | _ => false
  total : r.processed + r.skipped + r.failed + r.deleted = r.outcomes.length

variable {r : ChartReport} {outcomes : List ChartOutcome}

theorem outcomes_record (r : ChartReport) (o : ChartOutcome) :
    (r.record o).outcomes = r.outcomes ++ [o] := by
  cases o <;> rfl

/-- An outcome adds one to the tally of its kind and nothing to the others. -/
theorem Tallied.record (h : r.Tallied) (o : ChartOutcome) : (r.record o).Tallied where
  processed := by
    rw [outcomes_record, List.countP_append, ← h.processed]
    cases o <;> rfl
  deleted := by
    rw [outcomes_record, List.countP_append, ← h.deleted]
    cases o <;> rfl
  skipped := by
    rw [outcomes_record, List.countP_append, ← h.skipped]
    cases o <;> rfl
  failed := by
    rw [outcomes_record, List.countP_append, ← h.failed]
    cases o <;> rfl
  total := by
    rw [outcomes_record, List.length_append, ← h.total]
    cases o <;> simp only [ChartReport.record, List.length_singleton] <;> omega

end ChartReport

namespace Project

open Datastore (Refuses)

/-- What becomes of a chart with a given pipeline on a dataset. -/
def statusOn (refused : List StoreCall) (data : List Document) (stages : List Stage) :
    Except StorageError ChartStatus :=
  if .aggregate ∈ refused then .error (.refused .aggregate)
  else
    match runPipeline stages data with
    | .error e => .error e
    | .ok [] => if .delete ∈ refused then .error (.refused .delete) else .ok .pruned
    | .ok (row :: rows) =>
      if .upsert ∈ refused then .error (.refused .upsert) else .ok (.stored (row :: rows).length)

/-- The outcome of the chart that a document holds, on a dataset. -/
def outcomeOn (refused : List StoreCall) (data : List Document) (d : Document) : ChartOutcome :=
  match ChartRecord.ofDocument d with
  | .error e => .failed ((d.id?).getD "<unknown>") (.unreadable e)
  | .ok chart =>
    match chart.spec with
    | .error reason => .skipped chart.id reason
    | .ok spec =>
      match statusOn refused data spec.compile with
      | .ok (.stored n) => .stored chart.id n
      | .ok .pruned => .pruned chart.id
      | .error e => .failed chart.id (.execution e)

/-- What a chart with a given pipeline changes, on a dataset. -/
def changeOn (refused : List StoreCall) (data : List Document) (chart : ChartRecord)
    (stages : List Stage) (now : String) : Change :=
  if .aggregate ∈ refused then .keep
  else
    match runPipeline stages data with
    | .error _ => .keep
    | .ok [] => if .delete ∈ refused then .keep else .prune chart.id
    | .ok (row :: rows) =>
      if .upsert ∈ refused then .keep
      else
        .store chart.id
          (Document.insert "_id" (.string chart.id) (chart.materialized (row :: rows) now))
          (Document.hasId_insert _ _)

/-- What the chart that a document holds changes, on a dataset. -/
def changeOf (refused : List StoreCall) (data : List Document) (now : String) (d : Document) :
    Change :=
  match ChartRecord.ofDocument d with
  | .error _ => .keep
  | .ok chart =>
    match chart.spec with
    | .error _ => .keep
    | .ok spec => changeOn refused data chart spec.compile now

def Change.onStore (p : Project) (s : MemoryStore) : Change → MemoryStore
  | keep => s
  | store id d _ =>
    s.put p.materialized (MemoryStore.replaceFirst id d (s.find p.materialized))
  | prune id => ((s.delete p.charts id).2.delete p.materialized id).2

def Change.storeAfter (p : Project) (changes : List Change) (s : MemoryStore) : MemoryStore :=
  changes.foldl (Change.onStore p) s

variable (p : Project) {refused : List StoreCall} {ds : Datastore}

/-! ## The collections of a project -/

theorem name_ne_name {tail other : String} (h : tail ≠ other) : p.id ++ tail ≠ p.id ++ other := by
  intro heq
  have hchars := congrArg String.toList heq
  rw [String.toList_append, String.toList_append] at hchars
  exact h (String.toList_inj.1 (List.append_cancel_left hchars))

theorem data_ne_charts : p.data ≠ p.charts := name_ne_name p (by decide)

theorem data_ne_materialized : p.data ≠ p.materialized := name_ne_name p (by decide)

theorem charts_ne_materialized : p.charts ≠ p.materialized := name_ne_name p (by decide)

/-! ## What a change does to the collections -/

namespace Change

variable (s : MemoryStore) (c : Change)

theorem find_data_onStore : (c.onStore p s).find p.data = s.find p.data := by
  cases c with
  | keep => rfl
  | store id d h => exact MemoryStore.find_put_of_ne s p.data_ne_materialized _
  | prune id =>
    rw [onStore, MemoryStore.find_delete_of_ne _ p.data_ne_materialized,
      MemoryStore.find_delete_of_ne _ p.data_ne_charts]

theorem storeAfter_cons (changes : List Change) :
    storeAfter p (c :: changes) s = storeAfter p changes (c.onStore p s) := rfl

variable (changes : List Change)

end Change

/-! ## Storing and removing -/

theorem storeChart_of_refused (hds : Refuses refused ds) (h : .upsert ∈ refused)
    (chart : ChartRecord) (rows : List Document) (now : String) :
    ∃ after, p.storeChart ds chart rows now = (.error (.refused .upsert), after) ∧
      after.store = ds.store ∧ Refuses refused after := by
  obtain ⟨after, hcall, hstore, hafter⟩ := Datastore.attempt_of_refused hds h fun s =>
    (.ok (), s.upsert p.materialized chart.id (chart.materialized rows now))
  refine ⟨after, ?_, hstore, hafter⟩
  rw [storeChart, Datastore.upsert, hcall]

theorem storeChart_of_granted (hds : Refuses refused ds) (h : .upsert ∉ refused)
    (chart : ChartRecord) (rows : List Document) (now : String) :
    ∃ after, p.storeChart ds chart rows now = (.ok (.stored rows.length), after) ∧
      after.store = ds.store.upsert p.materialized chart.id (chart.materialized rows now) ∧
      Refuses refused after := by
  obtain ⟨after, hcall, hstore, hafter⟩ := Datastore.attempt_of_granted hds h fun s =>
    (.ok (), s.upsert p.materialized chart.id (chart.materialized rows now))
  refine ⟨after, ?_, hstore, hafter⟩
  rw [storeChart, Datastore.upsert, hcall]

theorem pruneChart_of_refused (hds : Refuses refused ds) (h : .delete ∈ refused) (id : String) :
    ∃ after, p.pruneChart ds id = (.error (.refused .delete), after) ∧
      after.store = ds.store ∧ Refuses refused after := by
  obtain ⟨after, hcall, hstore, hafter⟩ := Datastore.attempt_of_refused hds h fun s =>
    (.ok (s.delete p.charts id).1, (s.delete p.charts id).2)
  refine ⟨after, ?_, hstore, hafter⟩
  rw [pruneChart, Datastore.delete, hcall]

/-- A store that removes the chart removes its rows as well. -/
theorem pruneChart_of_granted (hds : Refuses refused ds) (h : .delete ∉ refused) (id : String) :
    ∃ after, p.pruneChart ds id = (.ok .pruned, after) ∧
      after.store = ((ds.store.delete p.charts id).2.delete p.materialized id).2 ∧
      Refuses refused after := by
  obtain ⟨between, hfirst, hbetween, hrefuses⟩ := Datastore.attempt_of_granted hds h fun s =>
    (.ok (s.delete p.charts id).1, (s.delete p.charts id).2)
  obtain ⟨after, hsecond, hafter, hrefuses'⟩ := Datastore.attempt_of_granted hrefuses h fun s =>
    (.ok (s.delete p.materialized id).1, (s.delete p.materialized id).2)
  refine ⟨after, ?_, ?_, hrefuses'⟩
  · rw [pruneChart, Datastore.delete, hfirst]
    simp only [Datastore.delete, hsecond]
  · rw [hafter, hbetween]

/-! ## One chart -/

theorem executeChart_step (hds : Refuses refused ds) (chart : ChartRecord) (stages : List Stage)
    (now : String) :
    ∃ after, p.executeChart ds chart stages now =
        (statusOn refused (ds.store.find p.data) stages, after) ∧
      after.store =
        (changeOn refused (ds.store.find p.data) chart stages now).onStore p ds.store ∧
      Refuses refused after := by
  rw [executeChart, statusOn, changeOn]
  by_cases hagg : StoreCall.aggregate ∈ refused
  · obtain ⟨after, hcall, hstore, hafter⟩ := Datastore.attempt_of_refused hds hagg fun s =>
      (runPipeline stages (s.find p.data), s)
    rw [Datastore.aggregate, hcall, if_pos hagg, if_pos hagg]
    exact ⟨after, rfl, hstore, hafter⟩
  · obtain ⟨between, hcall, hbetween, hrefuses⟩ :=
      Datastore.attempt_of_granted hds hagg fun s => (runPipeline stages (s.find p.data), s)
    rw [Datastore.aggregate, hcall, if_neg hagg, if_neg hagg]
    cases hrows : runPipeline stages (ds.store.find p.data) with
    | error e => exact ⟨between, rfl, hbetween, hrefuses⟩
    | ok rows =>
      cases rows with
      | nil =>
        by_cases hdel : StoreCall.delete ∈ refused
        · obtain ⟨after, hprune, hstore, hafter⟩ :=
            p.pruneChart_of_refused hrefuses hdel chart.id
          simp only [hprune, if_pos hdel]
          exact ⟨after, rfl, hstore.trans hbetween, hafter⟩
        · obtain ⟨after, hprune, hstore, hafter⟩ :=
            p.pruneChart_of_granted hrefuses hdel chart.id
          simp only [hprune, if_neg hdel]
          rw [hbetween] at hstore
          exact ⟨after, rfl, hstore, hafter⟩
      | cons row rows =>
        by_cases hup : StoreCall.upsert ∈ refused
        · obtain ⟨after, hput, hstore, hafter⟩ :=
            p.storeChart_of_refused hrefuses hup chart (row :: rows) now
          simp only [hput, if_pos hup]
          exact ⟨after, rfl, hstore.trans hbetween, hafter⟩
        · obtain ⟨after, hput, hstore, hafter⟩ :=
            p.storeChart_of_granted hrefuses hup chart (row :: rows) now
          simp only [hput, if_neg hup]
          rw [hbetween] at hstore
          exact ⟨after, rfl, hstore, hafter⟩

/-- A chart has its outcome and makes its change, whatever the store holds besides the dataset. -/
theorem materializeDocument_step (hds : Refuses refused ds) (d : Document) (now : String) :
    ∃ after, p.materializeDocument ds d now =
        (outcomeOn refused (ds.store.find p.data) d, after) ∧
      after.store = (changeOf refused (ds.store.find p.data) now d).onStore p ds.store ∧
      Refuses refused after := by
  rw [materializeDocument, outcomeOn, changeOf]
  cases ChartRecord.ofDocument d with
  | error e => exact ⟨ds, rfl, rfl, hds⟩
  | ok chart =>
    simp only [materializeChart]
    cases chart.spec with
    | error reason => exact ⟨ds, rfl, rfl, hds⟩
    | ok spec =>
      obtain ⟨after, hrun, hstore, hafter⟩ := p.executeChart_step hds chart spec.compile now
      refine ⟨after, ?_, hstore, hafter⟩
      simp only [hrun]
      cases statusOn refused (ds.store.find p.data) spec.compile with
      | error e => rfl
      | ok status => cases status <;> rfl

/-! ## All charts -/

/-- By induction on the charts; that no change touches the dataset carries it. -/
theorem materializeDocuments_run (hds : Refuses refused ds) (records : List Document)
    (report : ChartReport) (now : String) :
    ∃ after, p.materializeDocuments now report ds records =
        ((records.map (outcomeOn refused (ds.store.find p.data))).foldl .record report, after) ∧
      after.store =
        Change.storeAfter p (records.map (changeOf refused (ds.store.find p.data) now)) ds.store ∧
      Refuses refused after := by
  induction records generalizing ds report with
  | nil => exact ⟨ds, rfl, rfl, hds⟩
  | cons d rest ih =>
    obtain ⟨between, hstep, hbetween, hrefuses⟩ := p.materializeDocument_step hds d now
    obtain ⟨after, hrun, hstore, hafter⟩ :=
      ih hrefuses (report.record (outcomeOn refused (ds.store.find p.data) d))
    rw [hbetween, Change.find_data_onStore] at hrun hstore
    refine ⟨after, ?_, hstore, hafter⟩
    simp only [materializeDocuments, hstep, hrun, List.map_cons, List.foldl_cons]

theorem materialize_of_refused (hds : Refuses refused ds) (h : .find ∈ refused) (now : String) :
    ∃ after, p.materialize ds now = (.error (.refused .find), after) ∧
      after.store = ds.store := by
  obtain ⟨after, hcall, hstore, _⟩ := Datastore.attempt_of_refused hds h fun s =>
    (.ok (s.find p.charts), s)
  refine ⟨after, ?_, hstore⟩
  rw [materialize, Datastore.find, hcall]

theorem materialize_eq (hds : Refuses refused ds) (h : .find ∉ refused) (now : String) :
    let data := ds.store.find p.data
    let records := ds.store.find p.charts
    ∃ after, p.materialize ds now =
        (.ok (.ofOutcomes (records.map (outcomeOn refused data))), after) ∧
      after.store = Change.storeAfter p (records.map (changeOf refused data now)) ds.store ∧
      Refuses refused after := by
  intro data records
  obtain ⟨between, hcall, hbetween, hrefuses⟩ :=
    Datastore.attempt_of_granted hds h fun s => (.ok (s.find p.charts), s)
  obtain ⟨after, hrun, hstore, hafter⟩ := p.materializeDocuments_run hrefuses records .empty now
  rw [hbetween] at hrun hstore
  refine ⟨after, ?_, hstore, hafter⟩
  rw [materialize, Datastore.find, hcall]
  simp only [data, records] at hrun ⊢
  simp only [hrun, ChartReport.ofOutcomes]

end Project
end DocAnalytics
