import DocAnalytics.Chart.Compile
import DocAnalytics.Chart.Record
import DocAnalytics.Project
import DocAnalytics.Store.Datastore

/-!
# DocAnalytics.Chart.Materialize

Materializing charts: the pipeline of a chart is run on the dataset, and its rows are stored under
the identity of the chart. A chart without rows is removed, together with rows stored before. In a
batch every chart has an outcome of its own, and none keeps the others from having theirs.
-/

namespace DocAnalytics

/-- What became of a chart whose pipeline ran. -/
inductive ChartStatus where
  | stored (rows : Nat)
  | pruned
deriving DecidableEq, Repr

/-- Why a chart has no rows to show. -/
inductive ChartFailure where
  | unreadable (e : RecordError)
  | execution (e : StorageError)
deriving DecidableEq

def ChartFailure.message : ChartFailure → String
  | .unreadable e => e.message
  | .execution e => e.executionMessage

/-- What became of a stored chart in a batch. -/
inductive ChartOutcome where
  | stored (id : String) (rows : Nat)
  | pruned (id : String)
  | skipped (id : String) (reason : ChartError)
  | failed (id : String) (failure : ChartFailure)
deriving DecidableEq

/-- What is reported of a batch: how many charts had each kind of outcome, and the outcomes in the
order of the stored charts. -/
structure ChartReport where
  processed : Nat
  skipped : Nat
  failed : Nat
  deleted : Nat
  outcomes : List ChartOutcome
deriving DecidableEq

namespace ChartReport

def empty : ChartReport := ⟨0, 0, 0, 0, []⟩

/-- Counts an outcome and puts it behind the others. -/
def record (r : ChartReport) (outcome : ChartOutcome) : ChartReport :=
  let outcomes := r.outcomes ++ [outcome]
  match outcome with
  | .stored _ _ => { r with processed := r.processed + 1, outcomes }
  | .pruned _ => { r with deleted := r.deleted + 1, outcomes }
  | .skipped _ _ => { r with skipped := r.skipped + 1, outcomes }
  | .failed _ _ => { r with failed := r.failed + 1, outcomes }

def total (r : ChartReport) : Nat := r.outcomes.length

def line (r : ChartReport) : String :=
  "Charts: " ++ toString r.processed ++ " stored, " ++ toString r.deleted ++ " pruned, " ++
    toString r.skipped ++ " skipped, " ++ toString r.failed ++ " failed"

end ChartReport

namespace Project

/-- Removes a chart and the rows stored for it. -/
def pruneChart (p : Project) (ds : Datastore) (id : String) :
    Except StorageError ChartStatus × Datastore :=
  match ds.delete p.charts id with
  | (.error e, ds) => (.error e, ds)
  | (.ok _, ds) =>
    match ds.delete p.materialized id with
    | (.error e, ds) => (.error e, ds)
    | (.ok _, ds) => (.ok .pruned, ds)

def storeChart (p : Project) (ds : Datastore) (chart : ChartRecord) (rows : List Document)
    (now : String) : Except StorageError ChartStatus × Datastore :=
  match ds.upsert p.materialized chart.id (chart.materialized rows now) with
  | (.error e, ds) => (.error e, ds)
  | (.ok _, ds) => (.ok (.stored rows.length), ds)

/-- Runs the pipeline of a chart, and stores its rows or removes it if there are none. -/
def executeChart (p : Project) (ds : Datastore) (chart : ChartRecord) (stages : List Stage)
    (now : String) : Except StorageError ChartStatus × Datastore :=
  match ds.aggregate p.data stages with
  | (.error e, ds) => (.error e, ds)
  | (.ok [], ds) => p.pruneChart ds chart.id
  | (.ok (row :: rows), ds) => p.storeChart ds chart (row :: rows) now

def materializeChart (p : Project) (ds : Datastore) (chart : ChartRecord) (now : String) :
    ChartOutcome × Datastore :=
  match chart.spec with
  | .error reason => (.skipped chart.id reason, ds)
  | .ok spec =>
    match p.executeChart ds chart spec.compile now with
    | (.ok (.stored rows), ds) => (.stored chart.id rows, ds)
    | (.ok .pruned, ds) => (.pruned chart.id, ds)
    | (.error e, ds) => (.failed chart.id (.execution e), ds)

def materializeDocument (p : Project) (ds : Datastore) (d : Document) (now : String) :
    ChartOutcome × Datastore :=
  match ChartRecord.ofDocument d with
  | .error e => (.failed ((d.id?).getD "<unknown>") (.unreadable e), ds)
  | .ok chart => p.materializeChart ds chart now

def materializeDocuments (p : Project) (now : String) :
    ChartReport → Datastore → List Document → ChartReport × Datastore
  | report, ds, [] => (report, ds)
  | report, ds, d :: rest =>
    let (outcome, ds) := p.materializeDocument ds d now
    p.materializeDocuments now (report.record outcome) ds rest

/-- Materializes all charts of a project. Only a failure to list them ends the batch. -/
def materialize (p : Project) (ds : Datastore) (now : String) :
    Except StorageError ChartReport × Datastore :=
  match ds.find p.charts with
  | (.error e, ds) => (.error e, ds)
  | (.ok records, ds) =>
    let (report, ds) := p.materializeDocuments now .empty ds records
    (.ok report, ds)

end Project
end DocAnalytics
