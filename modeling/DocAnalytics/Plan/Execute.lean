import DocAnalytics.Plan.Compile
import DocAnalytics.Plan.Validation
import DocAnalytics.Store.Datastore

/-!
# DocAnalytics.Plan.Execute

From a plan request to rows: validation, compilation and one pipeline run.
-/

namespace DocAnalytics

/-- Why a plan has no rows. -/
inductive PlanFailure where
  | validation (e : ValidationError)
  | execution (e : StorageError)
deriving DecidableEq

namespace PlanRequest

/-- Runs a request on a collection. -/
def run (r : PlanRequest) (catalog : Catalog) (ds : Datastore) (collection : String) :
    Except PlanFailure (List Document) × Datastore :=
  match r.validate catalog with
  | .error e => (.error (.validation e), ds)
  | .ok plan =>
    match ds.aggregate collection plan.compile with
    | (.error e, ds) => (.error (.execution e), ds)
    | (.ok rows, ds) => (.ok rows, ds)

end PlanRequest

def Catalog.load (ds : Datastore) (collection : String) : Except StorageError Catalog × Datastore :=
  match ds.find collection with
  | (.error e, ds) => (.error e, ds)
  | (.ok docs, ds) => (.ok (Catalog.ofDocuments docs), ds)

end DocAnalytics
