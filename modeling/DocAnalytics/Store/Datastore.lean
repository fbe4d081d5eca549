import DocAnalytics.Pipeline.Run
import DocAnalytics.Store.Memory

/-!
# DocAnalytics.Store.Datastore

A store whose calls may be refused. A refused call changes nothing but the count of calls made;
which calls are refused may depend on that count.
-/

namespace DocAnalytics

/-- A store, the calls made to it so far, and which calls it refuses. -/
structure Datastore where
  store : MemoryStore
  calls : Nat
  refuses : Nat → StoreCall → Bool

namespace Datastore

def willing (store : MemoryStore) : Datastore := ⟨store, 0, fun _ _ => false⟩

def refusing (store : MemoryStore) (calls : List StoreCall) : Datastore :=
  ⟨store, 0, fun _ call => calls.contains call⟩

/-- Makes a call, unless it is refused. -/
def attempt {α : Type} (ds : Datastore) (call : StoreCall)
    (act : MemoryStore → Except StorageError α × MemoryStore) : Except StorageError α × Datastore :=
  let next := { ds with calls := ds.calls + 1 }
  if ds.refuses ds.calls call then (.error (.refused call), next)
  else
    let (result, store) := act ds.store
    (result, { next with store := store })

def aggregate (ds : Datastore) (collection : String) (stages : List Stage) :
    Except StorageError (List Document) × Datastore :=
  ds.attempt .aggregate fun s => (runPipeline stages (s.find collection), s)

def find (ds : Datastore) (collection : String) : Except StorageError (List Document) × Datastore :=
  ds.attempt .find fun s => (.ok (s.find collection), s)

def count (ds : Datastore) (collection : String) : Except StorageError Nat × Datastore :=
  ds.attempt .count fun s => (.ok (s.count collection), s)

/-- Adds a document; returns its identity. -/
def insert (ds : Datastore) (collection : String) (d : Document) :
    Except StorageError String × Datastore :=
  ds.attempt .insert fun s =>
    let (id, s) := s.insert collection d
    (.ok id, s)

/-- Puts a document under an identity. -/
def upsert (ds : Datastore) (collection id : String) (d : Document) :
    Except StorageError Unit × Datastore :=
  ds.attempt .upsert fun s => (.ok (), s.upsert collection id d)

/-- Removes all documents of an identity; says whether there were any. -/
def delete (ds : Datastore) (collection id : String) : Except StorageError Bool × Datastore :=
  ds.attempt .delete fun s =>
    let (removed, s) := s.delete collection id
    (.ok removed, s)

end Datastore
end DocAnalytics
