import DocAnalytics.Filter.Error

/-!
# DocAnalytics.Store.Error

What can go wrong with a store of documents: with what it is asked to do, with its snapshot, or
because it refuses a call.
-/

namespace DocAnalytics

inductive StoreCall where
  | aggregate
  | find
  | count
  | insert
  | upsert
  | delete
deriving DecidableEq, Repr

namespace StoreCall

def all : List StoreCall := [.aggregate, .find, .count, .insert, .upsert, .delete]

def name : StoreCall → String
  | .aggregate => "aggregate"
  | .find => "find"
  | .count => "count"
  | .insert => "insert"
  | .upsert => "upsert"
  | .delete => "delete"

end StoreCall

/-- Why a call to a store fails. -/
inductive StorageError where
  | invalidFilter (e : FilterError)
  /-- A bucketing stage that asks for no buckets. -/
  | noBuckets
  /-- A snapshot that cannot be read or written. -/
  | unreachable
  /-- A snapshot that is not the text of one. -/
  | malformed
  /-- A call that the store refuses. -/
  | refused (call : StoreCall)
deriving DecidableEq

namespace StorageError

/-- What is reported; the system's own words about files and texts are left out. -/
def message : StorageError → String
  | .invalidFilter e => "Invalid filter: " ++ e.message
  | .noBuckets => "Invalid pipeline stage: bucket_auto requires at least one bucket"
  | .unreachable => "I/O error"
  | .malformed => "JSON error"
  | .refused call => "Datastore error: " ++ call.name ++ " refused"

/-- What is reported where the error ends the execution of a pipeline. -/
def executionMessage (e : StorageError) : String := "Execution error: " ++ e.message

end StorageError
end DocAnalytics
