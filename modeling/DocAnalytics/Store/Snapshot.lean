import DocAnalytics.Json.Fields
import DocAnalytics.Store.Error
import DocAnalytics.Store.Memory
import DocAnalytics.Store.Timestamp

/-!
# DocAnalytics.Store.Snapshot

Snapshots: all collections of a store in one JSON text, with the time at which it was written. When
a snapshot is read the time may be missing or null, but not malformed.
-/

namespace DocAnalytics
namespace Snapshot

open Json (Source)

def text (savedAt : String) (collections : Collections) : String :=
  let documents (docs : List Document) : Json := .array (docs.map .object)
  Json.pretty (.object [
    ("saved_at", .string savedAt),
    ("collections", .object (collections.map fun (name, docs) => (name, documents docs)))])

/-- Whether the time of a snapshot is well-formed. -/
def isSavedAt : Option Source → Bool
  | none => true
  | some .null => true
  | some (.string units) =>
    match Source.text? units with
    | some s => Timestamp.isTimestamp s
    | none => false
  | some _ => false

/-- How deep the documents of a snapshot may be nested, given the levels around them. -/
def documentDepth : Nat := Json.maxDepth - 3

def documents? : List Source → Option (List Document)
  | [] => some []
  | item :: items =>
    match Source.value? documentDepth item, documents? items with
    | some (.object d), some docs => some (d :: docs)
    | _, _ => none

/-- The collections of a snapshot as written. -/
def members? : List (List Nat × Source) → Option Collections
  | [] => some []
  | (key, .array items) :: rest =>
    match Source.text? key, documents? items, members? rest with
    | some name, some docs, some members => some ((name, docs) :: members)
    | _, _, _ => none
  | _ :: _ => none

/-- Reads the collections of a snapshot; of a repeated name the last one counts. -/
def read? (text : String) : Option Collections :=
  match (Source.read? text).bind (Source.fields? ["saved_at", "collections"]) with
  | none => none
  | some fields =>
    if isSavedAt (fields.lookup "saved_at") then
      match fields.lookup "collections" with
      | some (.object members) => (members? members).map Keyed.ofList
      | _ => none
    else none

end Snapshot

namespace MemoryStore

/-- The store of a snapshot. Identities are numbered from one again. -/
def ofSnapshot (text : String) : Except StorageError MemoryStore :=
  match Snapshot.read? text with
  | some collections => .ok (ofCollections collections)
  | none => .error .malformed

def toSnapshot (s : MemoryStore) (savedAt : String) : String := Snapshot.text savedAt s.collections

end MemoryStore
end DocAnalytics
