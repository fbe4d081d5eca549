import DocAnalytics.Json.Printer

/-!
# DocAnalytics.Store.Memory

A store of documents in memory: named collections of documents in the order in which they came.
Documents are addressed by the text of their `_id`, a text or a number. A collection that was never
written reads as an empty one.
-/

namespace DocAnalytics

/-- The identity of a document: its `_id` as a text. Values other than texts and numbers are none.
-/
def Document.id? (d : Document) : Option String :=
  match d.get? "_id" with
  | some (.string s) => some s
  | some (.number n) => some n.text
  | _ => none

def Document.hasId (id : String) (d : Document) : Bool := d.id? == some id

/-- Named collections of documents, by ascending name. -/
abbrev Collections := List (String × List Document)

/-- A store in memory, with the unsigned 64-bit integer that the next identity is made of. -/
structure MemoryStore where
  collections : Collections
  nextId : Nat
deriving DecidableEq

namespace MemoryStore

def empty : MemoryStore := ⟨[], 1⟩

def find (s : MemoryStore) (collection : String) : List Document :=
  (Keyed.get? s.collections collection).getD []

def count (s : MemoryStore) (collection : String) : Nat := (s.find collection).length

def names (s : MemoryStore) : List String := Keyed.keys s.collections

def put (s : MemoryStore) (collection : String) (docs : List Document) : MemoryStore :=
  { s with collections := Keyed.insert collection docs s.collections }

/-- The store with given collections, in which documents stay as they are. -/
def ofCollections (collections : Collections) : MemoryStore :=
  collections.foldl (fun s c => s.put c.1 (s.find c.1 ++ c.2)) empty

/-- The number after another one; after the last one it is zero again. -/
def following (n : Nat) : Nat := (n + 1) % Text.unsignedLimit

def insert (s : MemoryStore) (collection : String) (d : Document) : String × MemoryStore :=
  match d.id? with
  | some id => (id, s.put collection (s.find collection ++ [d]))
  | none =>
    let id := toString s.nextId
    let d := Document.insert "_id" (.string id) d
    (id, { s.put collection (s.find collection ++ [d]) with nextId := following s.nextId })

/-- Adds documents one after the other; returns their identities. -/
def insertMany (s : MemoryStore) (collection : String) : List Document → List String × MemoryStore
  | [] => ([], s)
  | d :: rest =>
    let (id, s) := s.insert collection d
    let (ids, s) := s.insertMany collection rest
    (id :: ids, s)

/-- Puts a document in the place of the first one of an identity, or at the end. -/
def replaceFirst (id : String) (d : Document) : List Document → List Document
  | [] => [d]
  | e :: rest => if e.hasId id then d :: rest else e :: replaceFirst id d rest

def upsert (s : MemoryStore) (collection id : String) (d : Document) : MemoryStore :=
  let d := Document.insert "_id" (.string id) d
  s.put collection (replaceFirst id d (s.find collection))

/-- Removes all documents of an identity; says whether there were any. -/
def delete (s : MemoryStore) (collection id : String) : Bool × MemoryStore :=
  match Keyed.get? s.collections collection with
  | none => (false, s)
  | some docs =>
    let kept := docs.filter fun d => !d.hasId id
    (kept.length < docs.length, s.put collection kept)

end MemoryStore
end DocAnalytics
