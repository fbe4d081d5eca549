import DocAnalytics.Catalog.DeclaredType
import DocAnalytics.Json.Basic
import DocAnalytics.Keyed

/-!
# DocAnalytics.Catalog.Basic

The catalog of a dataset: its fields with their declared types, in the order in which metadata first
names them. A later record of a field takes the place of an earlier one. Fields are looked up in an
index of positions, which is kept with the list (`Linked`).
-/

namespace DocAnalytics

/-- A field with its declared type; `rawType` is the type as metadata writes it. -/
structure FieldDescriptor where
  name : String
  declared : DeclaredType
  rawType : String
deriving DecidableEq, Repr

/-- An index has the position of every name in a list of fields, and no others. -/
def Linked (fields : List FieldDescriptor) (index : List (String × Nat)) : Prop :=
  ∀ name position, Keyed.get? index name = some position ↔
    (fields.map FieldDescriptor.name)[position]? = some name

/-- The fields of a dataset and the positions of their names. -/
structure Catalog where
  fields : List FieldDescriptor
  index : List (String × Nat)
  linked : Linked fields index
deriving DecidableEq, Repr

namespace Linked

variable {fields : List FieldDescriptor} {index : List (String × Nat)} {field : FieldDescriptor}

theorem nil : Linked [] [] := by
  intro name position
  simp [Keyed.get?]

/-- A field in the place of one of its name. -/
theorem set (h : Linked fields index) {position : Nat}
    (hposition : Keyed.get? index field.name = some position) :
    Linked (fields.set position field) index := by
  have hname := (h field.name position).1 hposition
  have hnames : (fields.set position field).map FieldDescriptor.name =
      fields.map FieldDescriptor.name := by
    obtain ⟨hlt, hat⟩ := List.getElem?_eq_some_iff.1 hname
    rw [List.map_set, ← hat, List.set_getElem_self]
  intro name other
  rw [hnames]
  exact h name other

/-- A field of a new name at the end. -/
theorem concat (h : Linked fields index) (hnew : Keyed.get? index field.name = none) :
    Linked (fields ++ [field]) (Keyed.insert field.name fields.length index) := by
  intro name position
  rw [List.map_append, List.map_singleton]
  by_cases hname : name = field.name
  · subst hname
    have hold : (fields.map FieldDescriptor.name)[position]? ≠ some field.name := by
      rw [ne_eq, ← h, hnew]
      exact nofun
    rw [Keyed.get?_insert_self, Option.some.injEq]
    rcases Nat.lt_trichotomy position fields.length with hlt | rfl | hgt
    · rw [List.getElem?_append_left (by simpa using hlt)]
      exact ⟨fun heq => absurd heq (by omega), fun heq => absurd heq hold⟩
    · simp
    · rw [List.getElem?_eq_none (by simpa using Nat.succ_le_of_lt hgt)]
      exact ⟨fun heq => absurd heq (by omega), nofun⟩
  · rw [Keyed.get?_insert_of_ne hname, h]
    rcases Nat.lt_or_ge position fields.length with hlt | hge
    · rw [List.getElem?_append_left (by simpa using hlt)]
    · rw [List.getElem?_append_right (by simpa using hge),
        List.getElem?_eq_none (by simpa using hge)]
      refine ⟨nofun, fun heq => ?_⟩
      exact absurd (List.mem_singleton.1 (List.mem_of_getElem? heq)) hname

end Linked

/-- A record of metadata about one field. -/
structure SchemaRecord where
  fieldName : String
  dataType : String
deriving DecidableEq, Repr

/-- The record that a document holds, if it has both texts. -/
def SchemaRecord.ofDocument? (d : Document) : Option SchemaRecord :=
  match d.get? "attribute", d.get? "data_type" with
  | some (.string fieldName), some (.string dataType) => some ⟨fieldName, dataType⟩
  | _, _ => none

def SchemaRecord.descriptor (r : SchemaRecord) : FieldDescriptor :=
  ⟨r.fieldName, DeclaredType.ofText r.dataType, r.dataType⟩

namespace Catalog

def empty : Catalog := ⟨[], [], Linked.nil⟩

/-- Puts a field in the place of the one of its name, or at the end. -/
def put (c : Catalog) (field : FieldDescriptor) : Catalog :=
  match h : Keyed.get? c.index field.name with
  | some position => ⟨c.fields.set position field, c.index, c.linked.set h⟩
  | none => ⟨c.fields ++ [field], Keyed.insert field.name c.fields.length c.index,
      c.linked.concat h⟩

def ofFields (fields : List FieldDescriptor) : Catalog := fields.foldl put empty

def ofRecords (records : List SchemaRecord) : Catalog :=
  ofFields (records.map SchemaRecord.descriptor)

/-- The catalog of metadata documents; those that are no records are passed over. -/
def ofDocuments (docs : List Document) : Catalog :=
  ofRecords (docs.filterMap SchemaRecord.ofDocument?)

def field? (c : Catalog) (name : String) : Option FieldDescriptor :=
  (Keyed.get? c.index name).bind fun position => c.fields[position]?

def contains (c : Catalog) (name : String) : Bool := (Keyed.get? c.index name).isSome

def names (c : Catalog) : List String := c.fields.map FieldDescriptor.name

def namesWhere (c : Catalog) (accepts : DeclaredType → Bool) : List String :=
  (c.fields.filter fun f => accepts f.declared).map FieldDescriptor.name

def numericFields (c : Catalog) : List String := c.namesWhere DeclaredType.isNumeric

def categoricalFields (c : Catalog) : List String := c.namesWhere DeclaredType.isCategorical

def dateFields (c : Catalog) : List String := c.namesWhere DeclaredType.isTemporal

/-- The names that contain a text, letter case left aside. -/
def similarTo (c : Catalog) (needle : String) : List String :=
  let needle := Unicode.lowercase needle
  c.names.filter fun name => Text.contains (Unicode.lowercase name) needle

def size (c : Catalog) : Nat := c.fields.length

end Catalog
end DocAnalytics
