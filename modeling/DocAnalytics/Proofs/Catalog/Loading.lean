import DocAnalytics.Plan.Execute
import DocAnalytics.Proofs.Catalog.Records

/-!
# DocAnalytics.Proofs.Catalog.Loading

The catalog that is loaded from a collection of metadata documents (`load_describes`). Documents
that are no records leave no trace. Of the others the catalog has each name once, in the order in
which the names first appear, and under each name what the last record of the name says; its lists
of numeric, categorical and date fields hold the names whose types are looked up as such.
-/

namespace DocAnalytics
namespace Catalog

/-- A record after which no other names the same field. -/
def IsLast (records : List SchemaRecord) (record : SchemaRecord) : Prop :=
  ∃ before after, records = before ++ record :: after ∧
    ∀ later ∈ after, later.fieldName ≠ record.fieldName

/-- What a catalog says where it is that of a list of records. -/
structure Describes (c : Catalog) (records : List SchemaRecord) : Prop where
  distinct : c.names.Nodup
  firstAppearance : c.names = (records.map SchemaRecord.fieldName).eraseDups
  contains_iff : ∀ name, c.contains name = true ↔ name ∈ c.names
  lastRecord : ∀ name ∈ c.names, ∃ record, IsLast records record ∧ record.fieldName = name ∧
    c.field? name = some ⟨name, DeclaredType.ofText record.dataType, record.dataType⟩
  unknown : ∀ name, name ∉ c.names → c.field? name = none
  numeric : c.numericFields = c.names.filter fun name =>
    (c.field? name).any fun f => f.declared.isNumeric
  categorical : c.categoricalFields = c.names.filter fun name =>
    (c.field? name).any fun f => f.declared.isCategorical
  dates : c.dateFields = c.names.filter fun name =>
    (c.field? name).any fun f => f.declared.isTemporal

variable {records : List SchemaRecord} {record : SchemaRecord} {name : String}

theorem isLast_of_lastRecord? (h : lastRecord? records name = some record) :
    record.fieldName = name ∧ IsLast records record := by
  obtain ⟨hname, before, after, hsplit, hbefore⟩ := List.find?_eq_some_iff_append.1 h
  have hfield : record.fieldName = name := eq_of_beq hname
  refine ⟨hfield, after.reverse, before.reverse, ?_, ?_⟩
  · rw [← List.reverse_reverse records, hsplit]
    simp
  · intro later hlater heq
    have hother := hbefore later (List.mem_reverse.1 hlater)
    simp [heq, hfield] at hother

theorem field?_of_mem_names (h : name ∈ (ofRecords records).names) :
    ∃ record, IsLast records record ∧ record.fieldName = name ∧
      (ofRecords records).field? name =
        some ⟨name, DeclaredType.ofText record.dataType, record.dataType⟩ := by
  have hnamed := (contains_ofRecords_iff records name).1 ((contains_iff _ name).2 h)
  obtain ⟨record, hlast⟩ :=
    Option.isSome_iff_exists.1 ((isSome_lastRecord?_iff records name).2 hnamed)
  obtain ⟨rfl, hisLast⟩ := isLast_of_lastRecord? hlast
  refine ⟨record, hisLast, rfl, ?_⟩
  rw [field?_ofRecords, hlast]
  rfl

theorem namesWhere_eq (c : Catalog) (accepts : DeclaredType → Bool) :
    c.namesWhere accepts =
      c.names.filter fun name => (c.field? name).any fun f => accepts f.declared := by
  rw [namesWhere, names, List.filter_map]
  -- names are distinct, so what is looked up under the name of a field is that field
  refine congrArg (List.map FieldDescriptor.name) (List.filter_congr fun f hf => ?_)
  rw [Function.comp_apply, field?_of_mem hf, Option.any_some]

theorem describes_ofRecords (records : List SchemaRecord) :
    (ofRecords records).Describes records := by
  constructor
  case distinct => exact nodup_names _
  case firstAppearance =>
    rw [ofRecords, names_ofFields, List.map_map]
    rfl
  case contains_iff => exact contains_iff _
  case lastRecord =>
    intro name hname
    exact field?_of_mem_names hname
  case unknown =>
    intro name hname
    rw [← contains_iff, contains_eq, Bool.not_eq_true, Option.isSome_eq_false_iff] at hname
    exact Option.isNone_iff_eq_none.1 hname
  case numeric => exact namesWhere_eq _ _
  case categorical => exact namesWhere_eq _ _
  case dates => exact namesWhere_eq _ _

/-- Loading a catalog reads the collection once, and the catalog is that of the records among its
documents. -/
theorem load_describes {ds after : Datastore} {collection : String} {docs : List Document}
    (h : ds.find collection = (.ok docs, after)) :
    ∃ catalog, Catalog.load ds collection = (.ok catalog, after) ∧
      catalog.Describes (docs.filterMap SchemaRecord.ofDocument?) := by
  refine ⟨ofDocuments docs, ?_, describes_ofRecords _⟩
  rw [Catalog.load, h]

/-- The price is given two types, and a document has no type. -/
theorem load_describes_prices :
    let record (name type : String) : Document :=
      Document.ofList [("attribute", .string name), ("data_type", .string type)]
    let docs := [record "price" "string", Document.ofList [("attribute", .string "size")],
      record "city" "text", record "price" "Float"]
    let ds := Datastore.willing (MemoryStore.empty.put "schema" docs)
    ds.find "schema" = (.ok docs, { ds with calls := 1 }) ∧
      ∃ catalog, Catalog.load ds "schema" = (.ok catalog, { ds with calls := 1 }) ∧
        catalog.names = ["price", "city"] ∧ catalog.contains "size" = false ∧
        catalog.Describes [⟨"price", "string"⟩, ⟨"city", "text"⟩, ⟨"price", "Float"⟩] := by
  intro record docs ds
  have hfind : ds.find "schema" = (.ok docs, { ds with calls := 1 }) := by rfl
  obtain ⟨catalog, hload, hdescribes⟩ := load_describes hfind
  have hrecords : docs.filterMap SchemaRecord.ofDocument? =
      [⟨"price", "string"⟩, ⟨"city", "text"⟩, ⟨"price", "Float"⟩] := by decide +kernel
  rw [hrecords] at hdescribes
  have hnames : catalog.names = ["price", "city"] := by
    rw [hdescribes.firstAppearance]
    decide
  refine ⟨hfind, catalog, hload, hnames, ?_, hdescribes⟩
  rw [Bool.eq_false_iff, ne_eq, hdescribes.contains_iff, hnames]
  decide

end Catalog
end DocAnalytics
