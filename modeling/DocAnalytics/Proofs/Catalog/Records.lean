import DocAnalytics.Catalog.Basic
import DocAnalytics.Proofs.Keyed.Order
import Mathlib.Data.List.Induction

/-!
# DocAnalytics.Proofs.Catalog.Records

What a catalog of records says about a field. Of several records of one field the last one counts
(`field?_ofRecords`), and a field is in the catalog exactly if a record names it
(`contains_ofRecords_iff`). Names stand in the order in which they first appear (`names_ofFields`).
No two fields of a catalog have one name (`nodup_names`), so looking a listed field up finds that
field (`field?_of_mem`). A type is numeric exactly if it goes by one of four names
(`isNumeric_ofText_iff`): the names in which `date` or `time` is looked for are none of these.
-/

namespace DocAnalytics

/-! ## Names of types -/

namespace DeclaredType

def numericNames : List String := ["integer", "float", "number", "numeric"]

theorem isNumeric_ofName_iff (name : String) :
    (ofName name).isNumeric = true ↔ name ∈ numericNames := by
  unfold ofName
  split
  case h_21 =>
    have hno : name ∉ numericNames := by
      simp only [numericNames, List.mem_cons, List.not_mem_nil, or_false, not_or]
      exact ⟨by assumption, by assumption, by assumption, by assumption⟩
    split <;> simp [isNumeric, hno]
  all_goals simp [isNumeric, numericNames]

theorem isNumeric_ofText_iff (text : String) :
    (ofText text).isNumeric = true ↔ Unicode.lowercase (Text.trim text) ∈ numericNames :=
  isNumeric_ofName_iff _

end DeclaredType

/-! ## Fields of records -/

namespace Catalog

def Named (records : List SchemaRecord) (name : String) : Prop :=
  ∃ record ∈ records, record.fieldName = name

def lastRecord? (records : List SchemaRecord) (name : String) : Option SchemaRecord :=
  records.reverse.find? fun record => record.fieldName == name

theorem contains_iff (c : Catalog) (name : String) : c.contains name = true ↔ name ∈ c.names := by
  rw [contains, Option.isSome_iff_exists, List.mem_iff_getElem?]
  exact exists_congr (c.linked name)

/-- The index leads to fields of the list, under their names. -/
theorem exists_field_of_index {c : Catalog} {name : String} {position : Nat}
    (h : Keyed.get? c.index name = some position) :
    ∃ f, c.fields[position]? = some f ∧ f.name = name := by
  have hname := (c.linked name position).1 h
  rwa [List.getElem?_map, Option.map_eq_some_iff] at hname

theorem lt_length_of_index {c : Catalog} {name : String} {position : Nat}
    (h : Keyed.get? c.index name = some position) : position < c.fields.length := by
  obtain ⟨f, hf, _⟩ := exists_field_of_index h
  exact (List.getElem?_eq_some_iff.1 hf).1

theorem contains_eq (c : Catalog) (name : String) : c.contains name = (c.field? name).isSome := by
  rw [contains, field?]
  cases hindex : Keyed.get? c.index name with
  | none => rfl
  | some position =>
    obtain ⟨f, hf, _⟩ := exists_field_of_index hindex
    rw [Option.bind_some, hf]
    rfl

/-- Putting a field is a change in place, and its name stays where it was; or it comes last. -/
theorem field?_put (c : Catalog) (field : FieldDescriptor) (name : String) :
    (c.put field).field? name = if field.name = name then some field else c.field? name := by
  unfold put
  split
  · rename_i position hposition
    have hlt := lt_length_of_index hposition
    by_cases hname : field.name = name
    · subst hname
      simp [field?, hposition, hlt]
    · rw [if_neg hname, field?, field?]
      cases hother : Keyed.get? c.index name with
      | none => rfl
      | some other =>
        have hne : position ≠ other := by
          rintro rfl
          obtain ⟨f, hf, hfield⟩ := exists_field_of_index hposition
          obtain ⟨g, hg, hgname⟩ := exists_field_of_index hother
          rw [hf] at hg
          cases hg
          exact hname (hfield.symm.trans hgname)
        exact List.getElem?_set_ne hne
  · rename_i hnew
    by_cases hname : field.name = name
    · subst hname
      simp [field?, Keyed.get?_insert_self]
    · rw [if_neg hname, field?, field?]
      dsimp only
      rw [Keyed.get?_insert_of_ne (Ne.symm hname)]
      cases hother : Keyed.get? c.index name with
      | none => rfl
      | some other =>
        exact List.getElem?_append_left (lt_length_of_index hother)

theorem ofFields_concat (fields : List FieldDescriptor) (field : FieldDescriptor) :
    ofFields (fields ++ [field]) = (ofFields fields).put field := by
  rw [ofFields, List.foldl_concat]
  rfl

theorem field?_ofFields (fields : List FieldDescriptor) (name : String) :
    (ofFields fields).field? name = fields.reverse.find? fun f => f.name == name := by
  induction fields using List.reverseRecOn with
  | nil => rfl
  | append_singleton fields field ih =>
    rw [ofFields_concat, field?_put, List.reverse_concat, List.find?_cons]
    by_cases h : field.name = name
    · simp [h]
    · rw [if_neg h, beq_false_of_ne h]
      exact ih

/-- A field is as its last record describes it. -/
theorem field?_ofRecords (records : List SchemaRecord) (name : String) :
    (ofRecords records).field? name = (lastRecord? records name).map SchemaRecord.descriptor := by
  rw [ofRecords, field?_ofFields, ← List.map_reverse, List.find?_map]
  rfl

theorem isSome_lastRecord?_iff (records : List SchemaRecord) (name : String) :
    (lastRecord? records name).isSome ↔ Named records name := by
  simp [lastRecord?, Named]

theorem contains_ofRecords_iff (records : List SchemaRecord) (name : String) :
    (ofRecords records).contains name = true ↔ Named records name := by
  rw [contains_eq, field?_ofRecords, Option.isSome_map, isSome_lastRecord?_iff]

/-! ## Names -/

theorem names_put (c : Catalog) (field : FieldDescriptor) :
    (c.put field).names = if field.name ∈ c.names then c.names else c.names ++ [field.name] := by
  have hcontains := contains_iff c field.name
  unfold put
  split
  · rename_i position hposition
    rw [if_pos (hcontains.1 (by rw [contains, hposition]; rfl))]
    obtain ⟨hlt, hat⟩ :=
      List.getElem?_eq_some_iff.1 ((c.linked field.name position).1 hposition)
    rw [names, List.map_set, ← hat, List.set_getElem_self]
    rfl
  · rename_i hnew
    have hno : field.name ∉ c.names := by
      rw [← hcontains, contains, hnew]
      exact Bool.false_ne_true
    rw [if_neg hno, names, List.map_append]
    rfl

/-- An index has one position for a name, so that no two fields have one name. -/
theorem nodup_names (c : Catalog) : c.names.Nodup := by
  refine List.pairwise_iff_getElem.2 fun i j hi hj hlt heq => ?_
  have hfirst := (c.linked c.names[i] i).2 (List.getElem?_eq_getElem hi)
  have hsecond := (c.linked c.names[j] j).2 (List.getElem?_eq_getElem hj)
  rw [heq, hsecond] at hfirst
  cases hfirst
  exact Nat.lt_irrefl i hlt

/-- The names are those of the fields, each where it first appears. -/
theorem names_ofFields (fields : List FieldDescriptor) :
    (ofFields fields).names = (fields.map FieldDescriptor.name).eraseDups := by
  induction fields using List.reverseRecOn with
  | nil => rfl
  | append_singleton fields field ih =>
    rw [List.map_append, List.map_singleton, Keyed.eraseDups_concat]
    simp only [ofFields_concat, names_put, ih, List.mem_eraseDups]

theorem field?_of_mem {c : Catalog} {f : FieldDescriptor} (hf : f ∈ c.fields) :
    c.field? f.name = some f := by
  obtain ⟨position, hposition⟩ := List.mem_iff_getElem?.1 hf
  have hindex : Keyed.get? c.index f.name = some position := by
    rw [c.linked, List.getElem?_map, hposition]
    rfl
  rw [field?, hindex, Option.bind_some, hposition]

end Catalog
end DocAnalytics
