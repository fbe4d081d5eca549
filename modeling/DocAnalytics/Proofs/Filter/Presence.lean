import DocAnalytics.Pipeline.Run
import DocAnalytics.Pipeline.Wire
import DocAnalytics.Proofs.Filter.Partition

/-!
# DocAnalytics.Proofs.Filter.Presence

Tests of presence and the filters that stand for them in the aggregation syntax of document stores.
A test looks at the value of each field; its filter also looks into arrays, for a filter that
excludes a value excludes the arrays with that item. So they agree on a document unless all its
fields are present and one of them is an array with a blank in it (`presence_agrees_iff`).

* `blanks`: the values that count as nothing.
* `Present`: a field has a value that is no blank.
* `HoldsBlank`: a field is an array with a blank in it.
-/

namespace DocAnalytics

/-! ## Tables with one value -/

namespace Keyed

variable {α : Type} {value : α} {e : String × α}

/-- A value set in a table that has no other value for the key. -/
theorem mem_insert_iff {key : String} {m : List (String × α)}
    (h : ∀ e ∈ m, e.1 = key → e.2 = value) :
    e ∈ insert key value m ↔ e = (key, value) ∨ e ∈ m := by
  induction m with
  | nil => simp [insert]
  | cons first rest ih =>
    obtain ⟨k, v⟩ := first
    obtain ⟨hfirst, hrest⟩ := List.forall_mem_cons.1 h
    unfold insert
    split
    · rename_i hk
      subst hk
      cases hfirst rfl
      simp
    · split
      · simp
      · rw [List.mem_cons, ih hrest, List.mem_cons]
        exact or_left_comm

/-- The members of a table that gives some keys one value, which may be repeated. -/
theorem mem_ofList_const_iff {keys : List String} :
    e ∈ ofList (keys.map fun key => (key, value)) ↔ e.1 ∈ keys ∧ e.2 = value := by
  -- for the induction, the table begins with any members of that value
  have hfold : ∀ m : List (String × α), (∀ e ∈ m, e.2 = value) →
      (e ∈ (keys.map fun key => (key, value)).foldl (fun m member => insert member.1 member.2 m) m ↔
        e ∈ m ∨ e.1 ∈ keys ∧ e.2 = value) := by
    induction keys with
    | nil => simp
    | cons key keys ih =>
      intro m hm
      have hmem : ∀ e, e ∈ insert key value m ↔ e = (key, value) ∨ e ∈ m :=
        fun e => mem_insert_iff fun e he _ => hm e he
      have hnext : ∀ e ∈ insert key value m, e.2 = value := by
        intro e he
        rcases (hmem e).1 he with rfl | he
        · rfl
        · exact hm e he
      rw [List.map_cons, List.foldl_cons, ih _ hnext, hmem, Prod.ext_iff, List.mem_cons,
        or_and_right, or_assoc]
      exact or_left_comm
  rw [ofList, hfold [] (by simp)]
  simp

end Keyed

namespace Filter

/-- The values that count as nothing: null, and the empty text where that is rejected. -/
def blanks (rejectEmpty : Bool) : List Json :=
  if rejectEmpty then [.null, .string ""] else [.null]

def Present (rejectEmpty : Bool) (actual : Option Json) : Prop :=
  ∃ value, actual = some value ∧ value ∉ blanks rejectEmpty

/-- A field is an array with a blank in it. -/
def HoldsBlank (rejectEmpty : Bool) (actual : Option Json) : Prop :=
  ∃ items, actual = some (.array items) ∧ ∃ blank ∈ blanks rejectEmpty, blank ∈ items

variable {rejectEmpty : Bool} {actual : Option Json}

/-! ## The test -/

theorem fieldPresent_iff {d : Document} {field : String} :
    Predicate.fieldPresent d rejectEmpty field = true ↔ Present rejectEmpty (d.at? field) := by
  unfold Predicate.fieldPresent Present
  cases d.at? field with
  | none => simp [Document.isPresent]
  | some v => cases v <;> cases rejectEmpty <;> simp [Document.isPresent, Json.isNull, blanks]

theorem passes_present (d : Document) (fields : List String) (rejectEmpty : Bool) :
    ∃ kept, (Predicate.present fields rejectEmpty).passes d = .ok kept ∧
      (kept = true ↔ ∀ field ∈ fields, Present rejectEmpty (d.at? field)) :=
  ⟨_, rfl, by simp [fieldPresent_iff]⟩

/-! ## The condition -/

theorem null_or_empty {blank : Json} (h : blank ∈ blanks rejectEmpty) :
    blank = .null ∨ blank = .string "" := by
  cases rejectEmpty <;> simp_all [blanks]

/-- Nothing else is equal to a blank. -/
theorem equal_blank_iff {blank value : Json} (h : blank ∈ blanks rejectEmpty) :
    value.equal blank = true ↔ value = blank := by
  rcases null_or_empty h with rfl | rfl <;> cases value <;> simp [Json.equal, Json.same]

theorem isArray_blank {blank : Json} (h : blank ∈ blanks rejectEmpty) : blank.isArray = false := by
  rcases null_or_empty h with rfl | rfl <;> rfl

/-- A value is equal to a blank if it is one or has it as an item. -/
theorem equalTo_blank_iff {blank value : Json} (h : blank ∈ blanks rejectEmpty) :
    EqualTo blank (some value) ↔ value = blank ∨ ∃ items, value = .array items ∧ blank ∈ items := by
  constructor
  · intro hequal
    cases hequal with
    | same hsame => exact .inl ((equal_blank_iff h).1 hsame)
    | item _ hi hsame =>
      rw [(equal_blank_iff h).1 hsame] at hi
      exact .inr ⟨_, rfl, hi⟩
  · rintro (rfl | ⟨items, rfl, hmem⟩)
    · exact .same ((equal_blank_iff h).2 rfl)
    · exact .item (isArray_blank h) hmem ((equal_blank_iff h).2 rfl)

theorem not_oneOf_blanks_iff {value : Json} :
    ¬ OneOf (blanks rejectEmpty) (some value) ↔
      value ∉ blanks rejectEmpty ∧ ¬ HoldsBlank rejectEmpty (some value) := by
  rw [← not_or]
  refine not_congr ⟨?_, ?_⟩
  · rintro ⟨blank, hblank, hequal⟩
    rcases (equalTo_blank_iff hblank).1 hequal with rfl | ⟨items, rfl, hmem⟩
    · exact .inl hblank
    · exact .inr ⟨items, rfl, blank, hblank, hmem⟩
  · rintro (hvalue | ⟨items, hitems, blank, hblank, hmem⟩)
    · exact ⟨value, hvalue, (equalTo_blank_iff hvalue).2 (.inl rfl)⟩
    · cases hitems
      exact ⟨blank, hblank, (equalTo_blank_iff hblank).2 (.inr ⟨items, rfl, hmem⟩)⟩

/-- The members of the condition in their order; the operator that excludes depends on how many
blanks there are. -/
theorem presence_eq : Wire.presence rejectEmpty =
    .object [("$exists", .bool true),
      if rejectEmpty then ("$nin", .array (blanks true)) else ("$ne", .null)] := by
  cases rejectEmpty <;> rfl

theorem wellFormedCondition_presence : WellFormedCondition (Wire.presence rejectEmpty) := by
  rw [presence_eq]
  refine wellFormedCondition_operators (List.forall_mem_cons.2 ⟨⟨true, rfl⟩, ?_⟩)
  rw [List.forall_mem_singleton]
  cases rejectEmpty with
  | false => trivial
  | true => exact ⟨blanks true, rfl⟩

theorem conditionMeans_presence_iff : ConditionMeans actual (Wire.presence rejectEmpty) ↔
    actual.isSome = true ∧ ¬ OneOf (blanks rejectEmpty) actual := by
  have hops : ∀ operand, Operators [("$exists", .bool true), operand] ↔ Reserved operand.1 := by
    intro operand
    have hexists : Reserved "$exists" := by decide
    simp [Operators, hexists]
  rw [presence_eq]
  cases rejectEmpty with
  | false =>
    rw [if_neg Bool.false_ne_true, conditionMeans_operators ((hops _).2 (by decide))]
    simp [OperatorMeans, OneOf, blanks]
  | true =>
    rw [if_pos rfl, conditionMeans_operators ((hops _).2 (by decide))]
    simp [OperatorMeans]

theorem conditionMeans_presence : ConditionMeans actual (Wire.presence rejectEmpty) ↔
    Present rejectEmpty actual ∧ ¬ HoldsBlank rejectEmpty actual := by
  rw [conditionMeans_presence_iff]
  cases actual with
  | none => simp [Present]
  | some value =>
    rw [not_oneOf_blanks_iff]
    simp [Present]

/-! ## The filter -/

variable {fields : List String}

theorem mem_members_iff {m : String × Json} :
    m ∈ Document.ofList (fields.map fun field => (field, Wire.presence rejectEmpty)) ↔
      m.1 ∈ fields ∧ m.2 = Wire.presence rejectEmpty :=
  Keyed.mem_ofList_const_iff

theorem wellFormed_present (h : ∀ field ∈ fields, isReserved field = false) :
    WellFormed (Wire.predicate (.present fields rejectEmpty)) := by
  rw [Wire.predicate, Json.ofMembers]
  refine .object fun m hm => ?_
  obtain ⟨hfield, hcondition⟩ := mem_members_iff.1 hm
  rw [hcondition]
  exact .field (not_reserved (h m.1 hfield)) wellFormedCondition_presence

theorem means_present_iff (d : Document) (h : ∀ field ∈ fields, isReserved field = false) :
    Means d (Wire.predicate (.present fields rejectEmpty)) ↔
      ∀ field ∈ fields, Present rejectEmpty (d.at? field) ∧
        ¬ HoldsBlank rejectEmpty (d.at? field) := by
  have hmember : ∀ field ∈ fields, MemberMeans d field (Wire.presence rejectEmpty) ↔
      Present rejectEmpty (d.at? field) ∧ ¬ HoldsBlank rejectEmpty (d.at? field) := by
    intro field hfield
    rw [memberMeans_field d (not_mem_combinations (not_reserved (h field hfield))),
      conditionMeans_presence]
  rw [Wire.predicate, Json.ofMembers, Means]
  constructor
  · intro hmeans field hfield
    exact (hmember field hfield).1 (hmeans (field, _) (mem_members_iff.2 ⟨hfield, rfl⟩))
  · rintro hfields ⟨field, condition⟩ hm
    obtain ⟨hfield, rfl⟩ := mem_members_iff.1 hm
    exact (hmember field hfield).2 (hfields field hfield)

/-- A test of presence and the filter written for it answer for every document. They differ exactly
where the test is passed with an array that holds a blank, which the filter excludes. -/
theorem presence_agrees_iff (d : Document) (fields : List String) (rejectEmpty : Bool)
    (h : ∀ field ∈ fields, isReserved field = false) :
    ∃ f kept selected,
      Wire.stage (.select (.present fields rejectEmpty)) = Wire.single "$match" f ∧
      (Predicate.present fields rejectEmpty).passes d = .ok kept ∧
      matchesFilter d f = .ok selected ∧
      (kept = true ↔ ∀ field ∈ fields, Present rejectEmpty (d.at? field)) ∧
      (selected = true ↔
        kept = true ∧ ∀ field ∈ fields, ¬ HoldsBlank rejectEmpty (d.at? field)) ∧
      (kept = selected ↔
        kept = false ∨ ∀ field ∈ fields, ¬ HoldsBlank rejectEmpty (d.at? field)) := by
  obtain ⟨kept, hpasses, hkept⟩ := passes_present d fields rejectEmpty
  obtain ⟨selected, hmatches, hselected⟩ :=
    matchesFilter_answers d (Wire.predicate (.present fields rejectEmpty)) (wellFormed_present h)
  have hboth : selected = true ↔
      kept = true ∧ ∀ field ∈ fields, ¬ HoldsBlank rejectEmpty (d.at? field) := by
    rw [hselected, means_present_iff d h, hkept]
    simp only [forall_and]
  refine ⟨_, kept, selected, rfl, hpasses, hmatches, hkept, hboth, ?_⟩
  rw [Bool.eq_iff_iff, hboth]
  -- what the filter selects is kept, so they can differ on documents that are kept only
  cases kept <;> simp

/-- A text and a list of texts are no blanks and hold none. -/
theorem presence_agrees_shop :
    let d := Document.ofList [("name", .string "Kahvi"), ("tags", .array [.string "open"])]
    let fields := ["name", "tags"]
    (∀ field ∈ fields, isReserved field = false) ∧
      ∃ f, Wire.stage (.select (.present fields true)) = Wire.single "$match" f ∧
        (Predicate.present fields true).passes d = .ok true ∧ matchesFilter d f = .ok true := by
  intro d fields
  have hfields : ∀ field ∈ fields, isReserved field = false := by decide
  refine ⟨hfields, ?_⟩
  obtain ⟨f, kept, selected, hwire, hpasses, hmatches, -, -, hagree⟩ :=
    presence_agrees_iff d fields true hfields
  have hname : d.at? "name" = some (.string "Kahvi") := by rfl
  have htags : d.at? "tags" = some (.array [.string "open"]) := by rfl
  have hsame : kept = selected :=
    hagree.2 (.inr (by simp [fields, hname, htags, HoldsBlank, blanks]))
  have hpassed : (Predicate.present fields true).passes d = .ok true := by rfl
  have hkept : kept = true := Except.ok.inj (hpasses.symm.trans hpassed)
  rw [← hsame, hkept] at hmatches
  exact ⟨f, hwire, hpassed, hmatches⟩

/-- An array of nothing but null is a value to the test and a blank to the filter. -/
theorem present_array_of_null_excluded :
    let p := Predicate.present ["a"] false
    let d := Document.ofList [("a", .array [.null])]
    (∀ field ∈ ["a"], isReserved field = false) ∧ p.passes d = .ok true ∧
      Wire.stage (.select p) = Wire.single "$match" (Wire.predicate p) ∧
      matchesFilter d (Wire.predicate p) = .ok false :=
  ⟨by decide, by rfl, by rfl, by rfl⟩

end Filter
end DocAnalytics
