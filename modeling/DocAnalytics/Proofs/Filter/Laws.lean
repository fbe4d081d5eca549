import DocAnalytics.Proofs.Filter.Meaning
import DocAnalytics.Proofs.Keyed.Order

/-!
# DocAnalytics.Proofs.Filter.Laws

Laws of filters that hold of any clauses, malformed ones included: on every document both sides of
a law have the same answer or the same error (`matchesFilter_laws`). The evaluations on both sides
look at the same clauses in the same order and end at the same one, so each law is an equation
between two evaluations and comes from one for a single clause by induction over the clauses.
-/

namespace DocAnalytics
namespace Filter

def combined (c : Combination) (clauses : List Json) : Json := .object [(c.key, .array clauses)]

def onField (field operator : String) (operand : Json) : Json :=
  .object [(field, .object [(operator, operand)])]

def part (member : String × Json) : Json := .object [member]

variable (d : Document)

/-! ## Filters with one member -/

theorem matchesFilter_member (key : String) (condition : Json) :
    matchesFilter d (.object [(key, condition)]) = memberHolds d key condition := by
  rw [matchesFilter, membersHold]
  cases memberHolds d key condition with
  | error e => rfl
  | ok b => cases b <;> simp only [membersHold]

theorem matchesFilter_all (clauses : List Json) :
    matchesFilter d (combined .all clauses) = allHold d clauses := by
  rw [combined, matchesFilter_member, memberHolds, Combination.ofKey?_eq_some_iff.2 rfl]

theorem matchesFilter_any (clauses : List Json) :
    matchesFilter d (combined .any clauses) = anyHolds d clauses := by
  rw [combined, matchesFilter_member, memberHolds, Combination.ofKey?_eq_some_iff.2 rfl]

theorem matchesFilter_noneOf (clauses : List Json) :
    matchesFilter d (combined .noneOf clauses) = negate (anyHolds d clauses) := by
  rw [combined, matchesFilter_member, memberHolds, Combination.ofKey?_eq_some_iff.2 rfl]

theorem memberHolds_field {field : String} (h : isReserved field = false) (condition : Json) :
    memberHolds d field condition = conditionHolds (d.at? field) condition := by
  rw [memberHolds_eq_fieldHolds d (not_mem_combinations (not_reserved h)), fieldHolds, h]
  rfl

/-- A filter with one operator on one field is evaluated as this operator, without options. -/
theorem matchesFilter_onField {field operator : String} (hfield : isReserved field = false)
    (hoperator : isReserved operator = true) (hne : operator ≠ "$options") (operand : Json) :
    matchesFilter d (onField field operator operand) =
      operatorHolds (d.at? field) none operator operand := by
  have hops : isOperators [(operator, operand)] = true := by simp [isOperators, hoperator]
  have hoptions : Document.get? [(operator, operand)] "$options" = none := by
    simp [Keyed.get?, List.lookup_cons, beq_false_of_ne hne.symm]
  rw [onField, matchesFilter_member, memberHolds_field d hfield, conditionHolds, if_pos hops,
    hoptions, operatorsHold]
  cases operatorHolds (d.at? field) none operator operand with
  | error e => rfl
  | ok b => cases b <;> rfl

/-! ## Negations -/

theorem negate_negate (r : Except FilterError Bool) : negate (negate r) = r := by
  cases r with
  | error e => rfl
  | ok b => simp only [negate, Bool.not_not]

theorem anyHolds_singleton (f : Json) : anyHolds d [f] = matchesFilter d f := by
  rw [anyHolds]
  cases matchesFilter d f with
  | error e => rfl
  | ok b => cases b <;> simp only [anyHolds]

theorem matchesFilter_not (f : Json) :
    matchesFilter d (combined .noneOf [f]) = negate (matchesFilter d f) := by
  rw [matchesFilter_noneOf, anyHolds_singleton]

theorem negate_anyHolds (clauses : List Json) :
    negate (anyHolds d clauses) = allHold d (clauses.map fun f => combined .noneOf [f]) := by
  induction clauses with
  | nil => rfl
  | cons f rest ih =>
    rw [List.map_cons, anyHolds, allHold, matchesFilter_not]
    cases matchesFilter d f with
    | error e => rfl
    | ok b =>
      cases b with
      -- the first clause that holds ends both evaluations, the right one as its negation fails
      | true => rfl
      | false => exact ih

/-! ## Fields and values -/

theorem anyHolds_map {α : Type} {f : α → Json} {test : α → Bool} {items : List α}
    (h : ∀ item ∈ items, matchesFilter d (f item) = .ok (test item)) :
    anyHolds d (items.map f) = .ok (items.any test) := by
  induction items with
  | nil => rfl
  | cons item items ih =>
    obtain ⟨hitem, hitems⟩ := List.forall_mem_cons.1 h
    rw [List.map_cons, anyHolds, hitem, List.any_cons, ih hitems]
    cases test item <;> rfl

theorem anyHolds_eq {field : String} (h : isReserved field = false) (values : List Json) :
    anyHolds d (values.map (onField field "$eq")) = fieldIn (d.at? field) (.array values) := by
  refine anyHolds_map d fun value _ => ?_
  rw [matchesFilter_onField d h rfl (by decide)]
  rfl

/-! ## Members -/

theorem membersHold_eq_allHold (members : List (String × Json)) :
    membersHold d members = allHold d (members.map part) := by
  induction members with
  | nil => rfl
  | cons member rest ih =>
    obtain ⟨key, condition⟩ := member
    rw [List.map_cons, membersHold, allHold, part, matchesFilter_member]
    cases memberHolds d key condition with
    | error e => rfl
    | ok b =>
      cases b with
      | true => exact ih
      | false => rfl

theorem matchesFilter_parts (members : List (String × Json)) :
    matchesFilter d (.object members) = matchesFilter d (combined .all (members.map part)) := by
  rw [matchesFilter_all, matchesFilter, membersHold_eq_allHold]

/-- The answers and the errors of filters on a document, whatever their clauses are. None of some
clauses is each of them negated, and negating twice is nothing. One of some values is any equality
with one of them, and none of them is none of these equalities. A filter is all of its parts; where
its members are written in another order, the parts come in the order of their keys. -/
theorem matchesFilter_laws :
    (∀ clauses, matchesFilter d (combined .noneOf clauses) =
      matchesFilter d (combined .all (clauses.map fun f => combined .noneOf [f]))) ∧
    (∀ f, matchesFilter d (combined .noneOf [combined .noneOf [f]]) = matchesFilter d f) ∧
    (∀ field values, isReserved field = false →
      matchesFilter d (onField field "$in" (.array values)) =
        matchesFilter d (combined .any (values.map (onField field "$eq"))) ∧
      matchesFilter d (onField field "$nin" (.array values)) =
        matchesFilter d (combined .noneOf (values.map (onField field "$eq")))) ∧
    (∀ members : Document, matchesFilter d (.object members) =
      matchesFilter d (combined .all (members.map part))) ∧
    ∀ written : List (String × Json), (Keyed.keys written).Nodup →
      matchesFilter d (Json.ofMembers written) =
        matchesFilter d (combined .all ((written.mergeSort Keyed.inOrder).map part)) := by
  refine ⟨fun clauses => ?_, fun f => ?_, fun field values hfield => ⟨?_, ?_⟩,
    matchesFilter_parts d, fun written hkeys => ?_⟩
  · rw [matchesFilter_noneOf, matchesFilter_all, negate_anyHolds]
  · rw [matchesFilter_not, matchesFilter_not, negate_negate]
  · rw [matchesFilter_onField d hfield rfl (by decide), matchesFilter_any, anyHolds_eq d hfield]
    rfl
  · rw [matchesFilter_onField d hfield rfl (by decide), matchesFilter_noneOf, anyHolds_eq d hfield]
    rfl
  · rw [Json.ofMembers, Document.ofList, Keyed.ofList_eq_mergeSort hkeys, matchesFilter_parts]

/-- Values of an array, and members written in descending order of which the second is at fault. -/
theorem matchesFilter_laws_tags :
    let d := Document.ofList [("tags", .array [.string "new", .string "sale"])]
    let values := [.null, .string "sale"]
    let near := Json.ofMembers [("$near", Json.ofInt 1)]
    let written := [("units", near), ("city", .null)]
    isReserved "tags" = false ∧ (Keyed.keys written).Nodup ∧
      matchesFilter d (combined .any (values.map (onField "tags" "$eq"))) = .ok true ∧
      matchesFilter d (combined .noneOf (values.map (onField "tags" "$eq"))) = .ok false ∧
      matchesFilter d (combined .all ((written.mergeSort Keyed.inOrder).map part)) =
        .error (.unsupportedOperator "$near") := by
  intro d values near written
  have hfield : isReserved "tags" = false := by decide
  have hkeys : (Keyed.keys written).Nodup := by decide
  obtain ⟨-, -, hvalues, -, hmembers⟩ := matchesFilter_laws d
  obtain ⟨hany, hnone⟩ := hvalues "tags" values hfield
  exact ⟨hfield, hkeys, hany.symm.trans (by decide +kernel), hnone.symm.trans (by decide +kernel),
    (hmembers written hkeys).symm.trans (by decide +kernel)⟩

end Filter
end DocAnalytics
