import DocAnalytics.Filter.Matching

/-!
# DocAnalytics.Proofs.Filter.Meaning

What filters mean, apart from the order in which they are evaluated. Meanings go by the keys as they
are written; that the tables of operators and combinations read these keys so is proved
(`Operator.ofKey?_eq_some_iff`, `Combination.ofKey?_eq_some_iff`).

* `EqualTo`, `OperatorMeans`, `ConditionMeans`: when conditions hold of a field.
* `WellFormed` and `Means`: filters without faults, and the documents that satisfy them, by
  recursion over the clauses of combinations.
* `Answers`: an evaluation gives the truth value of a proposition, and no error. The evaluation of
  an operator does that where it takes the operand (`operatorHolds_answers`).
-/

namespace DocAnalytics
namespace Filter

/-! ## The meaning of conditions -/

inductive EqualTo (expected : Json) : Option Json → Prop
  /-- A missing field is equal to null. -/
  | missing : expected = .null → EqualTo expected none
  | same {value : Json} : value.equal expected = true → EqualTo expected (some value)
  /-- An array is equal to anything but an array if one of its items is. -/
  | item {items : List Json} {i : Json} : expected.isArray = false → i ∈ items →
      i.equal expected = true → EqualTo expected (some (.array items))

/-- Two numbers, two texts, or two booleans. -/
inductive SameKind : Json → Json → Prop
  | numbers (m n : Json.Number) : SameKind (.number m) (.number n)
  | texts (s t : String) : SameKind (.string s) (.string t)
  | booleans (a b : Bool) : SameKind (.bool a) (.bool b)

/-- When a field stands to an operand in one of some orders. -/
def InOrder (orders : List Ordering) (operand : Json) (actual : Option Json) : Prop :=
  ∃ value, actual = some value ∧ SameKind value operand ∧ value.compare operand ∈ orders

def OneOf (candidates : List Json) (actual : Option Json) : Prop :=
  ∃ candidate ∈ candidates, EqualTo candidate actual

/-- The text that is read for a pattern; the letter `i` among the options sets letter case aside. -/
def patternText (options : Option Json) (pattern : String) : String :=
  match options with
  | some (.string s) => if 'i' ∈ s.toList then "(?i)" ++ pattern else pattern
  | _ => pattern

def Matches (options : Option Json) (pattern : String) (actual : Option Json) : Prop :=
  ∃ s p, actual = some (.string s) ∧ Regex.Pattern.ofText? (patternText options pattern) = some p ∧
    p.matchesIn s = true

def OperatorMeans (options actual : Option Json) (key : String) (operand : Json) : Prop :=
  match key with
  | "$eq" => EqualTo operand actual
  | "$ne" => ¬ EqualTo operand actual
  | "$gt" => InOrder [.gt] operand actual
  | "$gte" => InOrder [.gt, .eq] operand actual
  | "$lt" => InOrder [.lt] operand actual
  | "$lte" => InOrder [.lt, .eq] operand actual
  | "$in" => ∃ candidates, operand = .array candidates ∧ OneOf candidates actual
  | "$nin" => ∃ candidates, operand = .array candidates ∧ ¬ OneOf candidates actual
  | "$exists" => operand = .bool actual.isSome
  | "$regex" => ∃ pattern, operand = .string pattern ∧ Matches options pattern actual
  | "$options" => True
  | _ => False

/-- Operators, and the operands that they take. -/
def Takes (options : Option Json) (key : String) (operand : Json) : Prop :=
  match key with
  | "$eq" | "$ne" | "$gt" | "$gte" | "$lt" | "$lte" | "$options" => True
  | "$in" | "$nin" => ∃ candidates, operand = .array candidates
  | "$exists" => ∃ wanted, operand = .bool wanted
  | "$regex" => ∃ pattern, operand = .string pattern ∧
    (Regex.Pattern.ofText? (patternText options pattern)).isSome = true
  | _ => False

/-- A key begins with a dollar sign. -/
def Reserved (key : String) : Prop := key.toList.head? = some '$'

instance : DecidablePred Reserved := fun key =>
  inferInstanceAs (Decidable (key.toList.head? = some '$'))

/-- An object of operators: it has keys, and all are reserved. -/
def Operators (members : List (String × Json)) : Prop :=
  members ≠ [] ∧ ∀ m ∈ members, Reserved m.1

/-- When a condition holds of a field: all its operators do, or the field is equal to it. -/
inductive ConditionMeans (actual : Option Json) : Json → Prop
  | operators {members : List (String × Json)} : Operators members →
      (∀ m ∈ members, OperatorMeans (Document.get? members "$options") actual m.1 m.2) →
      ConditionMeans actual (.object members)
  | literal {expected : Json} : (∀ members, expected = .object members → ¬ Operators members) →
      EqualTo expected actual → ConditionMeans actual expected

/-- Conditions without faults: operators exist and take their operands. -/
def WellFormedCondition (condition : Json) : Prop :=
  ∀ members, condition = .object members → Operators members →
    ∀ m ∈ members, Takes (Document.get? members "$options") m.1 m.2

/-! ## The meaning of filters -/

theorem sizeOf_value_lt {members : List (String × Json)} {m : String × Json} (h : m ∈ members) :
    sizeOf m.2 < sizeOf (Json.object members) := by
  have hmem := List.sizeOf_lt_of_mem h
  have hpair : sizeOf m = 1 + sizeOf m.1 + sizeOf m.2 := by cases m; rfl
  rw [Json.object.sizeOf_spec]
  omega

theorem sizeOf_clause_lt {clauses : List Json} {f : Json} (h : f ∈ clauses) :
    sizeOf f < sizeOf (Json.array clauses) := by
  have hmem := List.sizeOf_lt_of_mem h
  rw [Json.array.sizeOf_spec]
  omega

/-- The keys of combinations. -/
def combinations : List String := ["$and", "$or", "$nor"]

mutual

inductive WellFormed : Json → Prop
  | object {members : List (String × Json)} :
      (∀ m ∈ members, WellFormedMember m.1 m.2) → WellFormed (.object members)

inductive WellFormedMember : String → Json → Prop
  | combination {key : String} {clauses : List Json} : key ∈ combinations →
      (∀ f ∈ clauses, WellFormed f) → WellFormedMember key (.array clauses)
  | field {key : String} {condition : Json} : ¬ Reserved key →
      WellFormedCondition condition → WellFormedMember key condition

end

mutual

def Means (d : Document) : Json → Prop
  | .object members => ∀ m (_ : m ∈ members), MemberMeans d m.1 m.2
  | _ => False
termination_by f => sizeOf f
decreasing_by exact sizeOf_value_lt ‹_›

def MemberMeans (d : Document) (key : String) (condition : Json) : Prop :=
  match key, condition with
  | "$and", .array clauses => ∀ f (_ : f ∈ clauses), Means d f
  | "$or", .array clauses => ∃ f, ∃ _ : f ∈ clauses, Means d f
  | "$nor", .array clauses => ¬ ∃ f, ∃ _ : f ∈ clauses, Means d f
  | key, condition => key ∉ combinations ∧ ConditionMeans (d.at? key) condition
termination_by sizeOf condition
decreasing_by all_goals exact sizeOf_clause_lt ‹_›

end

/-! ## Keys -/

def Operator.key : Operator → String
  | .eq => "$eq"
  | .ne => "$ne"
  | .gt => "$gt"
  | .gte => "$gte"
  | .lt => "$lt"
  | .lte => "$lte"
  | .isIn => "$in"
  | .notIn => "$nin"
  | .exist => "$exists"
  | .regex => "$regex"
  | .options => "$options"

theorem Operator.ofKey?_eq_some_iff {key : String} {op : Operator} :
    ofKey? key = some op ↔ key = op.key := by
  constructor
  · intro h
    unfold ofKey? at h
    split at h <;> cases h <;> rfl
  · rintro rfl
    cases op <;> rfl

theorem exists_operator_of_takes {options : Option Json} {key : String} {operand : Json}
    (h : Takes options key operand) : ∃ op : Operator, key = op.key := by
  unfold Takes at h
  split at h
  · exact ⟨.eq, rfl⟩
  · exact ⟨.ne, rfl⟩
  · exact ⟨.gt, rfl⟩
  · exact ⟨.gte, rfl⟩
  · exact ⟨.lt, rfl⟩
  · exact ⟨.lte, rfl⟩
  · exact ⟨.options, rfl⟩
  · exact ⟨.isIn, rfl⟩
  · exact ⟨.notIn, rfl⟩
  · exact ⟨.exist, rfl⟩
  · exact ⟨.regex, rfl⟩
  · exact h.elim

def Combination.key : Combination → String
  | .all => "$and"
  | .any => "$or"
  | .noneOf => "$nor"

theorem Combination.ofKey?_eq_some_iff {key : String} {c : Combination} :
    ofKey? key = some c ↔ key = c.key := by
  constructor
  · intro h
    unfold ofKey? at h
    split at h <;> cases h <;> rfl
  · rintro rfl
    cases c <;> rfl

theorem mem_combinations_iff {key : String} :
    key ∈ combinations ↔ ∃ c, Combination.ofKey? key = some c := by
  constructor
  · intro h
    simp only [combinations, List.mem_cons, List.not_mem_nil, or_false] at h
    rcases h with rfl | rfl | rfl
    · exact ⟨.all, rfl⟩
    · exact ⟨.any, rfl⟩
    · exact ⟨.noneOf, rfl⟩
  · rintro ⟨c, hc⟩
    rw [Combination.ofKey?_eq_some_iff.1 hc]
    cases c <;> simp [Combination.key, combinations]

theorem ofKey?_eq_none_iff {key : String} :
    Combination.ofKey? key = none ↔ key ∉ combinations := by
  rw [mem_combinations_iff, Option.eq_none_iff_forall_ne_some, not_exists]

theorem isReserved_iff {key : String} : isReserved key = true ↔ Reserved key := by
  unfold isReserved Reserved
  split
  · rename_i rest hkey
    simp [hkey]
  · rename_i hkey
    cases hchars : key.toList with
    | nil => simp
    | cons c rest =>
      have hne : c ≠ '$' := by
        rintro rfl
        exact hkey rest hchars
      simp [hne]

theorem not_reserved {key : String} (h : isReserved key = false) : ¬ Reserved key := by
  rw [← isReserved_iff, h]
  exact Bool.false_ne_true

theorem isOperators_iff {members : Document} : isOperators members = true ↔ Operators members := by
  simp [isOperators, Operators, isReserved_iff]

theorem reserved_of_mem_combinations {key : String} (h : key ∈ combinations) : Reserved key := by
  simp only [combinations, List.mem_cons, List.not_mem_nil, or_false] at h
  rcases h with rfl | rfl | rfl <;> rfl

theorem not_mem_combinations {key : String} (h : ¬ Reserved key) : key ∉ combinations :=
  fun hkey => h (reserved_of_mem_combinations hkey)

/-! ## Answers -/

/-- An evaluation raises no error, and its answer says whether something holds. -/
def Answers (r : Except FilterError Bool) (P : Prop) : Prop := ∃ b, r = .ok b ∧ (b = true ↔ P)

theorem Answers.of_iff {b : Bool} {P : Prop} (h : b = true ↔ P) : Answers (.ok b) P := ⟨b, rfl, h⟩

theorem Answers.negate {r : Except FilterError Bool} {P : Prop} (h : Answers r P) :
    Answers (negate r) (¬ P) := by
  obtain ⟨b, rfl, hb⟩ := h
  refine ⟨!b, rfl, ?_⟩
  rw [Bool.not_eq_true', ← hb, Bool.not_eq_true]

theorem Answers.congr {r : Except FilterError Bool} {P Q : Prop} (h : Answers r P) (hPQ : P ↔ Q) :
    Answers r Q := by
  obtain ⟨b, hr, hb⟩ := h
  exact ⟨b, hr, hb.trans hPQ⟩

/-! ## Evaluating operators -/

theorem isNull_iff {v : Json} : v.isNull = true ↔ v = .null := by
  cases v <;> simp [Json.isNull]

theorem equal_array_of_not_array {items : List Json} {expected : Json}
    (h : expected.isArray = false) : Json.equal (.array items) expected = false := by
  cases expected with
  | array _ => cases h
  | _ => rfl

theorem fieldEquals_iff {expected : Json} {actual : Option Json} :
    fieldEquals expected actual = true ↔ EqualTo expected actual := by
  constructor
  · intro h
    cases actual with
    | none => exact .missing (isNull_iff.1 h)
    | some value =>
      cases value with
      | array items =>
        cases harr : expected.isArray with
        | true =>
          simp only [fieldEquals, harr, if_true] at h
          exact .same h
        | false =>
          simp only [fieldEquals, harr, Bool.false_eq_true, if_false] at h
          obtain ⟨i, hi, hequal⟩ := List.any_eq_true.1 h
          exact .item harr hi hequal
      | _ => exact .same h
  · intro h
    cases h with
    | missing hnull => exact isNull_iff.2 hnull
    | @same value hequal =>
      cases value with
      | array items =>
        cases harr : expected.isArray with
        | true =>
          simp only [fieldEquals, harr, if_true]
          exact hequal
        | false =>
          rw [equal_array_of_not_array harr] at hequal
          cases hequal
      | _ => exact hequal
    | item harr hi hequal =>
      simp only [fieldEquals, harr, Bool.false_eq_true, if_false]
      exact List.any_eq_true.2 ⟨_, hi, hequal⟩

theorem comparable_iff {v w : Json} : comparable v w = true ↔ SameKind v w := by
  constructor
  · intro h
    cases v <;> cases w <;> first | constructor | cases h
  · intro h
    cases h <;> rfl

theorem fieldCompares_iff {accept : Ordering → Bool} {orders : List Ordering}
    (haccept : ∀ o, accept o = true ↔ o ∈ orders) {operand : Json} {actual : Option Json} :
    fieldCompares accept operand actual = true ↔ InOrder orders operand actual := by
  cases actual with
  | none => simp [fieldCompares, InOrder]
  | some value =>
    rw [fieldCompares, Bool.and_eq_true, comparable_iff, haccept]
    constructor
    · rintro ⟨hkind, horder⟩
      exact ⟨value, rfl, hkind, horder⟩
    · rintro ⟨other, hvalue, hkind, horder⟩
      cases hvalue
      exact ⟨hkind, horder⟩

theorem fieldIn_answers (candidates : List Json) (actual : Option Json) :
    Answers (fieldIn actual (.array candidates)) (OneOf candidates actual) := by
  refine .of_iff (List.any_eq_true.trans ?_)
  constructor
  · rintro ⟨candidate, hmem, hequal⟩
    exact ⟨candidate, hmem, fieldEquals_iff.1 hequal⟩
  · rintro ⟨candidate, hmem, hequal⟩
    exact ⟨candidate, hmem, fieldEquals_iff.2 hequal⟩

theorem patternText_eq (options : Option Json) (pattern : String) : patternText options pattern =
    if ignoresCase options = true then "(?i)" ++ pattern else pattern := by
  cases options with
  | none => rfl
  | some value =>
    cases value with
    | string s => simp [patternText, ignoresCase]
    | _ => rfl

theorem fieldMatches_answers {options : Option Json} {pattern : String}
    (h : (Regex.Pattern.ofText? (patternText options pattern)).isSome = true)
    (actual : Option Json) :
    Answers (fieldMatches actual options (.string pattern)) (Matches options pattern actual) := by
  obtain ⟨p, hp⟩ := Option.isSome_iff_exists.1 h
  rw [fieldMatches, ← patternText_eq, hp]
  cases actual with
  | none => exact .of_iff (by simp [Matches])
  | some value =>
    cases value with
    | string s => exact .of_iff (by simp [Matches, hp])
    | _ => exact .of_iff (by simp [Matches])

theorem operatorHolds_answers {options : Option Json} {key : String} {operand : Json}
    (h : Takes options key operand) (actual : Option Json) :
    Answers (operatorHolds actual options key operand)
      (OperatorMeans options actual key operand) := by
  obtain ⟨op, rfl⟩ := exists_operator_of_takes h
  unfold operatorHolds
  rw [Operator.ofKey?_eq_some_iff.2 rfl]
  cases op with
  | eq => exact .of_iff fieldEquals_iff
  | ne =>
    refine .of_iff ?_
    rw [Bool.not_eq_true', ← Bool.not_eq_true, fieldEquals_iff]
    rfl
  | gt => exact .of_iff (fieldCompares_iff fun o => by cases o <;> decide)
  | gte => exact .of_iff (fieldCompares_iff fun o => by cases o <;> decide)
  | lt => exact .of_iff (fieldCompares_iff fun o => by cases o <;> decide)
  | lte => exact .of_iff (fieldCompares_iff fun o => by cases o <;> decide)
  | isIn =>
    obtain ⟨candidates, rfl⟩ := h
    exact (fieldIn_answers candidates actual).congr (by simp [OperatorMeans, Operator.key])
  | notIn =>
    obtain ⟨candidates, rfl⟩ := h
    exact (fieldIn_answers candidates actual).negate.congr (by simp [OperatorMeans, Operator.key])
  | exist =>
    obtain ⟨wanted, rfl⟩ := h
    refine .of_iff ?_
    rw [beq_iff_eq, eq_comm]
    simp [OperatorMeans, Operator.key]
  | regex =>
    obtain ⟨pattern, rfl, hcompiles⟩ := h
    exact (fieldMatches_answers hcompiles actual).congr (by simp [OperatorMeans, Operator.key])
  | options => exact .of_iff (by simp [OperatorMeans, Operator.key])

/-! ## Members of filters -/

theorem wellFormedCondition_operators {members : List (String × Json)}
    (h : ∀ m ∈ members, Takes (Document.get? members "$options") m.1 m.2) :
    WellFormedCondition (.object members) := by
  rintro _ ⟨⟩ _
  exact h

/-- Under a key that is no combination stands a condition on a field. -/
theorem memberHolds_eq_fieldHolds (d : Document) {key : String} (hkey : key ∉ combinations)
    (condition : Json) : memberHolds d key condition = fieldHolds d key condition := by
  cases condition <;> simp only [memberHolds, ofKey?_eq_none_iff.2 hkey]

theorem memberMeans_field (d : Document) {key : String} (hkey : key ∉ combinations)
    (condition : Json) : MemberMeans d key condition ↔ ConditionMeans (d.at? key) condition := by
  unfold MemberMeans
  split
  · exact absurd (by simp [combinations]) hkey
  · exact absurd (by simp [combinations]) hkey
  · exact absurd (by simp [combinations]) hkey
  · exact and_iff_right hkey

theorem memberMeans_all (d : Document) (clauses : List Json) :
    MemberMeans d "$and" (.array clauses) ↔ ∀ f ∈ clauses, Means d f := by
  rw [MemberMeans]

theorem memberMeans_any (d : Document) (clauses : List Json) :
    MemberMeans d "$or" (.array clauses) ↔ ∃ f ∈ clauses, Means d f := by
  rw [MemberMeans]
  simp only [exists_prop]

theorem memberMeans_noneOf (d : Document) (clauses : List Json) :
    MemberMeans d "$nor" (.array clauses) ↔ ¬ ∃ f ∈ clauses, Means d f := by
  rw [MemberMeans]
  simp only [exists_prop]

end Filter
end DocAnalytics
