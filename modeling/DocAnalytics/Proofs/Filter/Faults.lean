import DocAnalytics.Proofs.Filter.Meaning

/-!
# DocAnalytics.Proofs.Filter.Faults

Which faults of a filter are found. A filter is evaluated in the order of its keys, clauses and
operators until its answer is settled, so a fault is found on those documents only for which the
parts in front of it leave the answer open (`matchesFilter_error_iff`). On other documents the
filter has an answer, and that answer is its meaning.

* `Reached`: an item of a list that is at fault, with the items before it leaving the answer open.
* `Faulty`: the evaluation of a filter on a document comes upon a fault, by rules for the filter and
  for one member of it.
* `Decides`: an evaluation is in error if it comes upon a fault, and tells a truth value otherwise.
  The evaluations of operators, conditions and filters decide so (`matchesFilter_decides`), by
  recursion over the filter.
-/

namespace DocAnalytics
namespace Filter

/-! ## Faults that are reached -/

/-- An item at fault is reached: all items before it leave the answer open. -/
def Reached {α : Type} (leavesOpen fault : α → Prop) (items : List α) : Prop :=
  ∃ before item after, items = before ++ item :: after ∧ (∀ b ∈ before, leavesOpen b) ∧ fault item

/-- The evaluation of a condition on a field comes upon a fault, an operator that does not exist or
does not take its operand; the operators before it hold. -/
def FaultyCondition (actual : Option Json) (condition : Json) : Prop :=
  ∃ members, condition = .object members ∧ Operators members ∧
    Reached (fun m => OperatorMeans (Document.get? members "$options") actual m.1 m.2)
      (fun m => ¬ Takes (Document.get? members "$options") m.1 m.2) members

mutual

inductive Faulty (d : Document) : Json → Prop
  | notAnObject {f : Json} : (∀ members, f ≠ .object members) → Faulty d f
  /-- All members before the one at fault hold. -/
  | member {before after : List (String × Json)} {key : String} {condition : Json} :
      (∀ m ∈ before, MemberMeans d m.1 m.2) → FaultyMember d key condition →
      Faulty d (.object (before ++ (key, condition) :: after))

/-- The evaluation of a member of a filter comes upon a fault. -/
inductive FaultyMember (d : Document) : String → Json → Prop
  | noClauses {key : String} {condition : Json} : key ∈ combinations →
      (∀ clauses, condition ≠ .array clauses) → FaultyMember d key condition
  /-- The clauses before the one at fault hold if all have to, and do not if some or none has to. -/
  | clause {key : String} {before after : List Json} {f : Json} : key ∈ combinations →
      (∀ g ∈ before, Means d g ↔ key = "$and") → Faulty d f →
      FaultyMember d key (.array (before ++ f :: after))
  | reserved {key : String} {condition : Json} : key ∉ combinations → Reserved key →
      FaultyMember d key condition
  | condition {key : String} {condition : Json} : key ∉ combinations →
      FaultyCondition (d.at? key) condition → FaultyMember d key condition

end

theorem reached_nil {α : Type} {leavesOpen fault : α → Prop} :
    ¬ Reached leavesOpen fault [] := by
  rintro ⟨before, item, after, h, _⟩
  cases before <;> cases h

theorem reached_cons {α : Type} {leavesOpen fault : α → Prop} {first : α} {items : List α} :
    Reached leavesOpen fault (first :: items) ↔
      fault first ∨ leavesOpen first ∧ Reached leavesOpen fault items := by
  constructor
  · rintro ⟨before, item, after, h, hbefore, hitem⟩
    cases before with
    | nil =>
      cases h
      exact .inl hitem
    | cons b before =>
      cases h
      obtain ⟨hfirst, hbefore⟩ := List.forall_mem_cons.1 hbefore
      exact .inr ⟨hfirst, before, item, after, rfl, hbefore, hitem⟩
  · rintro (hfirst | ⟨hopen, before, item, after, rfl, hbefore, hitem⟩)
    · exact ⟨[], first, items, rfl, by simp, hfirst⟩
    · exact ⟨first :: before, item, after, rfl, List.forall_mem_cons.2 ⟨hopen, hbefore⟩, hitem⟩

theorem faulty_object_iff {d : Document} {members : List (String × Json)} :
    Faulty d (.object members) ↔
      Reached (fun m => MemberMeans d m.1 m.2) (fun m => FaultyMember d m.1 m.2) members := by
  constructor
  · intro h
    cases h with
    | notAnObject hnot => exact absurd rfl (hnot members)
    | member hbefore hmember => exact ⟨_, _, _, rfl, hbefore, hmember⟩
  · rintro ⟨before, m, after, rfl, hbefore, hm⟩
    exact .member hbefore hm

theorem faultyMember_array_iff {d : Document} {key : String} (hkey : key ∈ combinations)
    {clauses : List Json} :
    FaultyMember d key (.array clauses) ↔
      Reached (fun g => Means d g ↔ key = "$and") (Faulty d) clauses := by
  constructor
  · intro h
    cases h with
    | noClauses _ hnot => exact absurd rfl (hnot clauses)
    | clause _ hbefore hf => exact ⟨_, _, _, rfl, hbefore, hf⟩
    | reserved hother => exact absurd hkey hother
    | condition hother => exact absurd hkey hother
  · rintro ⟨before, f, after, rfl, hbefore, hf⟩
    exact .clause hkey hbefore hf

theorem faultyMember_field_iff {d : Document} {key : String} (hkey : key ∉ combinations)
    {condition : Json} :
    FaultyMember d key condition ↔ Reserved key ∨ FaultyCondition (d.at? key) condition := by
  constructor
  · intro h
    cases h with
    | noClauses hother => exact absurd hother hkey
    | clause hother => exact absurd hother hkey
    | reserved _ hreserved => exact .inl hreserved
    | condition _ hcondition => exact .inr hcondition
  · rintro (hreserved | hcondition)
    · exact .reserved hkey hreserved
    · exact .condition hkey hcondition

/-! ## Evaluations that decide -/

/-- An evaluation is in error if it comes upon a fault; otherwise its answer says whether something
holds. -/
def Decides (r : Except FilterError Bool) (fault holds : Prop) : Prop :=
  match r with
  | .error _ => fault
  | .ok b => ¬ fault ∧ (b = true ↔ holds)

namespace Decides

variable {r s : Except FilterError Bool} {fault holds fault' holds' : Prop}

theorem congr (h : Decides r fault holds) (hfault : fault ↔ fault') (hholds : holds ↔ holds') :
    Decides r fault' holds' := by
  rwa [propext hfault, propext hholds] at h

theorem of_answers (h : Answers r holds) (hfault : ¬ fault) : Decides r fault holds := by
  obtain ⟨b, rfl, hb⟩ := h
  exact ⟨hfault, hb⟩

theorem answers (h : Decides r fault holds) (hnot : ¬ fault) : Answers r holds := by
  cases r with
  | error e => exact absurd h hnot
  | ok b => exact .of_iff h.2

theorem negate (h : Decides r fault holds) : Decides (negate r) fault (¬ holds) := by
  cases r with
  | error e => exact h
  | ok b =>
    refine ⟨h.1, ?_⟩
    rw [← h.2, Bool.not_eq_true', Bool.not_eq_true]

/-- What comes second is evaluated if what comes first holds. -/
theorem both : Decides r fault holds → Decides s fault' holds' →
    Decides (match r with
      | .ok true => s
      | .ok false => .ok false
      | .error e => .error e) (fault ∨ holds ∧ fault') (holds ∧ holds') := by
  intro h h'
  cases r with
  | error e => exact .inl h
  | ok b =>
    obtain ⟨hfault, hholds⟩ := h
    cases b with
    | true =>
      have hfirst : holds := hholds.1 rfl
      exact h'.congr (by simp [hfault, hfirst]) (by simp [hfirst])
    | false =>
      have hfirst : ¬ holds := by rw [← hholds]; exact Bool.false_ne_true
      exact ⟨by simp [hfault, hfirst], by simp [hfirst]⟩

/-- What comes second is evaluated if what comes first does not hold. -/
theorem either : Decides r fault holds → Decides s fault' holds' →
    Decides (match r with
      | .ok false => s
      | .ok true => .ok true
      | .error e => .error e) (fault ∨ ¬ holds ∧ fault') (holds ∨ holds') := by
  intro h h'
  cases r with
  | error e => exact .inl h
  | ok b =>
    obtain ⟨hfault, hholds⟩ := h
    cases b with
    | true =>
      have hfirst : holds := hholds.1 rfl
      exact ⟨by simp [hfault, hfirst], by simp [hfirst]⟩
    | false =>
      have hfirst : ¬ holds := by rw [← hholds]; exact Bool.false_ne_true
      exact h'.congr (by simp [hfault, hfirst]) (by simp [hfirst])

theorem error_iff (h : Decides r fault holds) : (∃ e, r = .error e) ↔ fault := by
  cases r with
  | error e => exact ⟨fun _ => h, fun _ => ⟨e, rfl⟩⟩
  | ok b =>
    refine ⟨?_, fun hfault => absurd hfault h.1⟩
    rintro ⟨e, he⟩
    cases he

end Decides

/-! ## Operators and conditions -/

theorem fieldIn_error {operand : Json} (h : ¬ ∃ candidates, operand = .array candidates)
    (actual : Option Json) : fieldIn actual operand = .error .arrayExpected := by
  cases operand with
  | array candidates => exact absurd ⟨candidates, rfl⟩ h
  | _ => rfl

theorem fieldMatches_error {options : Option Json} {operand : Json}
    (h : ¬ Takes options "$regex" operand) (actual : Option Json) :
    ∃ e, fieldMatches actual options operand = .error e := by
  cases operand with
  | string pattern =>
    cases hread : Regex.Pattern.ofText? (patternText options pattern) with
    | none => exact ⟨.badPattern, by rw [fieldMatches, ← patternText_eq, hread]⟩
    | some p => exact absurd ⟨pattern, rfl, by rw [hread]; rfl⟩ h
  | _ => exact ⟨_, rfl⟩

/-- An operator that does not take its operand is in error, whatever the field is. -/
theorem operatorHolds_error {options : Option Json} {key : String} {operand : Json}
    (h : ¬ Takes options key operand) (actual : Option Json) :
    ∃ e, operatorHolds actual options key operand = .error e := by
  unfold operatorHolds
  cases hop : Operator.ofKey? key with
  | none => exact ⟨_, rfl⟩
  | some op =>
    rw [Operator.ofKey?_eq_some_iff.1 hop] at h
    cases op with
    | isIn => exact ⟨_, fieldIn_error h actual⟩
    | notIn =>
      have herror := fieldIn_error h actual
      exact ⟨.arrayExpected, by simp only [herror, Filter.negate]⟩
    | exist =>
      cases operand with
      | bool wanted => exact absurd ⟨wanted, rfl⟩ h
      | _ => exact ⟨_, rfl⟩
    | regex => exact fieldMatches_error h actual
    | _ => exact absurd trivial h

theorem operatorHolds_decides (options actual : Option Json) (key : String) (operand : Json) :
    Decides (operatorHolds actual options key operand) (¬ Takes options key operand)
      (OperatorMeans options actual key operand) := by
  by_cases h : Takes options key operand
  · exact .of_answers (operatorHolds_answers h actual) (Classical.not_not.2 h)
  · obtain ⟨e, he⟩ := operatorHolds_error h actual
    rw [he]
    exact h

theorem operatorsHold_decides (options actual : Option Json) (members : Document) :
    Decides (operatorsHold actual options members)
      (Reached (fun m => OperatorMeans options actual m.1 m.2)
        (fun m => ¬ Takes options m.1 m.2) members)
      (∀ m ∈ members, OperatorMeans options actual m.1 m.2) := by
  induction members with
  | nil => exact ⟨reached_nil, by simp⟩
  | cons m members ih =>
    obtain ⟨key, operand⟩ := m
    rw [operatorsHold]
    exact ((operatorHolds_decides options actual key operand).both ih).congr
      (by rw [reached_cons]) (by rw [List.forall_mem_cons])

theorem conditionMeans_operators {members : List (String × Json)} (h : Operators members)
    {actual : Option Json} : ConditionMeans actual (.object members) ↔
      ∀ m ∈ members, OperatorMeans (Document.get? members "$options") actual m.1 m.2 := by
  constructor
  · intro hmeans
    cases hmeans with
    | operators _ hall => exact hall
    | literal hnot => exact absurd h (hnot members rfl)
  · exact .operators h

theorem conditionMeans_literal {expected : Json} {actual : Option Json}
    (h : ∀ members, expected = .object members → ¬ Operators members) :
    ConditionMeans actual expected ↔ EqualTo expected actual := by
  constructor
  · intro hmeans
    cases hmeans with
    | operators hops => exact absurd hops (h _ rfl)
    | literal _ hequal => exact hequal
  · exact .literal h

theorem literal_decides {expected : Json} (actual : Option Json)
    (h : ∀ members, expected = .object members → ¬ Operators members) :
    Decides (.ok (fieldEquals expected actual)) (FaultyCondition actual expected)
      (ConditionMeans actual expected) := by
  refine .of_answers (.of_iff (fieldEquals_iff.trans (conditionMeans_literal h).symm)) ?_
  rintro ⟨members, hmembers, hops, _⟩
  exact h members hmembers hops

theorem conditionHolds_decides (actual : Option Json) (condition : Json) :
    Decides (conditionHolds actual condition) (FaultyCondition actual condition)
      (ConditionMeans actual condition) := by
  cases condition with
  | object members =>
    rw [conditionHolds]
    split
    · rename_i hops
      have hops := isOperators_iff.1 hops
      refine (operatorsHold_decides _ actual members).congr ⟨?_, ?_⟩
        (conditionMeans_operators hops).symm
      · intro hreached
        exact ⟨members, rfl, hops, hreached⟩
      · rintro ⟨_, ⟨⟩, _, hreached⟩
        exact hreached
    · rename_i hops
      refine literal_decides actual ?_
      rintro _ ⟨⟩ hother
      exact hops (isOperators_iff.2 hother)
  | _ => exact literal_decides actual (by simp)

/-! ## Filters -/

theorem fieldMember_decides (d : Document) {key : String} (hkey : key ∉ combinations)
    (condition : Json) :
    Decides (memberHolds d key condition) (FaultyMember d key condition)
      (MemberMeans d key condition) := by
  rw [memberHolds_eq_fieldHolds d hkey, fieldHolds]
  split
  · rename_i hreserved
    exact .reserved hkey (isReserved_iff.1 hreserved)
  · rename_i hfield
    refine (conditionHolds_decides (d.at? key) condition).congr ?_
      (memberMeans_field d hkey condition).symm
    rw [faultyMember_field_iff hkey, ← isReserved_iff]
    simp [hfield]

/-- A member that is no array is a condition on a field or a combination without clauses. -/
theorem leafMember_decides (d : Document) {key : String} {condition : Json}
    (hleaf : ∀ clauses, condition ≠ .array clauses) :
    Decides (memberHolds d key condition) (FaultyMember d key condition)
      (MemberMeans d key condition) := by
  by_cases hkey : key ∈ combinations
  · obtain ⟨c, hc⟩ := mem_combinations_iff.1 hkey
    have herror : memberHolds d key condition = .error .clausesExpected := by
      cases condition with
      | array clauses => exact absurd rfl (hleaf clauses)
      | _ => simp only [memberHolds, hc]
    rw [herror]
    exact .noClauses hkey hleaf
  · exact fieldMember_decides d hkey condition

mutual

/-- By recursion on the filter, the way in which it is evaluated. -/
theorem matchesFilter_decides (d : Document) :
    ∀ f : Json, Decides (matchesFilter d f) (Faulty d f) (Means d f)
  | .object members => by
    rw [matchesFilter, Means]
    exact (membersHold_decides d members).congr faulty_object_iff.symm Iff.rfl
  | .null | .bool _ | .number _ | .string _ | .array _ => .notAnObject (by simp)

theorem membersHold_decides (d : Document) : ∀ members : List (String × Json),
    Decides (membersHold d members)
      (Reached (fun m => MemberMeans d m.1 m.2) (fun m => FaultyMember d m.1 m.2) members)
      (∀ m ∈ members, MemberMeans d m.1 m.2)
  | [] => ⟨reached_nil, by simp⟩
  | (key, condition) :: rest => by
    rw [membersHold]
    exact ((memberHolds_decides d key condition).both (membersHold_decides d rest)).congr
      (by rw [reached_cons]) (by simp)

theorem memberHolds_decides (d : Document) (key : String) : ∀ condition : Json,
    Decides (memberHolds d key condition) (FaultyMember d key condition)
      (MemberMeans d key condition)
  | .array clauses => by
    cases hkey : Combination.ofKey? key with
    | none => exact fieldMember_decides d (ofKey?_eq_none_iff.1 hkey) (.array clauses)
    | some c =>
      rw [memberHolds, hkey, faultyMember_array_iff (mem_combinations_iff.2 ⟨c, hkey⟩),
        Combination.ofKey?_eq_some_iff.1 hkey]
      cases c with
      | all =>
        exact (allHold_decides d clauses).congr (by simp [Combination.key])
          (memberMeans_all d clauses).symm
      | any =>
        exact (anyHolds_decides d clauses).congr (by simp [Combination.key])
          (memberMeans_any d clauses).symm
      | noneOf =>
        exact (anyHolds_decides d clauses).negate.congr (by simp [Combination.key])
          (memberMeans_noneOf d clauses).symm
  | .null | .bool _ | .number _ | .string _ | .object _ => leafMember_decides d (by simp)

theorem allHold_decides (d : Document) : ∀ clauses : List Json,
    Decides (allHold d clauses) (Reached (Means d) (Faulty d) clauses) (∀ f ∈ clauses, Means d f)
  | [] => ⟨reached_nil, by simp⟩
  | clause :: rest => by
    rw [allHold]
    exact ((matchesFilter_decides d clause).both (allHold_decides d rest)).congr
      reached_cons.symm (List.forall_mem_cons (p := Means d)).symm

theorem anyHolds_decides (d : Document) : ∀ clauses : List Json,
    Decides (anyHolds d clauses) (Reached (fun g => ¬ Means d g) (Faulty d) clauses)
      (∃ f ∈ clauses, Means d f)
  | [] => ⟨reached_nil, by simp⟩
  | clause :: rest => by
    rw [anyHolds]
    exact ((matchesFilter_decides d clause).either (anyHolds_decides d rest)).congr
      (by rw [reached_cons]) (by simp)

end

/-! ## Filters without faults -/

mutual

theorem Faulty.not_wellFormed {d : Document} : ∀ {f : Json}, Faulty d f → ¬ WellFormed f
  | _, .notAnObject hnot, h => by
    cases h with
    | object _ => exact hnot _ rfl
  | _, .member _ hmember, h => by
    cases h with
    | object hmembers =>
      exact hmember.not_wellFormed (hmembers _ (List.mem_append_right _ (.head _)))

theorem FaultyMember.not_wellFormed {d : Document} : ∀ {key : String} {condition : Json},
    FaultyMember d key condition → ¬ WellFormedMember key condition
  | _, _, .noClauses hkey hnot, h => by
    cases h with
    | combination _ _ => exact hnot _ rfl
    | field hfree _ => exact not_mem_combinations hfree hkey
  | _, _, .clause hkey _ hf, h => by
    cases h with
    | combination _ hclauses =>
      exact hf.not_wellFormed (hclauses _ (List.mem_append_right _ (.head _)))
    | field hfree _ => exact not_mem_combinations hfree hkey
  | _, _, .reserved hother hreserved, h => by
    cases h with
    | combination hkey _ => exact hother hkey
    | field hfree _ => exact hfree hreserved
  | _, _, .condition hother hcondition, h => by
    cases h with
    | combination hkey _ => exact hother hkey
    | field _ hformed =>
      obtain ⟨members, hmembers, hops, before, m, after, hsplit, _, hm⟩ := hcondition
      exact hm (hformed members hmembers hops m (hsplit ▸ List.mem_append_right _ (.head _)))

end

/-- A filter is rejected for a document exactly if its evaluation comes upon a fault, which no
well-formed filter has. Where it comes upon none the filter has an answer, its meaning, however
malformed the parts are that were not looked at. -/
theorem matchesFilter_error_iff (f : Json) (d : Document) :
    ((∃ e, matchesFilter d f = .error e) ↔ Faulty d f) ∧
    (Faulty d f → ¬ WellFormed f) ∧
    (¬ Faulty d f → ∃ b, matchesFilter d f = .ok b ∧ (b = true ↔ Means d f)) := by
  have hdecides := matchesFilter_decides d f
  exact ⟨hdecides.error_iff, Faulty.not_wellFormed, hdecides.answers⟩

/-- An unsupported operator is found in documents that satisfy what stands before it only. -/
theorem malformed_filter_answered :
    let f : Json := Json.ofMembers [("a", Json.ofInt 1),
      ("b", Json.ofMembers [("$near", Json.ofInt 1)])]
    ¬ WellFormed f ∧ matchesFilter [] f = .ok false ∧
      matchesFilter (Document.ofList [("a", Json.ofInt 1)]) f =
        .error (.unsupportedOperator "$near") := by
  intro f
  have hfound : matchesFilter (Document.ofList [("a", Json.ofInt 1)]) f =
      .error (.unsupportedOperator "$near") := by rfl
  refine ⟨?_, by rfl, hfound⟩
  -- a fault found on one document is a fault of the filter
  have hdecides := matchesFilter_decides (Document.ofList [("a", Json.ofInt 1)]) f
  exact (hdecides.error_iff.1 ⟨_, hfound⟩).not_wellFormed

end Filter
end DocAnalytics
