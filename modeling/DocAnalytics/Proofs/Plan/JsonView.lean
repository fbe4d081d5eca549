import DocAnalytics.Plan.Validation
import DocAnalytics.Proofs.Text.Trim
import Mathlib.Data.List.Basic

/-!
# DocAnalytics.Proofs.Plan.JsonView

The JSON view of a plan asks for that plan. Reading leaves a request in a form that reading it again
does not change (`PlanRequest.Normal`); validation keeps of the request all but the field of a count
(`request_of_validate`); so the view of a validated plan is read as a request of its own
(`Plan.request`), which is validated as the same plan (`ofJson_toJson_validate`).
-/

namespace DocAnalytics

/-! ## Requests as reading leaves them -/

namespace PlanRequest

/-- A request that reading does not change: its field is not blank and has no blanks at its ends,
its filter is neither null nor an empty object, and its limit is an unsigned 64-bit integer other
than zero. -/
structure Normal (r : PlanRequest) : Prop where
  field : ∀ f ∈ r.field, Text.nonBlank? f = some f
  filter : ∀ f ∈ r.filter, filterOf f = some f
  limit : ∀ n ∈ r.limit, n ≠ 0 ∧ n < Text.unsignedLimit

theorem nonBlank?_again {s f : String} (h : Text.nonBlank? s = some f) :
    Text.nonBlank? f = some f := by
  obtain ⟨hcore, hne⟩ := Text.nonBlank?_eq_some_iff.1 h
  exact Text.nonBlank?_of_trimmed (hcore ▸ Text.trimmed_trimChars _) hne

theorem normal_field {value : Option Json} {field : Option String} (h : fieldOf value = .ok field) :
    ∀ f ∈ field, Text.nonBlank? f = some f := by
  unfold fieldOf at h
  split at h
  · cases h; exact fun _ hf => by cases hf
  · cases h; exact fun _ hf => by cases hf
  · cases h; exact fun _ hf => nonBlank?_again hf
  · cases h

theorem filterOf_again {value f : Json} (h : filterOf value = some f) : filterOf f = some f := by
  have hsame : value = f := by
    unfold filterOf at h
    split at h <;> cases h
    rfl
  exact hsame ▸ h

theorem toUnsigned?_lt {n : Json.Number} {k : Nat} (h : n.toUnsigned? = some k) :
    k < Text.unsignedLimit := by
  cases n with
  | integer n inRange =>
    have hbound := inRange.2
    simp only [Json.Number.toUnsigned?, Option.ite_none_right_eq_some, Option.some.injEq] at h
    omega
  | float x => cases h

theorem normal_limit {value : Option Json} {limit : Option Nat} (h : limitFrom value = .ok limit) :
    ∀ n ∈ limit, n ≠ 0 ∧ n < Text.unsignedLimit := by
  unfold limitFrom at h
  split at h
  · cases h; exact fun _ hn => by cases hn
  · cases h; exact fun _ hn => by cases hn
  · split at h
    · rename_i k hk
      cases h
      intro n hn
      simp only [limitOf, Option.mem_def, Option.ite_none_left_eq_some, Option.some.injEq] at hn
      obtain ⟨hzero, rfl⟩ := hn
      exact ⟨hzero, toUnsigned?_lt hk⟩
    · cases h
  · cases h

theorem normal_of_ofJson {v : Json} {r : PlanRequest} (h : ofJson v = .ok r) : r.Normal := by
  unfold ofJson at h
  split at h
  · split at h
    · cases h
    · split at h
      · cases h
      · rename_i hfield
        split at h
        · cases h
        · rename_i hlimit
          cases h
          refine ⟨normal_field hfield, fun f hf => ?_, normal_limit hlimit⟩
          obtain ⟨value, -, hvalue⟩ := Option.bind_eq_some_iff.1 hf
          exact filterOf_again hvalue
  · cases h

end PlanRequest

/-! ## Requests that ask for a plan -/

namespace Plan

open PlanRequest (OperationName operationNamed? operationOf fieldOf limitFrom filterOf)

def request (p : Plan) : PlanRequest :=
  ⟨p.operation.name, p.operation.field?, p.filter, p.limit⟩

variable {r : PlanRequest} {catalog : Catalog} {p : Plan}

theorem field_of_requiredField {field : String} (h : r.requiredField catalog = .ok field) :
    r.field = some field := by
  unfold PlanRequest.requiredField at h
  split at h
  · cases h
  · rename_i hfield
    split at h <;> cases h
    exact hfield

theorem eq_of_numericField {field used : String} (h : r.numericField catalog field = .ok used) :
    used = field := by
  unfold PlanRequest.numericField at h
  split at h
  · split at h <;> cases h
    rfl
  · cases h

def kindName : OperationName → String
  | .count => "count"
  | .groupByCount => "group_by_count"
  | .filterOnly => "filter_only"
  | .numeric op => op.function.name

theorem eq_kindName {name : String} {kind : OperationName} (h : operationNamed? name = some kind) :
    name = kindName kind := by
  unfold operationNamed? at h
  split at h <;> cases h <;> rfl

/-- An operation has the name and the field of its request; only a count leaves the field. -/
theorem of_operationIn {op : Operation} (h : r.operationIn catalog = .ok op) :
    r.operation = op.name ∧ (op = .count ∨ r.field = op.field?) := by
  unfold PlanRequest.operationIn at h
  split at h
  · cases h
  · rename_i hname
    cases h
    exact ⟨eq_kindName hname, .inl rfl⟩
  · rename_i kind hcount hname
    have hkind := eq_kindName hname
    split at h
    · cases h
    · rename_i field hrequired
      have hfield := field_of_requiredField hrequired
      cases kind with
      | count => exact absurd rfl hcount
      | groupByCount =>
        cases h
        exact ⟨hkind, .inr hfield⟩
      | filterOnly =>
        cases h
        exact ⟨hkind, .inr hfield⟩
      | numeric op =>
        simp only at h
        split at h
        · cases h
        · rename_i hused
          cases h
          exact ⟨hkind, .inr (hfield.trans (congrArg some (eq_of_numericField hused).symm))⟩

/-- The view of a validated plan holds the request, without the field of a count. -/
theorem request_of_validate (h : r.validate catalog = .ok p) :
    p.request = r ∨ p.operation = .count ∧ p.request = { r with field := none } := by
  unfold PlanRequest.validate at h
  split at h
  · cases h
  · rename_i op hop
    cases h
    obtain ⟨operation, field, filter, limit⟩ := r
    obtain ⟨hname, hfield⟩ := of_operationIn hop
    simp only at hname hfield
    subst hname
    rcases hfield with rfl | rfl
    · exact .inr ⟨rfl, rfl⟩
    · exact .inl rfl

/-- The request of a validated plan is validated as the same plan. -/
theorem validate_request (h : r.validate catalog = .ok p) :
    p.request.validate catalog = .ok p := by
  rcases request_of_validate h with hsame | ⟨hcount, -⟩
  · rw [hsame, h]
  · obtain ⟨operation, filter, limit⟩ := p
    simp only at hcount
    subst hcount
    rfl

theorem normal_request (hr : r.Normal) (h : r.validate catalog = .ok p) : p.request.Normal := by
  rcases request_of_validate h with hsame | ⟨-, hsame⟩
  · exact hsame ▸ hr
  · rw [hsame]
    exact ⟨fun _ hf => (by cases hf), hr.filter, hr.limit⟩

/-! ## The view of a plan -/

/-- What the view holds under each of its keys. -/
theorem get?_toJson (p : Plan) :
    ∃ d : Document, p.toJson = .object d ∧
      d.get? "operation" = some (.string p.operation.name) ∧
      d.get? "field" = some (Json.ofString? p.operation.field?) ∧
      d.get? "filter" = some (p.filter.getD .null) ∧
      d.get? "limit" = some ((p.limit.map Json.ofNat).getD .null) := by
  let members : List (String × Json) :=
    [("operation", .string p.operation.name), ("field", Json.ofString? p.operation.field?),
      ("filter", p.filter.getD .null), ("limit", (p.limit.map Json.ofNat).getD .null)]
  have hkeys : ["operation", "field", "filter", "limit"].Nodup := by decide
  have hread : ∀ key, (Document.ofList members).get? key = members.lookup key :=
    Keyed.get?_ofList hkeys
  refine ⟨Document.ofList members, rfl, ?_, ?_, ?_, ?_⟩ <;> simp [hread, members, List.lookup_cons]

theorem name_mem_supported (op : Operation) : op.name ∈ Operation.supported := by
  cases op with
  | aggregate op field =>
    cases op <;> simp [Operation.name, NumericOperation.function, Aggregate.name,
      Operation.supported]
  | groupByCount | count | filterOnly => simp [Operation.name, Operation.supported]

/-- The names of operations are in small letters, without blanks. -/
theorem operationOf_supported :
    ∀ name ∈ Operation.supported, operationOf (some (.string name)) = .ok name := by
  decide +kernel

theorem fieldOf_ofString? {field : Option String}
    (h : ∀ f ∈ field, Text.nonBlank? f = some f) :
    fieldOf (some (Json.ofString? field)) = .ok field := by
  cases field with
  | none => rfl
  | some f => exact congrArg Except.ok (h f rfl)

theorem filterOf_getD {filter : Option Json} (h : ∀ f ∈ filter, filterOf f = some f) :
    filterOf (filter.getD .null) = filter := by
  cases filter with
  | none => rfl
  | some f => exact h f rfl

theorem toUnsigned?_ofNat {n : Nat} (h : n < Text.unsignedLimit) :
    (Json.Number.ofNat n).toUnsigned? = some n := by
  have hrange : Json.InRange n := ⟨by simp only [Text.signedLimit]; omega, by omega⟩
  rw [Json.Number.ofNat, Json.Number.ofInt, dif_pos hrange, Json.Number.toUnsigned?,
    if_pos (Int.natCast_nonneg n), Int.toNat_natCast]

theorem limitFrom_number {number : Json.Number} {n : Nat} (h : number.toUnsigned? = some n) :
    limitFrom (some (.number number)) = .ok (PlanRequest.limitOf n) := by
  simp only [limitFrom, h]

theorem limitFrom_getD {limit : Option Nat} (h : ∀ n ∈ limit, n ≠ 0 ∧ n < Text.unsignedLimit) :
    limitFrom (some ((limit.map Json.ofNat).getD .null)) = .ok limit := by
  cases limit with
  | none => rfl
  | some n =>
    obtain ⟨hzero, hlt⟩ := h n rfl
    have hread : limitFrom (some (Json.ofNat n)) = .ok (PlanRequest.limitOf n) :=
      limitFrom_number (toUnsigned?_ofNat hlt)
    rw [Option.map_some, Option.getD_some, hread, PlanRequest.limitOf, if_neg hzero]

/-- The view of a plan is read as the request of the plan. -/
theorem ofJson_toJson (h : p.request.Normal) : PlanRequest.ofJson p.toJson = .ok p.request := by
  obtain ⟨d, hd, hoperation, hfield, hfilter, hlimit⟩ := get?_toJson p
  have hname := operationOf_supported _ (name_mem_supported p.operation)
  have hfield' := fieldOf_ofString? h.field
  have hlimit' := limitFrom_getD h.limit
  have hfilter' := filterOf_getD h.filter
  simp only [request] at hfield' hlimit' hfilter'
  simp only [hd, PlanRequest.ofJson, hoperation, hfield, hfilter, hlimit, hname, hfield',
    hlimit', Option.bind_some, hfilter', request]

/-- Nothing is lost between a plan and its view: of a request that was read and validated, the view
of the plan is read again and validated as exactly this plan. -/
theorem ofJson_toJson_validate {v : Json} (hr : PlanRequest.ofJson v = .ok r)
    (hp : r.validate catalog = .ok p) :
    PlanRequest.ofJson p.toJson = .ok p.request ∧ p.request.validate catalog = .ok p :=
  ⟨ofJson_toJson (normal_request (PlanRequest.normal_of_ofJson hr) hp), validate_request hp⟩

/-- A count with a field that is not in the catalog, an empty filter and a limit. -/
theorem ofJson_toJson_validate_count :
    let v := Json.ofMembers [("operation", .string " Count\n"), ("field", .string "height"),
      ("filter", .object []), ("limit", Json.ofNat 3)]
    let catalog := Catalog.ofFields [⟨"city", .string, "string"⟩]
    let p : Plan := ⟨.count, none, some 3⟩
    ∃ r, PlanRequest.ofJson v = .ok r ∧ r.validate catalog = .ok p ∧
      PlanRequest.ofJson p.toJson = .ok p.request ∧ p.request.validate catalog = .ok p := by
  intro v catalog p
  have hr : PlanRequest.ofJson v = .ok ⟨"count", some "height", none, some 3⟩ := by decide +kernel
  have hp : PlanRequest.validate ⟨"count", some "height", none, some 3⟩ catalog = .ok p := rfl
  exact ⟨_, hr, hp, ofJson_toJson_validate hr hp⟩

end Plan
end DocAnalytics
