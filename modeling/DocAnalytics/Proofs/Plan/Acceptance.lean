import DocAnalytics.Proofs.Catalog.Records
import DocAnalytics.Proofs.Plan.JsonView

/-!
# DocAnalytics.Proofs.Plan.Acceptance

Which requests are plans for a dataset, in terms of the records of its fields. A request is accepted
exactly if it has none of four flaws; the plan asks for what the request asks for, and otherwise the
first flaw is reported (`validate_ofRecords`). Each flaw is said without the others (`HasFlaw`), so
a request may have several, and `Flaw.earlier` says which of them go before it.
-/

namespace DocAnalytics

open Catalog (Named lastRecord?)

/-- What can be wrong with a request. -/
inductive Flaw where
  | unsupportedOperation
  | unknownField
  | missingField
  | typeMismatch
deriving DecidableEq, Repr

/-- The flaws that are reported before a flaw. -/
def Flaw.earlier : Flaw → List Flaw
  | .unsupportedOperation => []
  | .unknownField => [.unsupportedOperation]
  | .missingField => [.unsupportedOperation, .unknownField]
  | .typeMismatch => [.unsupportedOperation, .unknownField, .missingField]

def ValidationError.flaw : ValidationError → Flaw
  | .unsupportedOperation _ => .unsupportedOperation
  | .unknownField _ _ _ _ => .unknownField
  | .missingField _ => .missingField
  | .typeMismatch _ _ _ _ => .typeMismatch

namespace PlanRequest

/-- The operations that need a numeric field. -/
def numericOperations : List String := ["avg", "sum", "max", "min"]

/-- The last record of a field gives it a numeric type. -/
def NumericField (records : List SchemaRecord) (field : String) : Prop :=
  ∃ record, lastRecord? records field = some record ∧
    Unicode.lowercase (Text.trim record.dataType) ∈ DeclaredType.numericNames

/-- The requests that are plans: a count, a selection or grouping by a field that a record names,
and a numeric operation on a field of numeric type. -/
def Acceptable (records : List SchemaRecord) (r : PlanRequest) : Prop :=
  r.operation = "count" ∨
  r.operation ∈ ["filter_only", "group_by_count"] ∧ (∃ field ∈ r.field, Named records field) ∨
  r.operation ∈ numericOperations ∧ ∃ field ∈ r.field, NumericField records field

/-- A request has a flaw, whatever others it has. -/
def HasFlaw (records : List SchemaRecord) (r : PlanRequest) : Flaw → Prop
  | .unsupportedOperation => r.operation ∉ Operation.supported
  | .unknownField => r.operation ≠ "count" ∧ ∃ field ∈ r.field, ¬ Named records field
  | .missingField => r.operation ≠ "count" ∧ r.field = none
  | .typeMismatch =>
    r.operation ∈ numericOperations ∧ ∀ field ∈ r.field, ¬ NumericField records field

/-- A flaw is the first one of a request. -/
def FirstFlaw (records : List SchemaRecord) (r : PlanRequest) (flaw : Flaw) : Prop :=
  r.HasFlaw records flaw ∧ ∀ other ∈ flaw.earlier, ¬ r.HasFlaw records other

/-- An error speaks of the operation and the field of a request, and of the type that the last
record of the field gives it. -/
def Concerns (records : List SchemaRecord) (r : PlanRequest) : ValidationError → Prop
  | .unsupportedOperation operation => operation = r.operation
  | .unknownField field _ _ _ => r.field = some field
  | .missingField operation => operation = r.operation
  | .typeMismatch field declared operation _ =>
    operation = r.operation ∧ r.field = some field ∧
      ∃ record, lastRecord? records field = some record ∧ declared = record.dataType

variable {records : List SchemaRecord} {r : PlanRequest}

theorem NumericField.named {field : String} (h : NumericField records field) :
    Named records field := by
  obtain ⟨record, hlast, -⟩ := h
  rw [← Catalog.isSome_lastRecord?_iff, hlast]
  rfl

theorem not_hasFlaw_of_acceptable (h : r.Acceptable records) (flaw : Flaw) :
    ¬ r.HasFlaw records flaw := by
  rcases h with hcount | ⟨hoperation, field, hfield, hnamed⟩ | ⟨hoperation, field, hfield, hnumeric⟩
  · cases flaw <;> simp [HasFlaw, hcount, Operation.supported, numericOperations]
  · simp only [List.mem_cons, List.not_mem_nil, or_false] at hoperation
    rw [Option.mem_def] at hfield
    rcases hoperation with h | h <;> cases flaw <;>
      simp [HasFlaw, h, hfield, hnamed, Operation.supported, numericOperations]
  · have hnamed := hnumeric.named
    simp only [numericOperations, List.mem_cons, List.not_mem_nil, or_false] at hoperation
    rw [Option.mem_def] at hfield
    rcases hoperation with h | h | h | h <;> cases flaw <;>
      simp [HasFlaw, h, hfield, hnamed, hnumeric, Operation.supported, numericOperations]

/-! ## The ways that validation can go -/

/-- What becomes of a request, with the reason. -/
inductive Verdict (records : List SchemaRecord) (r : PlanRequest) :
    Except ValidationError Plan → Prop
  | unsupported (hoperation : r.operation ∉ Operation.supported) :
      Verdict records r (.error (.unsupportedOperation r.operation))
  | unknown {field : String} (hoperation : r.operation ∈ Operation.supported)
      (hcount : r.operation ≠ "count") (hfield : r.field = some field)
      (hnamed : ¬ Named records field) :
      Verdict records r (.error (unknownField (Catalog.ofRecords records) field))
  | missing (hoperation : r.operation ∈ Operation.supported) (hcount : r.operation ≠ "count")
      (hfield : r.field = none) : Verdict records r (.error (.missingField r.operation))
  | mismatch {field : String} {record : SchemaRecord} {numericFields : List String}
      (hoperation : r.operation ∈ numericOperations) (hfield : r.field = some field)
      (hlast : lastRecord? records field = some record)
      (htype : Unicode.lowercase (Text.trim record.dataType) ∉ DeclaredType.numericNames) :
      Verdict records r (.error (.typeMismatch field record.dataType r.operation numericFields))
  | accepted {operation : Operation} (hname : operation.name = r.operation)
      (hfield : operation.field? = if r.operation = "count" then none else r.field)
      (h : r.Acceptable records) : Verdict records r (.ok ⟨operation, r.filter, r.limit⟩)

theorem operationNamed?_eq_none_iff (name : String) :
    operationNamed? name = none ↔ name ∉ Operation.supported := by
  unfold operationNamed?
  split <;> simp_all [Operation.supported]

theorem requiredField_of_named {field : String} (hfield : r.field = some field)
    (hnamed : Named records field) : r.requiredField (Catalog.ofRecords records) = .ok field := by
  rw [requiredField, hfield]
  exact if_pos ((Catalog.contains_ofRecords_iff records field).2 hnamed)

theorem requiredField_of_unknown {field : String} (hfield : r.field = some field)
    (hnamed : ¬ Named records field) : r.requiredField (Catalog.ofRecords records) =
      .error (unknownField (Catalog.ofRecords records) field) := by
  rw [requiredField, hfield]
  exact if_neg (mt (Catalog.contains_ofRecords_iff records field).1 hnamed)

/-- Only a count does without its field. -/
theorem validate_of_requiredField {catalog : Catalog} {kind : OperationName} {e : ValidationError}
    (hkind : operationNamed? r.operation = some kind) (hcount : kind ≠ .count)
    (h : r.requiredField catalog = .error e) : r.validate catalog = .error e := by
  cases kind with
  | count => exact absurd rfl hcount
  | groupByCount | filterOnly | numeric op => simp only [validate, operationIn, hkind, h]

theorem verdict_numeric {op : NumericOperation} {field : String} {record : SchemaRecord}
    (hkind : operationNamed? r.operation = some (.numeric op)) (hfield : r.field = some field)
    (hlast : lastRecord? records field = some record)
    (hrequired : r.requiredField (Catalog.ofRecords records) = .ok field) :
    Verdict records r (r.validate (Catalog.ofRecords records)) := by
  have hname : r.operation = op.function.name := Plan.eq_kindName hkind
  have hnumeric : r.operation ∈ numericOperations := by
    rw [hname]
    cases op <;> simp [numericOperations, NumericOperation.function, Aggregate.name]
  have hcount : r.operation ≠ "count" := by
    rw [hname]
    cases op <;> simp [NumericOperation.function, Aggregate.name]
  have hdescriptor : (Catalog.ofRecords records).field? field = some record.descriptor := by
    rw [Catalog.field?_ofRecords, hlast, Option.map_some]
  have hdeclared := DeclaredType.isNumeric_ofText_iff record.dataType
  by_cases htype : Unicode.lowercase (Text.trim record.dataType) ∈ DeclaredType.numericNames
  · have hvalid : r.validate (Catalog.ofRecords records) =
        .ok ⟨.aggregate op field, r.filter, r.limit⟩ := by
      simp only [validate, operationIn, hkind, hrequired, numericField, hdescriptor,
        SchemaRecord.descriptor, hdeclared.2 htype, if_true]
    rw [hvalid]
    refine .accepted hname.symm ?_ (.inr (.inr ⟨hnumeric, field, hfield, record, hlast, htype⟩))
    rw [if_neg hcount, hfield]
    rfl
  · have hvalid : r.validate (Catalog.ofRecords records) =
        .error (.typeMismatch field record.dataType r.operation
          ((Catalog.ofRecords records).numericFields.take maxSimilar)) := by
      simp only [validate, operationIn, hkind, hrequired, numericField, hdescriptor,
        SchemaRecord.descriptor, mt hdeclared.1 htype, Bool.false_eq_true, if_false]
    rw [hvalid]
    exact .mismatch hnumeric hfield hlast htype

theorem verdict_validate (records : List SchemaRecord) (r : PlanRequest) :
    Verdict records r (r.validate (Catalog.ofRecords records)) := by
  cases hkind : operationNamed? r.operation with
  | none =>
    have hvalid : r.validate (Catalog.ofRecords records) =
        .error (.unsupportedOperation r.operation) := by
      simp only [validate, operationIn, hkind]
    rw [hvalid]
    exact .unsupported ((operationNamed?_eq_none_iff _).1 hkind)
  | some kind =>
    have hname := Plan.eq_kindName hkind
    have hsupported : r.operation ∈ Operation.supported := by
      by_contra h
      rw [(operationNamed?_eq_none_iff _).2 h] at hkind
      cases hkind
    by_cases hcount : kind = .count
    · subst hcount
      have hvalid : r.validate (Catalog.ofRecords records) = .ok ⟨.count, r.filter, r.limit⟩ := by
        simp only [validate, operationIn, hkind]
      rw [hvalid]
      exact .accepted hname.symm (if_pos hname).symm (.inl hname)
    · have hother : r.operation ≠ "count" := by
        rw [hname]
        cases kind with
        | count => exact absurd rfl hcount
        | groupByCount | filterOnly => simp [Plan.kindName]
        | numeric op => cases op <;> simp [Plan.kindName, NumericOperation.function, Aggregate.name]
      cases hfield : r.field with
      | none =>
        rw [validate_of_requiredField hkind hcount (by rw [requiredField, hfield])]
        exact .missing hsupported hother hfield
      | some field =>
        by_cases hnamed : Named records field
        · have hrequired := requiredField_of_named hfield hnamed
          cases kind with
          | count => exact absurd rfl hcount
          | groupByCount | filterOnly =>
            simp only [validate, operationIn, hkind, hrequired]
            refine .accepted hname.symm (by rw [if_neg hother, hfield]; rfl) (.inr (.inl ?_))
            exact ⟨by simp [hname, Plan.kindName], field, hfield, hnamed⟩
          | numeric op =>
            obtain ⟨record, hlast⟩ :=
              Option.isSome_iff_exists.1 ((Catalog.isSome_lastRecord?_iff records field).2 hnamed)
            exact verdict_numeric hkind hfield hlast hrequired
        · rw [validate_of_requiredField hkind hcount (requiredField_of_unknown hfield hnamed)]
          exact .unknown hsupported hother hfield hnamed

/-! ## What is accepted and what is reported -/

theorem flaw_unknownField (catalog : Catalog) (field : String) :
    (unknownField catalog field).flaw = .unknownField := by
  unfold unknownField
  split <;> rfl

theorem concerns_unknownField {field : String} (hfield : r.field = some field)
    (catalog : Catalog) : r.Concerns records (unknownField catalog field) := by
  unfold unknownField
  split <;> exact hfield

theorem supported_of_numeric (h : r.operation ∈ numericOperations) :
    r.operation ∈ Operation.supported := by
  revert h
  simp only [numericOperations, Operation.supported, List.mem_cons]
  tauto

theorem Verdict.firstFlaw {e : ValidationError} (h : Verdict records r (.error e)) :
    r.FirstFlaw records e.flaw ∧ r.Concerns records e := by
  cases h with
  | unsupported hoperation => exact ⟨⟨hoperation, fun _ h => by cases h⟩, rfl⟩
  | unknown hoperation hcount hfield hnamed =>
    refine ⟨?_, concerns_unknownField hfield _⟩
    rw [flaw_unknownField]
    refine ⟨⟨hcount, _, hfield, hnamed⟩, ?_⟩
    simp [Flaw.earlier, HasFlaw, hoperation]
  | missing hoperation hcount hfield =>
    refine ⟨⟨⟨hcount, hfield⟩, ?_⟩, rfl⟩
    simp [ValidationError.flaw, Flaw.earlier, HasFlaw, hoperation, hfield]
  | @mismatch field record numericFields hoperation hfield hlast htype =>
    have hnamed : Named records field := by
      rw [← Catalog.isSome_lastRecord?_iff, hlast]
      rfl
    refine ⟨⟨⟨hoperation, ?_⟩, ?_⟩, rfl, hfield, record, hlast, rfl⟩
    · simp [hfield, NumericField, hlast, htype]
    · simp [ValidationError.flaw, Flaw.earlier, HasFlaw, supported_of_numeric hoperation, hfield,
        hnamed]

/-- Against the catalog of some records a request is accepted exactly if it is acceptable, and the
plan asks for the operation, the field, the filter and the limit of the request; only a count drops
its field. Any other request is refused for the first of its flaws. -/
theorem validate_ofRecords (records : List SchemaRecord) (r : PlanRequest) :
    ((∃ p, r.validate (Catalog.ofRecords records) = .ok p) ↔ r.Acceptable records) ∧
    (∀ p, r.validate (Catalog.ofRecords records) = .ok p →
      p.operation.name = r.operation ∧
      p.operation.field? = (if r.operation = "count" then none else r.field) ∧
      p.filter = r.filter ∧ p.limit = r.limit) ∧
    (∀ e, r.validate (Catalog.ofRecords records) = .error e →
      r.FirstFlaw records e.flaw ∧ r.Concerns records e) := by
  have hverdict := verdict_validate records r
  refine ⟨⟨?_, ?_⟩, ?_, ?_⟩
  · rintro ⟨p, hp⟩
    rw [hp] at hverdict
    cases hverdict with
    | accepted hname hfield h => exact h
  · intro hacceptable
    cases hresult : r.validate (Catalog.ofRecords records) with
    | ok p => exact ⟨p, rfl⟩
    | error e =>
      rw [hresult] at hverdict
      exact absurd hverdict.firstFlaw.1.1 (not_hasFlaw_of_acceptable hacceptable e.flaw)
  · intro p hp
    rw [hp] at hverdict
    cases hverdict with
    | accepted hname hfield h => exact ⟨hname, hfield, rfl, rfl⟩
  · intro e he
    rw [he] at hverdict
    exact hverdict.firstFlaw

/-- A field that its last record makes numeric, and one that a numeric operation cannot use. -/
theorem validate_ofRecords_prices :
    let records : List SchemaRecord :=
      [⟨"price", "string"⟩, ⟨"day", "release date"⟩, ⟨"price", " Number\n"⟩]
    let total : PlanRequest := ⟨"sum", some "price", none, some 3⟩
    let latest : PlanRequest := ⟨"max", some "day", none, none⟩
    total.validate (Catalog.ofRecords records) = .ok ⟨.aggregate .sum "price", none, some 3⟩ ∧
      total.Acceptable records ∧ latest.FirstFlaw records .typeMismatch := by
  intro records total latest
  have htotal : total.validate (Catalog.ofRecords records) =
      .ok ⟨.aggregate .sum "price", none, some 3⟩ := by
    decide +kernel
  have hlatest : latest.validate (Catalog.ofRecords records) =
      .error (.typeMismatch "day" "release date" "max" ["price"]) := by
    decide +kernel
  exact ⟨htotal, (validate_ofRecords records total).1.1 ⟨_, htotal⟩,
    ((validate_ofRecords records latest).2.2 _ hlatest).1⟩

end PlanRequest
end DocAnalytics
