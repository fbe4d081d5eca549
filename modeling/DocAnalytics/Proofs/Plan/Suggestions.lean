import DocAnalytics.Proofs.Plan.Acceptance
import DocAnalytics.Proofs.Unicode.Caseless
import DocAnalytics.Unicode.Folding

/-!
# DocAnalytics.Proofs.Plan.Suggestions

What a refused request can do with the fields that the refusal names (`validate_suggestions`). A
suggested field is one of the catalog, so the request with that field in place of its own is not
refused for an unknown field again; a numeric field that is offered makes the request a plan. Names
are looked up in lower case, which finds what a catalog has for a field, letter case left aside,
exactly if no sigma is in the field.
-/

namespace DocAnalytics

open Unicode (HoldsCaseless SigmaFree)

namespace Catalog

/-- The names that hold a text, letter case left aside. -/
def alike (c : Catalog) (text : String) : List String :=
  c.names.filter fun name => HoldsCaseless name text

/-- What is to be suggested where some names are alike: the first five of them, or the first ten of
all names if there are none. -/
structure Suggests (c : Catalog) (names : List String) (suggestions : List String)
    (similar : Bool) : Prop where
  similar_iff : similar = true ↔ names ≠ []
  first : similar = true → suggestions = names.take 5
  listed : similar = false → suggestions = c.names.take 10

variable {c : Catalog} {names suggestions : List String} {similar : Bool} {text : String}

theorem Suggests.mem_names (h : c.Suggests names suggestions similar) (hnames : names ⊆ c.names) :
    suggestions ⊆ c.names := by
  intro s hs
  cases similar with
  | true =>
    rw [h.first rfl] at hs
    exact hnames (List.mem_of_mem_take hs)
  | false =>
    rw [h.listed rfl] at hs
    exact List.mem_of_mem_take hs

theorem Suggests.eq_nil (h : c.Suggests names suggestions similar) (hnil : suggestions = []) :
    c.fields = [] := by
  cases similar with
  | true =>
    have hnames := h.similar_iff.1 rfl
    rw [h.first rfl, List.take_eq_nil_iff] at hnil
    exact absurd hnil (by simp [hnames])
  | false =>
    rw [h.listed rfl, List.take_eq_nil_iff] at hnil
    simpa [Catalog.names] using hnil

theorem similarTo_subset (c : Catalog) (text : String) : c.similarTo text ⊆ c.names :=
  fun _ hs => List.mem_of_mem_filter hs

theorem holdsCaseless_of_mem_similarTo {name : String} (h : name ∈ c.similarTo text) :
    HoldsCaseless name text :=
  Unicode.holdsCaseless_of_contains (List.mem_filter.1 h).2

theorem similarTo_of_sigmaFree (h : SigmaFree text) :
    c.similarTo text = c.alike text := by
  refine List.filter_congr fun name _ => ?_
  rw [Bool.eq_iff_iff, decide_eq_true_eq]
  exact Unicode.contains_lowercase_iff h

theorem exists_field_of_mem_numericFields {name : String} (h : name ∈ c.numericFields) :
    ∃ f ∈ c.fields, f.declared.isNumeric = true ∧ f.name = name := by
  obtain ⟨f, hf, hname⟩ := List.mem_map.1 h
  obtain ⟨hmem, hnumeric⟩ := List.mem_filter.1 hf
  exact ⟨f, hmem, hnumeric, hname⟩

end Catalog

namespace PlanRequest

variable {c : Catalog} {r : PlanRequest} {e : ValidationError} {field : String}

def withField (r : PlanRequest) (field : String) : PlanRequest := { r with field := some field }

/-! ## Refusals -/

theorem suggests_unknownField (c : Catalog) (field : String) :
    ∃ suggestions similar, unknownField c field = .unknownField field suggestions similar c.size ∧
      c.Suggests (c.similarTo field) suggestions similar := by
  unfold unknownField
  split
  · rename_i hnone
    exact ⟨_, _, rfl, by simp [hnone], nofun, fun _ => rfl⟩
  · rename_i hsome
    exact ⟨_, _, rfl, by simpa using hsome, fun _ => rfl, nofun⟩

/-- The ways in which a request can be refused, with the fields that are named. -/
inductive Refused (c : Catalog) (r : PlanRequest) : ValidationError → Prop
  | unsupported : Refused c r (.unsupportedOperation r.operation)
  | missing : Refused c r (.missingField r.operation)
  | unknown {field : String} {suggestions : List String} {similar : Bool}
      (hfield : r.field = some field) (hcontains : c.contains field = false)
      (hsuggests : c.Suggests (c.similarTo field) suggestions similar) :
      Refused c r (.unknownField field suggestions similar c.size)
  | mismatch {op : NumericOperation} {field declared : String}
      (hop : operationNamed? r.operation = some (.numeric op)) :
      Refused c r (.typeMismatch field declared r.operation (c.numericFields.take maxSimilar))

theorem refused_of_requiredField (h : r.requiredField c = .error e) : r.Refused c e := by
  unfold requiredField at h
  split at h
  · cases h
    exact .missing
  · rename_i field hfield
    split at h
    · cases h
    · rename_i hcontains
      obtain ⟨suggestions, similar, hunknown, hsuggests⟩ := suggests_unknownField c field
      rw [hunknown] at h
      cases h
      exact .unknown hfield (Bool.eq_false_iff.2 hcontains) hsuggests

theorem refused_of_numericField {op : NumericOperation}
    (hop : operationNamed? r.operation = some (.numeric op))
    (h : r.numericField c field = .error e) : r.Refused c e := by
  unfold numericField at h
  split at h
  · split at h <;> cases h
    exact .mismatch hop
  · cases h
    exact .mismatch hop

theorem refused_of_validate (h : r.validate c = .error e) : r.Refused c e := by
  cases hkind : operationNamed? r.operation with
  | none =>
    simp only [validate, operationIn, hkind] at h
    cases h
    exact .unsupported
  | some kind =>
    cases hrequired : r.requiredField c with
    | error fault =>
      cases kind with
      | count => simp [validate, operationIn, hkind] at h
      | groupByCount | filterOnly | numeric op =>
        simp only [validate, operationIn, hkind, hrequired] at h
        cases h
        exact refused_of_requiredField hrequired
    | ok field =>
      cases kind with
      | count | groupByCount | filterOnly => simp [validate, operationIn, hkind, hrequired] at h
      | numeric op =>
        cases hnumeric : r.numericField c field with
        | ok field => simp [validate, operationIn, hkind, hrequired, hnumeric] at h
        | error fault =>
          simp only [validate, operationIn, hkind, hrequired, hnumeric] at h
          cases h
          exact refused_of_numericField hkind hnumeric

/-! ## The next request -/

theorem flaw_of_validate_withField (hfield : field ∈ c.names)
    (h : (r.withField field).validate c = .error e) : e.flaw ≠ .unknownField := by
  cases refused_of_validate h with
  | unsupported | missing | mismatch hop => exact nofun
  | unknown hother hcontains hsuggests =>
    obtain rfl : field = _ := Option.some.inj hother
    rw [(Catalog.contains_iff c field).2 hfield] at hcontains
    cases hcontains

/-- A numeric operation can use every field that the catalog lists as numeric. -/
theorem validate_withField_numeric {op : NumericOperation}
    (hop : operationNamed? r.operation = some (.numeric op)) (hfield : field ∈ c.numericFields) :
    (r.withField field).validate c = .ok ⟨.aggregate op field, r.filter, r.limit⟩ := by
  obtain ⟨f, hf, hnumeric, rfl⟩ := Catalog.exists_field_of_mem_numericFields hfield
  have hfound : c.field? f.name = some f := Catalog.field?_of_mem hf
  have hrequired : (r.withField f.name).requiredField c = .ok f.name :=
    if_pos (by rw [Catalog.contains_eq, hfound]; rfl)
  have husable : (r.withField f.name).numericField c f.name = .ok f.name := by
    rw [numericField, hfound]
    exact if_pos hnumeric
  have hoperation : (r.withField f.name).operationIn c = .ok (.aggregate op f.name) := by
    simp only [operationIn, withField] at hrequired husable ⊢
    simp only [hop, hrequired, husable]
  rw [validate, hoperation]
  rfl

/-- What the fields in a refusal are good for. Suggestions are there unless the catalog is empty,
those called similar do hold the field that was asked for, and none of them is unknown in its place;
a numeric field in its place makes the request a plan. -/
def Helpful (c : Catalog) (r : PlanRequest) : ValidationError → Prop
  | .unknownField field suggestions similar _ =>
    r.field = some field ∧ (suggestions = [] → c.fields = []) ∧
      (similar = true → ∀ s ∈ suggestions, HoldsCaseless s field) ∧
      ∀ s ∈ suggestions, ∀ e, (r.withField s).validate c = .error e → e.flaw ≠ .unknownField
  | .typeMismatch _ _ _ numericFields =>
    ∀ s ∈ numericFields, ∃ p, (r.withField s).validate c = .ok p
  | _ => True

theorem helpful_of_validate (h : r.validate c = .error e) : r.Helpful c e := by
  cases refused_of_validate h with
  | unsupported | missing => trivial
  | @unknown field suggestions similar hfield hcontains hsuggests =>
    refine ⟨hfield, hsuggests.eq_nil, ?_, ?_⟩
    · rintro rfl s hs
      rw [hsuggests.first rfl] at hs
      exact Catalog.holdsCaseless_of_mem_similarTo (List.mem_of_mem_take hs)
    · intro s hs e he
      have hnames := hsuggests.mem_names (c.similarTo_subset field)
      exact flaw_of_validate_withField (hnames hs) he
  | mismatch hop =>
    exact fun s hs => ⟨_, validate_withField_numeric hop (List.mem_of_mem_take hs)⟩

/-- A catalog in which a field with a sigma is missed: its only name differs from the field in the
form of that sigma. -/
theorem exists_misses_of_sigma (h : ¬ SigmaFree field) :
    ∃ records name, (⟨"group_by_count", some field, none, none⟩ : PlanRequest).validate
        (Catalog.ofRecords records) = .error (.unknownField field [name] false 1) ∧
      (Catalog.ofRecords records).alike field ≠ [] := by
  obtain ⟨name, hne, hholds, hmissed⟩ := Unicode.exists_missed_of_sigma h
  let c := Catalog.ofRecords [⟨name, ""⟩]
  have hnames : c.names = [name] := rfl
  have hunknown : ¬ c.contains field = true := by
    rw [Catalog.contains_iff, hnames, List.mem_singleton]
    exact Ne.symm hne
  have hsimilar : c.similarTo field = [] := by
    rw [Catalog.similarTo, hnames]
    exact List.filter_cons_of_neg (by simp [hmissed])
  have halike : c.alike field = [name] := by
    rw [Catalog.alike, hnames]
    exact List.filter_cons_of_pos (by simpa using hholds)
  refine ⟨[⟨name, ""⟩], name, ?_, ?_⟩
  · have hkind : operationNamed? "group_by_count" = some .groupByCount := rfl
    have hreport : unknownField c field = .unknownField field [name] false 1 := by
      rw [unknownField, hsimilar]
      rfl
    rw [← hreport]
    exact validate_of_requiredField hkind (by decide) (if_neg hunknown)
  · rw [halike]
    exact List.cons_ne_nil _ _

/-- The fields that a refusal names are of help, whatever the request and the records of the
catalog. The suggestions for a field are those that are to be made, whatever the records and the
rest of the request, exactly if the field has no sigma in it. -/
theorem validate_suggestions (field : String) :
    (∀ records (r : PlanRequest) e, r.validate (Catalog.ofRecords records) = .error e →
      r.Helpful (Catalog.ofRecords records) e) ∧
    ((∀ records (r : PlanRequest) suggestions similar available,
        r.validate (Catalog.ofRecords records) =
          .error (.unknownField field suggestions similar available) →
        (Catalog.ofRecords records).Suggests ((Catalog.ofRecords records).alike field) suggestions
          similar) ↔
      SigmaFree field) := by
  refine ⟨?_, ?_, ?_⟩
  · intro records r e h
    exact helpful_of_validate h
  · intro hall
    by_contra hsigma
    obtain ⟨records, name, herror, halike⟩ := exists_misses_of_sigma hsigma
    have hsimilar := (hall records _ _ _ _ herror).similar_iff.2 halike
    cases hsimilar
  · intro hfree records r suggestions similar available h
    rw [← Catalog.similarTo_of_sigmaFree hfree]
    cases refused_of_validate h with
    | unknown hfield hcontains hsuggests => exact hsuggests

/-- A request that is helped to the name of its field, and one that is helped to a numeric field. -/
theorem validate_suggestions_prices :
    let c := Catalog.ofRecords [⟨"country", "string"⟩, ⟨"Total_Revenue", "float"⟩]
    let total : PlanRequest := ⟨"sum", some "rev", none, none⟩
    let mean : PlanRequest := ⟨"avg", some "country", none, none⟩
    total.validate c = .error (.unknownField "rev" ["Total_Revenue"] true 2) ∧
      c.Suggests (c.alike "rev") ["Total_Revenue"] true ∧
      (∀ e, (total.withField "Total_Revenue").validate c = .error e → e.flaw ≠ .unknownField) ∧
      mean.validate c = .error (.typeMismatch "country" "string" "avg" ["Total_Revenue"]) ∧
      ∃ p, (mean.withField "Total_Revenue").validate c = .ok p := by
  intro c total mean
  have htotal : total.validate c = .error (.unknownField "rev" ["Total_Revenue"] true 2) := by
    decide +kernel
  have hmean : mean.validate c =
      .error (.typeMismatch "country" "string" "avg" ["Total_Revenue"]) := by
    decide +kernel
  have hfree : SigmaFree "rev" := by decide +kernel
  obtain ⟨hhelp, hexact⟩ := validate_suggestions "rev"
  obtain ⟨-, -, -, hagain⟩ := hhelp _ total _ htotal
  exact ⟨htotal, hexact.2 hfree _ total _ _ _ htotal, hagain _ (.head _), hmean,
    hhelp _ mean _ hmean _ (.head _)⟩

/-- The last letter of `τιμές` is a sigma, and letter case left aside (`Unicode.fold`) it is the one
that is asked for, but it is not found. -/
theorem validate_misses_final_sigma :
    let c := Catalog.ofRecords [⟨"τιμές", "float"⟩]
    let r : PlanRequest := ⟨"sum", some "Σ", none, none⟩
    r.validate c = .error (.unknownField "Σ" ["τιμές"] false 1) ∧
      ¬ c.Suggests (c.alike "Σ") ["τιμές"] false ∧
      "Σ".toList.map Unicode.fold <:+: "τιμές".toList.map Unicode.fold := by
  intro c r
  have hvalidate : r.validate c = .error (.unknownField "Σ" ["τιμές"] false 1) := by
    decide +kernel
  have halike : c.alike "Σ" = ["τιμές"] := by decide +kernel
  refine ⟨hvalidate, ?_, Text.containsChars_iff.1 (by decide +kernel)⟩
  intro h
  have hsimilar := h.similar_iff.2 (by rw [halike]; exact List.cons_ne_nil _ _)
  cases hsimilar

end PlanRequest
end DocAnalytics
