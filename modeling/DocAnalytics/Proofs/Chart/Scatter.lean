import DocAnalytics.Chart.Compile
import DocAnalytics.Proofs.Binary64.Exact
import DocAnalytics.Proofs.Path.ReadWrite
import DocAnalytics.Proofs.Path.Segments
import DocAnalytics.Proofs.Pipeline.Rows
import Mathlib.Data.List.Basic

/-!
# DocAnalytics.Proofs.Chart.Scatter

The points of a scatter plot. A document has a point (`point?`) if both of its axes are there and
read as numbers. The pipeline writes the number of each axis into a field of the document itself,
so the first write can hide what the second axis reads, and the second write what the first one
wrote. `AxesApart` says when a document is safe from that, and `run_scatter_iff` that a list of
documents is plotted faithfully, together with all its parts, exactly if all of them are.
-/

namespace DocAnalytics
namespace Scatter

open ChartSpec (axisField maxPoints)
open DocAnalytics.Path (segments)

def rawNumber? (field : String) (d : Document) : Option Binary64.Finite :=
  (d.at? field).bind (Json.coerce? .compact)

/-- The number of a document on an axis: the field is there, not null and no empty text, and what
it holds reads as a number. -/
def number? (field : String) (d : Document) : Option Binary64.Finite :=
  if Predicate.fieldPresent d true field then rawNumber? field d else none

/-- The point of a document: the number of each axis under the name of its field. -/
def point? (x y : String) (d : Document) : Option Document :=
  match number? x d, number? y d with
  | some a, some b => some (Document.ofList [(x, Json.ofFinite a), (y, Json.ofFinite b)])
  | _, _ => none

/-- The points of a list of documents, as many as a plot has room for. -/
def points (x y : String) (docs : List Document) : List Document :=
  (docs.filterMap (point? x y)).take maxPoints

/-- Whether the numbers written for the two axes of a document stay out of each other's way.

If `y` is the very field that the number of `x` is written to, then that number has to be the one
that `y` holds anyway. Otherwise, and if there are two numbers to plot, the field written for `x`
is not on the way to `y`, the field written for `y` is not on the way to `x`, and the paths of `x`
and `y` do not lead through an array together, for the first write replaces it by an object. -/
def AxesApart (x y : String) (d : Document) : Prop :=
  if y = axisField x then
    ∀ a, number? x d = some a → Predicate.fieldPresent d true y = true →
      (number? y d).map Json.ofFinite = some (Json.ofFinite a)
  else
    number? x d ≠ none → number? y d ≠ none →
      ¬ segments (axisField x) <+: segments y ∧
      (segments (axisField y) <+: segments x → segments (axisField y) = segments x) ∧
      ∀ c, c ≠ [] → c <+: segments x → c <+: segments y →
        ∀ items, Json.at? c (.object d) ≠ some (.array items)

/-! ## What the stages do to one document -/

def written : Option Binary64.Finite → Json
  | some a => Json.ofFinite a
  | none => .null

/-- The document with the number of an axis written into its field. -/
def withNumber (field : String) (d : Document) : Document :=
  d.setAt (axisField field) (written (rawNumber? field d))

/-- What the stages up to the limit make of a document. -/
def plotted? (x y : String) (d : Document) : Option Document :=
  let e := withNumber y (withNumber x d)
  if [x, y].all (Predicate.fieldPresent d true) &&
      [axisField x, axisField y].all (Predicate.fieldPresent e false) then
    some (projectRow [.copy x (axisField x), .copy y (axisField y)] e)
  else none

theorem apply_eq_withNumber (field : String) (d : Document) :
    NumericField.apply ⟨field, axisField field, .compact⟩ d = withNumber field d := by
  unfold NumericField.apply withNumber rawNumber?
  cases (d.at? field).bind (Json.coerce? .compact) <;> rfl

theorem run_scatter (x y : String) (docs : List Document) :
    runPipeline (ChartSpec.scatter x y).compile docs =
      .ok ((docs.filterMap (plotted? x y)).take maxPoints) := by
  have hfilterMap : ((((docs.filter fun d => [x, y].all (Predicate.fieldPresent d true)).map
      (withNumber x)).map (withNumber y)).filter fun e =>
        [axisField x, axisField y].all (Predicate.fieldPresent e false)).map
          (projectRow [.copy x (axisField x), .copy y (axisField y)]) =
      docs.filterMap (plotted? x y) := by
    induction docs with
    | nil => rfl
    | cons d docs ih =>
      rw [List.filter_cons, List.filterMap_cons, ← ih, plotted?]
      by_cases hd : [x, y].all (Predicate.fieldPresent d true) = true
      · rw [if_pos hd, hd, List.map_cons, List.map_cons, List.filter_cons, Bool.true_and]
        split <;> rfl
      · rw [if_neg hd, Bool.eq_false_iff.2 hd]
        rfl
  rw [← hfilterMap]
  simp only [ChartSpec.compile, ChartSpec.scatterStages, runPipeline, Stage.run, Stage.nonEmpty,
    Stage.present, Predicate.keep_present]
  simp only [List.map_congr_left fun d _ => apply_eq_withNumber _ d]

/-! ## Numbers and the values they are read from -/

/-- Neither an object nor an array: a value on which no path goes on. -/
def IsLeaf (v : Json) : Prop := (∀ m, v ≠ .object m) ∧ ∀ items, v ≠ .array items

theorem isLeaf_written (n : Option Binary64.Finite) : IsLeaf (written n) := by
  cases n with
  | none => simp [IsLeaf, written]
  | some a =>
    obtain ⟨n, _, hn, _⟩ := Json.ofFinite_toDouble a
    simp [IsLeaf, written, hn]

theorem at?_of_isLeaf {v : Json} (hv : IsLeaf v) {qs : List String} (hq : qs ≠ []) :
    Json.at? qs v = none := by
  cases h : Json.at? qs v with
  | none => rfl
  | some w =>
    rcases Json.object_or_array_of_at? hq h with ⟨m, hm⟩ | ⟨items, hitems⟩
    · exact absurd hm (hv.1 m)
    · exact absurd hitems (hv.2 items)

theorem exists_of_rawNumber? {field : String} {d : Document} {a : Binary64.Finite}
    (h : rawNumber? field d = some a) : ∃ v, d.at? field = some v ∧ IsLeaf v := by
  obtain ⟨v, hv, ha⟩ := Option.bind_eq_some_iff.1 h
  refine ⟨v, hv, ?_, ?_⟩
  · rintro m rfl
    cases ha
  · rintro items rfl
    cases ha

theorem number?_of_present {field : String} {d : Document}
    (h : Predicate.fieldPresent d true field = true) : number? field d = rawNumber? field d := by
  rw [number?, if_pos h]

theorem number?_of_absent {field : String} {d : Document}
    (h : Predicate.fieldPresent d true field = false) : number? field d = none := by
  simp [number?, h]

/-- A field that was just written is present if a number was written. -/
theorem fieldPresent_written {d : Document} {field : String} {n : Option Binary64.Finite}
    (h : d.at? field = some (written n)) : Predicate.fieldPresent d false field = n.isSome := by
  cases n with
  | none => simp [Predicate.fieldPresent, Document.isPresent, Json.isNull, h, written]
  | some a =>
    obtain ⟨m, _, hm, _⟩ := Json.ofFinite_toDouble a
    simp [Predicate.fieldPresent, Document.isPresent, Json.isNull, h, written, hm]

/-! ## What a write leaves of the other fields -/

theorem segments_axisField (field : String) :
    ∃ init last, segments field = init ++ [last] ∧
      segments (axisField field) = init ++ [last ++ "_numeric"] :=
  Path.segments_append field (by decide)

theorem axisField_ne_self (field : String) : axisField field ≠ field := by
  intro h
  have hlen := congrArg String.length h
  simp [axisField] at hlen

/-- What leads to the field written for an axis, short of it, leads on to the axis. -/
theorem exists_append_of_prefix_axisField {c : List String} {field : String}
    (h : c <+: segments (axisField field)) (hne : c ≠ segments (axisField field)) :
    ∃ rest, rest ≠ [] ∧ segments field = c ++ rest := by
  obtain ⟨init, last, hf, ha⟩ := segments_axisField field
  rw [ha] at h hne
  rw [hf]
  exact Path.exists_rest_of_sibling h hne

/-- What leads to an axis, short of it, leads on to the field written for it. -/
theorem exists_append_axisField_of_prefix {c : List String} {field : String}
    (h : c <+: segments field) (hne : c ≠ segments field) :
    ∃ rest, rest ≠ [] ∧ segments (axisField field) = c ++ rest := by
  obtain ⟨init, last, hf, ha⟩ := segments_axisField field
  rw [hf] at h hne
  rw [ha]
  exact Path.exists_rest_of_sibling h hne

theorem axisField_injective {x y : String} (h : axisField x = axisField y) : x = y := by
  have hchars := congrArg String.toList h
  simp only [axisField, String.toList_append] at hchars
  exact String.toList_inj.1 (List.append_cancel_right hchars)

/-- An axis and the field written for it stand side by side. -/
theorem fork_axisField (field : String) :
    Path.Fork (segments field) (segments (axisField field)) := by
  obtain ⟨init, last, hf, ha⟩ := segments_axisField field
  have hlen : (segments field).length = (segments (axisField field)).length := by
    rw [hf, ha, List.length_append, List.length_append]
    rfl
  refine ⟨fun h => ?_, fun h => ?_⟩
  · exact axisField_ne_self field (Path.segments_injective (h.eq_of_length hlen)).symm
  · exact axisField_ne_self field (Path.segments_injective (h.eq_of_length hlen.symm))

theorem at?_withNumber (field other : String) (d : Document) :
    (withNumber field d).at? other = Json.at? (segments other) (.object
      (Document.setSegments (written (rawNumber? field d)) (segments (axisField field)) d)) := rfl

theorem at?_withNumber_self (field : String) (d : Document) :
    (withNumber field d).at? (axisField field) = some (written (rawNumber? field d)) :=
  Document.at?_setSegments_self _ (Path.segments_ne_nil _) d

/-- Nothing stands beyond a number. -/
theorem at?_withNumber_of_beyond {field other : String} (d : Document)
    (h : segments (axisField field) <+: segments other)
    (hne : segments (axisField field) ≠ segments other) :
    (withNumber field d).at? other = none := by
  obtain ⟨rest, hnil, hrest⟩ := Path.exists_rest h hne
  rw [at?_withNumber, ← hrest, Document.at?_setSegments_append _ (Path.segments_ne_nil _)]
  exact at?_of_isLeaf (isLeaf_written _) hnil

/-- A field on the way to the written one holds an object from then on. -/
theorem rawNumber?_withNumber_of_before {field other : String} (d : Document)
    (h : segments other <+: segments (axisField field))
    (hne : segments other ≠ segments (axisField field)) :
    rawNumber? other (withNumber field d) = none := by
  obtain ⟨rest, hnil, hrest⟩ := Path.exists_rest h hne
  obtain ⟨m, hm⟩ := Document.at?_setSegments_prefix (written (rawNumber? field d))
    (Path.segments_ne_nil other) hnil d
  rw [rawNumber?, at?_withNumber, ← hrest, hm]
  rfl

/-- A field on the way to the written one held no number before. -/
theorem rawNumber?_of_before {field other : String} {d : Document}
    (h : segments other <+: segments (axisField field))
    (hne : segments other ≠ segments (axisField field)) (hd : ∃ v, d.at? field = some v) :
    rawNumber? other d = none := by
  obtain ⟨rest, hnil, hrest⟩ := exists_append_of_prefix_axisField h hne
  obtain ⟨v, hv⟩ := hd
  rw [Document.at?, hrest, Json.at?_append] at hv
  obtain ⟨w, hw, hv⟩ := Option.bind_eq_some_iff.1 hv
  cases hn : rawNumber? other d with
  | none => rfl
  | some a =>
    obtain ⟨w', hw', hleaf⟩ := exists_of_rawNumber? hn
    rw [Document.at?, hw] at hw'
    cases hw'
    rw [at?_of_isLeaf hleaf hnil] at hv
    cases hv

theorem rawNumber?_withNumber {x y : String} {d : Document} (hd : ∃ v, d.at? x = some v)
    (hy : ¬ segments (axisField x) <+: segments y)
    (harr : ∀ c, c ≠ [] → c <+: segments x → c <+: segments y →
      ∀ items, Json.at? c (.object d) ≠ some (.array items)) :
    rawNumber? y (withNumber x d) = rawNumber? y d := by
  by_cases hbefore : segments y <+: segments (axisField x)
  · have hne : segments y ≠ segments (axisField x) := fun h => hy (h ▸ List.prefix_rfl)
    rw [rawNumber?_withNumber_of_before d hbefore hne, rawNumber?_of_before hbefore hne hd]
  · have hclear : Document.ClearWay (segments (axisField x)) (segments y) d := by
      intro c hc hcx hcy v hv
      have hne : c ≠ segments (axisField x) := fun h => hy (h ▸ hcy)
      obtain ⟨rest, hnil, hrest⟩ := exists_append_of_prefix_axisField hcx hne
      obtain ⟨w, hw⟩ := hd
      rw [Document.at?, hrest, Json.at?_append, hv] at hw
      rcases Json.object_or_array_of_at? hnil hw with hm | ⟨items, rfl⟩
      · exact hm
      · exact absurd hv (harr c hc (hrest ▸ List.prefix_append c rest) hcy items)
    rw [rawNumber?, at?_withNumber, Document.at?_setSegments_of_clear _ ⟨hy, hbefore⟩ hclear]
    rfl

/-- An array that leads to both axes is gone after the first write, and the second axis with it. -/
theorem at?_withNumber_of_array {x y : String} {d : Document} {a b : Binary64.Finite}
    (hx : rawNumber? x d = some a) (hy : rawNumber? y d = some b)
    (hne : segments (axisField x) ≠ segments y) {c : List String} (hc : c ≠ [])
    (hcx : c <+: segments x) (hcy : c <+: segments y) {items : List Json}
    (harr : Json.at? c (.object d) = some (.array items)) : (withNumber x d).at? y = none := by
  obtain ⟨v, hv, hleaf⟩ := exists_of_rawNumber? hx
  have hcx' : c <+: segments (axisField x) := by
    have hne' : c ≠ segments x := by
      intro h
      rw [Document.at?, ← h, harr] at hv
      cases hv
      exact hleaf.2 items rfl
    obtain ⟨rest, _, hrest⟩ := exists_append_axisField_of_prefix hcx hne'
    exact ⟨rest, hrest.symm⟩
  by_cases hbeyond : segments (axisField x) <+: segments y
  · exact at?_withNumber_of_beyond d hbeyond hne
  · have hbefore : ¬ segments y <+: segments (axisField x) := by
      intro h
      rw [rawNumber?_of_before h (Ne.symm hne) ⟨v, hv⟩] at hy
      cases hy
    rw [at?_withNumber]
    exact Document.at?_setSegments_of_blocked _ ⟨hbeyond, hbefore⟩ hc hcx' hcy harr
      fun _ h => by cases h

/-- The first write takes the number of the other axis away or leaves it alone. -/
theorem rawNumber?_withNumber_eq_or {x y : String} (d : Document)
    (hne : segments (axisField x) ≠ segments y) :
    rawNumber? y (withNumber x d) = none ∨ rawNumber? y (withNumber x d) = rawNumber? y d := by
  by_cases hbeyond : segments (axisField x) <+: segments y
  · left
    rw [rawNumber?, at?_withNumber_of_beyond d hbeyond hne]
    rfl
  · by_cases hbefore : segments y <+: segments (axisField x)
    · exact .inl (rawNumber?_withNumber_of_before d hbefore (Ne.symm hne))
    · by_cases hclear : Document.ClearWay (segments (axisField x)) (segments y) d
      · right
        rw [rawNumber?, at?_withNumber,
          Document.at?_setSegments_of_clear _ ⟨hbeyond, hbefore⟩ hclear]
        rfl
      · left
        simp only [Document.ClearWay, Classical.not_forall] at hclear
        obtain ⟨c, hc, hcx, hcy, v, hv, ho⟩ := hclear
        rw [rawNumber?, at?_withNumber, Document.at?_setSegments_of_blocked _ ⟨hbeyond, hbefore⟩
          hc hcx hcy hv fun m hm => ho ⟨m, hm⟩]
        rfl

/-- The second write leaves the field of the first axis alone where the two fork. -/
theorem at?_axisField_withNumber_of_fork {x y : String} (d : Document)
    (hfork : Path.Fork (segments (axisField x)) (segments (axisField y))) :
    (withNumber y (withNumber x d)).at? (axisField x) = some (written (rawNumber? x d)) := by
  have hclear := Document.clearWay_setSegments (written (rawNumber? x d)) hfork d
  exact (Document.at?_setSegments_of_clear _ hfork.symm hclear.symm).trans (at?_withNumber_self x d)

/-- The field of the first axis after the second write, if that wrote a number. -/
theorem at?_axisField_withNumber {x y : String} {d : Document} {b : Binary64.Finite}
    (hb : rawNumber? y (withNumber x d) = some b) :
    let field := (withNumber y (withNumber x d)).at? (axisField x)
    (x = y ∧ field = some (written (some b))) ∨
      ((∃ rest, rest ≠ [] ∧ segments x = segments (axisField y) ++ rest) ∧ field = none) ∨
      field = some (written (rawNumber? x d)) := by
  intro field
  by_cases heq : segments (axisField y) = segments (axisField x)
  · have hxy : x = y := axisField_injective (Path.segments_injective heq).symm
    subst hxy
    refine .inl ⟨rfl, ?_⟩
    rw [← hb]
    exact at?_withNumber_self x _
  · right
    by_cases hbeyond : segments (axisField y) <+: segments (axisField x)
    · exact .inl ⟨exists_append_of_prefix_axisField hbeyond heq,
        at?_withNumber_of_beyond _ hbeyond heq⟩
    · right
      have hbefore : ¬ segments (axisField x) <+: segments (axisField y) := by
        intro h
        obtain ⟨rest, hnil, hrest⟩ := exists_append_of_prefix_axisField h (Ne.symm heq)
        have hne : segments (axisField x) ≠ segments y := by
          rw [hrest]
          simpa using hnil
        rw [rawNumber?, at?_withNumber_of_beyond d (hrest ▸ List.prefix_append _ rest) hne] at hb
        cases hb
      exact at?_axisField_withNumber_of_fork d ⟨hbefore, hbeyond⟩

/-! ## The plotted row of a document -/

theorem plotted?_of_absent {x y : String} {d : Document}
    (h : Predicate.fieldPresent d true x = false ∨ Predicate.fieldPresent d true y = false) :
    plotted? x y d = none := by
  rcases h with h | h <;> simp [plotted?, h]

theorem plotted?_of_second_none {x y : String} {d : Document}
    (h : rawNumber? y (withNumber x d) = none) : plotted? x y d = none := by
  have hfield := fieldPresent_written (at?_withNumber_self y (withNumber x d))
  simp [plotted?, hfield, h]

theorem plotted?_of_first_none {x y : String} {d : Document}
    (h : (withNumber y (withNumber x d)).at? (axisField x) = none) : plotted? x y d = none := by
  simp [plotted?, Predicate.fieldPresent, Document.isPresent, h]

/-- The row of a document of which both written fields could be read. -/
theorem plotted?_of_written {x y : String} {d : Document}
    (hx : Predicate.fieldPresent d true x = true) (hy : Predicate.fieldPresent d true y = true)
    {n : Option Binary64.Finite} {b : Binary64.Finite}
    (hn : (withNumber y (withNumber x d)).at? (axisField x) = some (written n))
    (hb : rawNumber? y (withNumber x d) = some b) :
    plotted? x y d =
      n.map fun a => Document.ofList [(x, Json.ofFinite a), (y, Json.ofFinite b)] := by
  have hself := at?_withNumber_self y (withNumber x d)
  rw [hb] at hself
  have hfirst := fieldPresent_written hn
  have hsecond := fieldPresent_written hself
  cases n with
  | none => simp [plotted?, hfirst]
  | some a =>
    simp [plotted?, hx, hy, hfirst, hsecond, projectRow, Projection.copy, Projected.valueIn?, hn,
      hself, written]

theorem point?_of_absent {x y : String} {d : Document}
    (h : Predicate.fieldPresent d true x = false ∨ Predicate.fieldPresent d true y = false) :
    point? x y d = none := by
  rcases h with h | h
  · rw [point?, number?_of_absent h]
  · rw [point?, number?_of_absent h]
    cases number? x d <;> rfl

theorem axesApart_of_absent {x y : String} {d : Document}
    (h : Predicate.fieldPresent d true x = false ∨ Predicate.fieldPresent d true y = false) :
    AxesApart x y d := by
  unfold AxesApart
  rcases h with h | h
  · have hx := number?_of_absent h
    split
    · intro a ha
      rw [hx] at ha
      cases ha
    · intro hne
      exact absurd hx hne
  · split
    · intro a _ hy
      rw [h] at hy
      cases hy
    · intro _ hne
      exact absurd (number?_of_absent h) hne

section Row

variable {x y : String} {d : Document}

/-- The second axis reads what was written for the first one. -/
theorem plotted?_eq_point?_iff_of_same (hy : y = axisField x)
    (hpx : Predicate.fieldPresent d true x = true)
    (hpy : Predicate.fieldPresent d true y = true) :
    plotted? x y d = point? x y d ↔ ∀ a, rawNumber? x d = some a →
      (rawNumber? y d).map Json.ofFinite = some (Json.ofFinite a) := by
  have hfork : Path.Fork (segments (axisField x)) (segments (axisField y)) :=
    hy ▸ fork_axisField (axisField x)
  have hself : (withNumber x d).at? y = some (written (rawNumber? x d)) :=
    hy ▸ at?_withNumber_self x d
  have hpoint : point? x y d = (rawNumber? x d).bind fun a => (rawNumber? y d).map fun b =>
      Document.ofList [(x, Json.ofFinite a), (y, Json.ofFinite b)] := by
    rw [point?, number?_of_present hpx, number?_of_present hpy]
    cases rawNumber? x d <;> cases rawNumber? y d <;> rfl
  cases hx : rawNumber? x d with
  | none =>
    have hsecond : rawNumber? y (withNumber x d) = none := by
      rw [rawNumber?, hself, hx]
      rfl
    rw [plotted?_of_second_none hsecond, hpoint, hx]
    simp
  | some a =>
    obtain ⟨b, hb, hba⟩ := Json.coerce?_ofFinite .compact a
    have hsecond : rawNumber? y (withNumber x d) = some b := by
      rw [rawNumber?, hself, hx]
      exact hb
    have hfirst := at?_axisField_withNumber_of_fork d hfork
    rw [hx] at hfirst
    rw [plotted?_of_written hpx hpy hfirst hsecond, hpoint, hx, hba]
    have hne : x ≠ y := fun h => axisField_ne_self x (hy ▸ h.symm)
    cases hr : rawNumber? y d with
    | none => simp
    | some b' =>
      simp only [Option.map_some, Option.bind_some, Option.some.injEq]
      constructor
      · intro h a' ha'
        have hget := congrArg (fun row => Document.get? row y) h
        simp only [Document.ofList, Keyed.ofList, List.foldl, Document.get?,
          Keyed.get?_insert_self, Option.some.injEq] at hget
        rw [← ha', hget]
      · intro h
        rw [h a rfl]

/-- Without two numbers there is neither a point nor a row. -/
theorem plotted?_of_unreadable (hy : y ≠ axisField x)
    (hpx : Predicate.fieldPresent d true x = true) (hpy : Predicate.fieldPresent d true y = true)
    (h : rawNumber? x d = none ∨ rawNumber? y d = none) : plotted? x y d = none := by
  have hne : segments (axisField x) ≠ segments y := fun he => hy (Path.segments_injective he).symm
  cases hb : rawNumber? y (withNumber x d) with
  | none => exact plotted?_of_second_none hb
  | some b =>
    rcases rawNumber?_withNumber_eq_or d hne with hlost | hkept
    · rw [hlost] at hb
      cases hb
    · -- the second axis has a number of its own, so the first one has none
      have hyd : rawNumber? y d = some b := hkept.symm.trans hb
      have hxd : rawNumber? x d = none := by
        rcases h with h | h
        · exact h
        · rw [hyd] at h
          cases h
      rcases at?_axisField_withNumber hb with ⟨hxy, _⟩ | ⟨_, hnone⟩ | hwritten
      · rw [hxy, hyd] at hxd
        cases hxd
      · exact plotted?_of_first_none hnone
      · rw [hxd] at hwritten
        exact plotted?_of_written hpx hpy hwritten hb

/-- The second axis reads a field of its own. -/
theorem plotted?_eq_some_iff (hy : y ≠ axisField x)
    (hpx : Predicate.fieldPresent d true x = true) (hpy : Predicate.fieldPresent d true y = true)
    {a b : Binary64.Finite} (hxd : rawNumber? x d = some a) (hyd : rawNumber? y d = some b) :
    plotted? x y d = some (Document.ofList [(x, Json.ofFinite a), (y, Json.ofFinite b)]) ↔
      ¬ segments (axisField x) <+: segments y ∧
      (segments (axisField y) <+: segments x → segments (axisField y) = segments x) ∧
      ∀ c, c ≠ [] → c <+: segments x → c <+: segments y →
        ∀ items, Json.at? c (.object d) ≠ some (.array items) := by
  have hne : segments (axisField x) ≠ segments y := fun he => hy (Path.segments_injective he).symm
  constructor
  · intro hrow
    refine ⟨fun hbeyond => ?_, fun hbeyond => ?_, fun c hc hcx hcy items harr => ?_⟩
    · have hlost : rawNumber? y (withNumber x d) = none := by
        rw [rawNumber?, at?_withNumber_of_beyond d hbeyond hne]
        rfl
      rw [plotted?_of_second_none hlost] at hrow
      cases hrow
    · by_cases heq : segments (axisField y) = segments x
      · exact heq
      · obtain ⟨rest, hnil, hrest⟩ := exists_append_axisField_of_prefix hbeyond heq
        have hstrict : segments (axisField y) ≠ segments (axisField x) := by
          rw [hrest]
          simpa using hnil
        rw [plotted?_of_first_none
          (at?_withNumber_of_beyond _ (hrest ▸ List.prefix_append _ rest) hstrict)] at hrow
        cases hrow
    · have hlost : rawNumber? y (withNumber x d) = none := by
        rw [rawNumber?, at?_withNumber_of_array hxd hyd hne hc hcx hcy harr]
        rfl
      rw [plotted?_of_second_none hlost] at hrow
      cases hrow
  · rintro ⟨hbeyond, hback, harr⟩
    obtain ⟨v, hv, _⟩ := exists_of_rawNumber? hxd
    have hb : rawNumber? y (withNumber x d) = some b := by
      rw [rawNumber?_withNumber ⟨v, hv⟩ hbeyond harr, hyd]
    rcases at?_axisField_withNumber hb with ⟨hxy, hfirst⟩ | ⟨⟨rest, hnil, hrest⟩, _⟩ | hfirst
    · -- one field for both axes
      subst hxy
      have hab : a = b := Option.some.inj (hxd.symm.trans hyd)
      subst hab
      exact plotted?_of_written hpx hpy hfirst hb
    · have heq := hback (hrest ▸ List.prefix_append _ rest)
      rw [heq] at hrest
      exact absurd (List.self_eq_append_right.1 hrest) hnil
    · rw [hxd] at hfirst
      exact plotted?_of_written hpx hpy hfirst hb

theorem plotted?_eq_point?_iff (x y : String) (d : Document) :
    plotted? x y d = point? x y d ↔ AxesApart x y d := by
  cases hpx : Predicate.fieldPresent d true x with
  | false =>
    rw [plotted?_of_absent (.inl hpx), point?_of_absent (.inl hpx)]
    simp [axesApart_of_absent (.inl hpx)]
  | true =>
    cases hpy : Predicate.fieldPresent d true y with
    | false =>
      rw [plotted?_of_absent (.inr hpy), point?_of_absent (.inr hpy)]
      simp [axesApart_of_absent (.inr hpy)]
    | true =>
      rw [AxesApart, number?_of_present hpx, number?_of_present hpy]
      by_cases hy : y = axisField x
      · rw [if_pos hy, plotted?_eq_point?_iff_of_same hy hpx hpy]
        simp [hpy]
      · rw [if_neg hy, point?, number?_of_present hpx, number?_of_present hpy]
        cases hxd : rawNumber? x d with
        | none => simp [plotted?_of_unreadable hy hpx hpy (.inl hxd)]
        | some a =>
          cases hyd : rawNumber? y d with
          | none => simp [plotted?_of_unreadable hy hpx hpy (.inr hyd)]
          | some b =>
            rw [plotted?_eq_some_iff hy hpx hpy hxd hyd]
            simp

end Row

/-- A list of documents and all its parts are plotted point by point exactly if no document has axes
in each other's way. -/
theorem run_scatter_iff (x y : String) (docs : List Document) :
    (∀ part : List Document, part.Sublist docs →
      runPipeline (ChartSpec.scatter x y).compile part = .ok (points x y part)) ↔
        ∀ d ∈ docs, AxesApart x y d := by
  constructor
  · intro h d hd
    have hrun := h [d] (List.singleton_sublist.2 hd)
    rw [run_scatter, points, Except.ok.injEq] at hrun
    apply (plotted?_eq_point?_iff x y d).1
    cases hp : plotted? x y d <;> cases hq : point? x y d <;> simp_all [maxPoints]
  · intro h part hpart
    have hcongr : part.filterMap (plotted? x y) = part.filterMap (point? x y) :=
      List.filterMap_congr fun d hd => (plotted?_eq_point?_iff x y d).2 (h d (hpart.subset hd))
    rw [run_scatter, hcongr, points]

/-- Both axes in one array: the first number takes the place of the array, and the plot is empty. -/
theorem run_scatter_loses_array :
    let config := Document.ofList [("x_axis", .string "a.0"), ("y_axis", .string "a.1")]
    let d := Document.ofList [("a", .array [Json.ofNat 1, Json.ofNat 2])]
    ChartSpec.ofConfig "scatter_plot" config = .ok (.scatter "a.0" "a.1") ∧
      runPipeline (ChartSpec.scatter "a.0" "a.1").compile [d] = .ok [] ∧
      points "a.0" "a.1" [d] =
        [Document.ofList [("a.0", Json.ofNat 1), ("a.1", Json.ofNat 2)]] := by
  decide +kernel

end Scatter
end DocAnalytics
