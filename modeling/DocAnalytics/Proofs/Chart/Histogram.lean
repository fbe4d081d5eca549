import DocAnalytics.Proofs.Chart.Batch
import DocAnalytics.Proofs.Chart.Scatter
import DocAnalytics.Proofs.Pipeline.Buckets

/-!
# DocAnalytics.Proofs.Chart.Histogram

The bars of a histogram. A document that has a number in the field (`number?`) is counted in one
bar, and no other document is counted (`run_histogram_conserves`); so a histogram is pruned exactly
if no document has a number.
-/

namespace DocAnalytics
namespace Histogram

open ChartSpec (histogramField)
open Scatter (written)

/-- The number of a document in a field: the field is there, not null and no empty text, and what it
holds begins with a number. -/
def number? (field : String) (d : Document) : Option Binary64.Finite :=
  if Predicate.fieldPresent d true field then
    (d.at? field).bind (Json.coerce? .leadingToken)
  else none

/-- The bars of a histogram over documents: how many each counts, and that all are counted. -/
structure Bars (field : String) (bins : Nat) (docs rows : List Document) (counts : List Nat) :
    Prop where
  atMost : rows.length ≤ bins
  count : rows.map (·.get? "count") = counts.map fun n => some (Json.ofNat n)
  value : rows.map (·.get? "value") = counts.map fun n => some (Json.ofNat n)
  positive : ∀ n ∈ counts, 0 < n
  conserves : counts.sum = docs.countP fun d => (number? field d).isSome

/-! ## Specifications -/

theorem ne_zero_of_readBins {n? : Option Int} {e : ChartError} {bins : Nat}
    (h : (match n?.bind ChartSpec.binsOfInt? with
      | some bins => .ok bins
      | none => .error e : Except ChartError Nat) = .ok bins) : bins ≠ 0 := by
  split at h
  · rename_i bins' hbins
    cases h
    obtain ⟨n, _, hn⟩ := Option.bind_eq_some_iff.1 hbins
    unfold ChartSpec.binsOfInt? at hn
    split at hn
    · cases hn
      omega
    · cases hn
  · cases h

theorem ne_zero_of_binsOf {setting : Option Json} {bins : Nat}
    (h : ChartSpec.binsOf setting = .ok bins) : bins ≠ 0 := by
  have hdefault : ChartSpec.defaultBins ≠ 0 := by decide
  cases setting with
  | none =>
    cases h
    exact hdefault
  | some v =>
    cases v with
    | null =>
      cases h
      exact hdefault
    | number n => exact ne_zero_of_readBins h
    | string s => exact ne_zero_of_readBins h
    | bool b => cases h
    | array items => cases h
    | object members => cases h

theorem ne_zero_of_ofConfig {chartType : String} {config : Document} {field : String} {bins : Nat}
    (h : ChartSpec.ofConfig chartType config = .ok (.histogram field bins)) : bins ≠ 0 := by
  unfold ChartSpec.ofConfig at h
  split at h
  · cases h
  · unfold ChartSpec.ofKind at h
    split at h
    · unfold ChartSpec.histogramOf at h
      split at h
      · cases h
      · split at h
        · cases h
        · rename_i hbins
          cases h
          exact ne_zero_of_binsOf hbins
    · split at h <;> cases h
    · split at h
      · cases h
      · split at h <;> cases h

/-! ## The numbers that reach the buckets -/

theorem at?_apply (f : NumericField) (d : Document) :
    (f.apply d).at? f.target =
      some (written ((d.at? f.source).bind (Json.coerce? f.coercion))) := by
  have hwrite : f.apply d =
      d.setAt f.target (written ((d.at? f.source).bind (Json.coerce? f.coercion))) := by
    unfold NumericField.apply
    cases (d.at? f.source).bind (Json.coerce? f.coercion) <;> rfl
  rw [hwrite]
  exact Document.at?_setSegments_self _ (Path.segments_ne_nil f.target) d

theorem double?_ofFinite (x : Binary64.Finite) : (Json.ofFinite x).double?.isSome = true := by
  obtain ⟨n, _, hn, _⟩ := Json.ofFinite_toDouble x
  rw [hn]
  rfl

/-- The presence tests and the coercion leave the numbers of the documents that have one. -/
theorem numbersOf_selected (field : String) (docs : List Document) :
    Bucket.numbersOf histogramField
        (((docs.filter fun d => [field].all (Predicate.fieldPresent d true)).map
          (NumericField.apply ⟨field, histogramField, .leadingToken⟩)).filter fun row =>
            [histogramField].all (Predicate.fieldPresent row false)) =
      (docs.filterMap (number? field)).map Json.ofFinite := by
  induction docs with
  | nil => rfl
  | cons d docs ih =>
    by_cases hd : Predicate.fieldPresent d true field = true
    · have hrow := at?_apply ⟨field, histogramField, .leadingToken⟩ d
      have hpresent := Scatter.fieldPresent_written hrow
      simp only [List.filter_cons, List.filterMap_cons, List.all_cons, List.all_nil, Bool.and_true,
        hd, if_true, List.map_cons, hpresent, number?] at ih hrow ⊢
      cases hn : (d.at? field).bind (Json.coerce? .leadingToken) with
      | none =>
        simp only [Option.isSome_none, Bool.false_eq_true, if_false]
        exact ih
      | some x =>
        rw [hn] at hrow
        simp only [Option.isSome_some, if_true, Bucket.numbersOf, List.filterMap_cons, hrow,
          written, double?_ofFinite, List.map_cons] at ih ⊢
        rw [ih]
    · have hnone : number? field d = none := if_neg hd
      simp only [List.filter_cons, List.filterMap_cons, hnone, List.all_cons, List.all_nil,
        Bool.and_true, hd] at ih ⊢
      exact ih

/-! ## The bars -/

def bounds : List Projection :=
  [⟨"range", .rangeLabel "_id.min" "_id.max" ChartSpec.boundPlaces⟩,
    .round "min" "_id.min" ChartSpec.boundPlaces,
    .round "max" "_id.max" ChartSpec.boundPlaces]

def columns : List Projection := bounds ++ [.copy "count" "count", .copy "value" "count"]

def slices (field : String) (bins : Nat) (docs : List Document) : List (List Json) :=
  Bucket.slices bins (Bucket.sortValues ((docs.filterMap (number? field)).map Json.ofFinite))

theorem run_histogram (field : String) {bins : Nat} (hbins : bins ≠ 0) (docs : List Document) :
    runPipeline (ChartSpec.histogram field bins).compile docs =
      .ok ((Bucket.rowsOf (slices field bins docs)).map (projectRow columns)) := by
  simp only [ChartSpec.compile, ChartSpec.histogramStages, runPipeline, Stage.run, Stage.nonEmpty,
    Stage.present, Predicate.keep_present, if_neg hbins, Bucket.run, numbersOf_selected]
  rfl

theorem ofList_append_singleton (members : List (String × Json)) (member : String × Json) :
    Document.ofList (members ++ [member]) =
      Document.insert member.1 member.2 (Document.ofList members) := by
  rw [Document.ofList, Keyed.ofList, List.foldl_append]
  rfl

/-- A bar shows its count twice. -/
theorem get?_projectRow {row : Document} {count : Json} (h : row.at? "count" = some count) :
    (projectRow columns row).get? "count" = some count ∧
      (projectRow columns row).get? "value" = some count := by
  have hne : "count" ≠ "value" := by decide
  have hrow : projectRow columns row =
      Document.insert "value" count (Document.insert "count" count (projectRow bounds row)) := by
    have hcolumns : (columns.filterMap fun p => (p.value.valueIn? row).map fun v => (p.name, v)) =
        (bounds.filterMap fun p => (p.value.valueIn? row).map fun v => (p.name, v)) ++
          [("count", count)] ++ [("value", count)] := by
      simp [columns, Projection.copy, Projected.valueIn?, h]
    rw [projectRow, hcolumns, ofList_append_singleton, ofList_append_singleton]
    rfl
  rw [hrow]
  constructor
  · rw [Document.get?, Document.insert, Keyed.get?_insert_of_ne hne]
    exact Keyed.get?_insert_self _ _ _
  · exact Keyed.get?_insert_self _ _ _

theorem map_get?_bars (slices : List (List Json)) :
    let rows := (Bucket.rowsOf slices).map (projectRow columns)
    let counts := (slices.map List.length).map fun n => some (Json.ofNat n)
    rows.map (·.get? "count") = counts ∧ rows.map (·.get? "value") = counts := by
  intro rows counts
  have hcounts : (Bucket.rowsOf slices).map (fun row => row.at? "count") = counts := by
    rw [Bucket.map_count_rowsOf]
    simp only [counts, List.map_map]
    rfl
  have hcounted : ∀ row ∈ Bucket.rowsOf slices, ∃ count, row.at? "count" = some count := by
    intro row hrow
    have hmem : row.at? "count" ∈ counts := hcounts ▸ List.mem_map_of_mem hrow
    obtain ⟨n, _, hn⟩ := List.mem_map.1 hmem
    exact ⟨_, hn.symm⟩
  constructor
  · rw [← hcounts, List.map_map]
    refine List.map_congr_left fun row hrow => ?_
    obtain ⟨count, hcount⟩ := hcounted row hrow
    rw [hcount]
    exact (get?_projectRow hcount).1
  · rw [← hcounts, List.map_map]
    refine List.map_congr_left fun row hrow => ?_
    obtain ⟨count, hcount⟩ := hcounted row hrow
    rw [hcount]
    exact (get?_projectRow hcount).2

theorem bars_of_slices {bins : Nat} (hbins : bins ≠ 0) (field : String) (docs : List Document) :
    Bars field bins docs ((Bucket.rowsOf (slices field bins docs)).map (projectRow columns))
      ((slices field bins docs).map List.length) where
  atMost := by
    have hle := Bucket.length_slices_le bins
      (Bucket.sortValues ((docs.filterMap (number? field)).map Json.ofFinite))
    rw [List.length_map, Bucket.length_rowsOf, slices]
    omega
  count := (map_get?_bars _).1
  value := (map_get?_bars _).2
  positive := by
    intro n hn
    obtain ⟨slice, hslice, rfl⟩ := List.mem_map.1 hn
    exact List.length_pos_iff.2 (Bucket.ne_nil_of_mem_slices hslice)
  conserves := by
    rw [slices, Bucket.sum_length_slices, List.length_map, List.length_filterMap_eq_countP]

theorem rows_eq_nil_iff (field : String) (bins : Nat) (docs : List Document) :
    (Bucket.rowsOf (slices field bins docs)).map (projectRow columns) = [] ↔
      ∀ d ∈ docs, number? field d = none := by
  rw [List.map_eq_nil_iff, ← List.length_eq_zero_iff, Bucket.length_rowsOf,
    List.length_eq_zero_iff, slices, Bucket.slices_eq_nil_iff, ← List.length_eq_zero_iff,
    Bucket.length_sortValues, List.length_map, List.length_eq_zero_iff, List.filterMap_eq_nil_iff]

/-- A histogram has no more bars than it asks for, and they count every document that has a number
once and no other document. Without such a document it has no bars and is removed with all that was
stored for it; with one it stays. -/
theorem run_histogram_conserves {chartType : String} {config : Document} {field : String}
    {bins : Nat} (h : ChartSpec.ofConfig chartType config = .ok (.histogram field bins))
    (docs : List Document) :
    ∃ rows counts, runPipeline (ChartSpec.histogram field bins).compile docs = .ok rows ∧
      Bars field bins docs rows counts ∧
      (rows = [] ↔ ∀ d ∈ docs, number? field d = none) ∧
      ∀ (p : Project) (store : MemoryStore) (id title description displayMode now : String),
        let before := store.put p.data docs
        let chart : ChartRecord := ⟨id, chartType, title, description, displayMode, config⟩
        let ran := p.materializeChart (.willing before) chart now
        (rows = [] → ran.1 = .pruned id ∧ p.Prunes id before ran.2.store) ∧
          (rows ≠ [] → ran.1 = .stored id rows.length) := by
  have hbins := ne_zero_of_ofConfig h
  have hrun := run_histogram field hbins docs
  refine ⟨_, _, hrun, bars_of_slices hbins field docs, rows_eq_nil_iff field bins docs, ?_⟩
  intro p store id title description displayMode now before chart
  have hspec : chart.spec = .ok (.histogram field bins) := h
  have hdata : before.find p.data = docs := MemoryStore.find_put_self store p.data docs
  rw [← hdata] at hrun
  rw [← hdata]
  exact p.materializeChart_of_rows before hspec hrun now

/-- Three of five values are numbers, and the two equal ones share a bar. -/
theorem run_histogram_weights :
    let config := Document.ofList [("field", .string "w"), ("bins", .string " 2 ")]
    let docs := [.string "12 kg", .null, .string "heavy", .string "12", Json.ofNat 7].map fun v =>
      Document.ofList [("w", v)]
    ChartSpec.ofConfig " Histogram" config = .ok (.histogram "w" 2) ∧
      ∃ rows counts, runPipeline (ChartSpec.histogram "w" 2).compile docs = .ok rows ∧
        Bars "w" 2 docs rows counts ∧ counts.sum = 3 := by
  intro config docs
  have h : ChartSpec.ofConfig " Histogram" config = .ok (.histogram "w" 2) := by decide +kernel
  obtain ⟨rows, counts, hrun, hbars, _⟩ := run_histogram_conserves h docs
  have hthree : (docs.countP fun d => (number? "w" d).isSome) = 3 := by decide +kernel
  exact ⟨h, rows, counts, hrun, hbars, hbars.conserves.trans hthree⟩

end Histogram
end DocAnalytics
