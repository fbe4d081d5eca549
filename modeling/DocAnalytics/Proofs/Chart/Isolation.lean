import DocAnalytics.Proofs.Chart.Batch

/-!
# DocAnalytics.Proofs.Chart.Isolation

Projects are kept apart by the names of their collections, an identity with one of four tails. The
tails are apart but for one pair: `_cleaned_data` is `_cleaned` in front of `_data`. So two projects
share a collection exactly if one identity is the other with `_cleaned` behind it
(`names_apart_iff`), and materializing the charts of a project leaves those of another project alone
unless that one is the longer of the two (`isolated_iff`).
-/

namespace DocAnalytics
namespace Project

/-- What the names of the collections of a project end with. -/
def tails : List String := ["_data", "_cleaned_dt", "_charts", "_cleaned_data"]

def names (p : Project) : List String := [p.data, p.schema, p.charts, p.materialized]

/-- Materializing the charts of one project leaves the collections of another one as they are,
whatever the store holds and whichever calls it refuses. -/
def Spares (p q : Project) : Prop :=
  ∀ (store : MemoryStore) (refused : List StoreCall) (now : String), ∀ name ∈ q.names,
    Keyed.get? (p.materialize (.refusing store refused) now).2.store.collections name =
      Keyed.get? store.collections name

/-! ## Names with tails -/

theorem mem_names_iff {p : Project} {name : String} :
    name ∈ p.names ↔ ∃ tail ∈ tails, name = p.id ++ tail := by
  simp [names, tails, data, schema, charts, materialized]

/-- One of two equal names has the longer tail, and the part that this tail has more belongs to the
other identity. -/
theorem exists_part_of_append_eq {id other tail ending : String}
    (h : id ++ tail = other ++ ending) :
    (∃ part, other = id ++ part ∧ tail = part ++ ending) ∨
      ∃ part, id = other ++ part ∧ ending = part ++ tail := by
  have hchars := congrArg String.toList h
  rw [String.toList_append, String.toList_append, List.append_eq_append_iff] at hchars
  rcases hchars with ⟨part, hother, htail⟩ | ⟨part, hid, hend⟩
  · refine .inl ⟨String.ofList part, String.toList_inj.1 ?_, String.toList_inj.1 ?_⟩
    · rw [String.toList_append, String.toList_ofList, hother]
    · rw [String.toList_append, String.toList_ofList, htail]
  · refine .inr ⟨String.ofList part, String.toList_inj.1 ?_, String.toList_inj.1 ?_⟩
    · rw [String.toList_append, String.toList_ofList, hid]
    · rw [String.toList_append, String.toList_ofList, hend]

/-- Of two different tails one ends with the other only if they are `_cleaned_data` and `_data`. -/
theorem eq_cleaned_of_tail {tail ending part : String} (htail : tail ∈ tails)
    (hend : ending ∈ tails) (h : tail = part ++ ending) :
    part = "" ∨ part = "_cleaned" ∧ tail = "_cleaned_data" ∧ ending = "_data" := by
  have hsuffix : ending.toList <:+ tail.toList := ⟨part.toList, by rw [h, String.toList_append]⟩
  have hpairs : ∀ t ∈ tails, ∀ e ∈ tails, e.toList <:+ t.toList →
      t = e ∨ t = "_cleaned_data" ∧ e = "_data" := by decide
  rcases hpairs tail htail ending hend hsuffix with rfl | ⟨rfl, rfl⟩
  · refine .inl ((String.append_left_inj tail).1 ?_)
    rw [← h, String.empty_append]
  · refine .inr ⟨(String.append_left_inj "_data").1 ?_, rfl, rfl⟩
    rw [← h]
    rfl

variable {p q : Project}

/-- Two projects give one name only where the rows of one are the dataset of the other. -/
theorem name_eq_name_iff (hne : p.id ≠ q.id) {tail ending : String} (htail : tail ∈ tails)
    (hend : ending ∈ tails) : p.id ++ tail = q.id ++ ending ↔
      (q.id = p.id ++ "_cleaned" ∧ tail = "_cleaned_data" ∧ ending = "_data") ∨
        (p.id = q.id ++ "_cleaned" ∧ tail = "_data" ∧ ending = "_cleaned_data") := by
  constructor
  · intro h
    rcases exists_part_of_append_eq h with ⟨part, hother, htails⟩ | ⟨part, hid, htails⟩
    · rcases eq_cleaned_of_tail htail hend htails with rfl | ⟨rfl, ht, he⟩
      · rw [String.append_empty] at hother
        exact absurd hother.symm hne
      · exact .inl ⟨hother, ht, he⟩
    · rcases eq_cleaned_of_tail hend htail htails with rfl | ⟨rfl, he, ht⟩
      · rw [String.append_empty] at hid
        exact absurd hid hne
      · exact .inr ⟨hid, ht, he⟩
  · rintro (⟨hq, rfl, rfl⟩ | ⟨hp, rfl, rfl⟩)
    · rw [hq, String.append_assoc]
      rfl
    · rw [hp, String.append_assoc]
      rfl

/-- No collection of one project is one of the other. -/
theorem names_apart_iff (hne : p.id ≠ q.id) :
    (∀ name ∈ p.names, name ∉ q.names) ↔
      q.id ≠ p.id ++ "_cleaned" ∧ p.id ≠ q.id ++ "_cleaned" := by
  constructor
  · intro h
    have hapart : ∀ tail ∈ tails, ∀ ending ∈ tails, p.id ++ tail ≠ q.id ++ ending :=
      fun tail htail ending hending heq =>
        h _ (mem_names_iff.2 ⟨tail, htail, rfl⟩) (mem_names_iff.2 ⟨ending, hending, heq⟩)
    constructor
    · intro hq
      exact hapart "_cleaned_data" (by decide) "_data" (by decide)
        ((name_eq_name_iff hne (by decide) (by decide)).2 (.inl ⟨hq, rfl, rfl⟩))
    · intro hp
      exact hapart "_data" (by decide) "_cleaned_data" (by decide)
        ((name_eq_name_iff hne (by decide) (by decide)).2 (.inr ⟨hp, rfl, rfl⟩))
  · rintro ⟨hq, hp⟩ name hname hname'
    obtain ⟨tail, htail, rfl⟩ := mem_names_iff.1 hname
    obtain ⟨ending, hending, heq⟩ := mem_names_iff.1 hname'
    rcases (name_eq_name_iff hne htail hending).1 heq with ⟨hcleaned, _⟩ | ⟨hcleaned, _⟩
    · exact hq hcleaned
    · exact hp hcleaned

theorem charts_not_mem_names (hne : p.id ≠ q.id) : p.charts ∉ q.names := by
  intro h
  obtain ⟨ending, hending, heq⟩ := mem_names_iff.1 h
  rcases (name_eq_name_iff hne (by decide) hending).1 heq with ⟨_, htail, _⟩ | ⟨_, htail, _⟩
  · exact absurd htail (by decide)
  · exact absurd htail (by decide)

theorem materialized_mem_names_iff (hne : p.id ≠ q.id) :
    p.materialized ∈ q.names ↔ q.id = p.id ++ "_cleaned" := by
  constructor
  · intro h
    obtain ⟨ending, hending, heq⟩ := mem_names_iff.1 h
    rcases (name_eq_name_iff hne (by decide) hending).1 heq with ⟨hq, _⟩ | ⟨_, htail, _⟩
    · exact hq
    · exact absurd htail (by decide)
  · intro hq
    refine mem_names_iff.2 ⟨"_data", by decide, ?_⟩
    exact (name_eq_name_iff hne (by decide) (by decide)).2 (.inl ⟨hq, rfl, rfl⟩)

/-! ## What materializing writes -/

theorem keepsOthers_materialize (p : Project) (store : MemoryStore) (refused : List StoreCall)
    (now : String) : p.KeepsOthers store (p.materialize (.refusing store refused) now).2.store := by
  have hds := Datastore.refuses_refusing store refused
  by_cases hfind : StoreCall.find ∈ refused
  · obtain ⟨after, hrun, hstore⟩ := p.materialize_of_refused hds hfind now
    rw [hrun, hstore]
    exact KeepsOthers.refl p store
  · obtain ⟨after, hrun, hbatch⟩ := p.materialize_of_granted hds hfind now
    rw [hrun]
    exact hbatch.keepsOthers

def sampleData : List Document := [Document.ofList [("city", .string "Oslo")]]

/-- A chart that has a row on every such dataset. -/
def sampleChart : Document :=
  Document.ofList [("_id", .string "c"), ("chart_type", .string "bar_chart"),
    ("config", Json.ofMembers [("x_axis", .string "city"), ("y_axis", .string "count(city)")])]

/-- A project with a chart that has a row, and nothing materialized. -/
def sampleStore (p : Project) : MemoryStore :=
  (MemoryStore.empty.put p.data sampleData).put p.charts [sampleChart]

theorem find_sampleStore (p : Project) :
    (sampleStore p).find p.data = sampleData ∧ (sampleStore p).find p.charts = [sampleChart] ∧
      (sampleStore p).find p.materialized = [] := by
  refine ⟨?_, MemoryStore.find_put_self _ _ _, ?_⟩
  · rw [sampleStore, MemoryStore.find_put_of_ne _ p.data_ne_charts, MemoryStore.find_put_self]
  · rw [sampleStore, MemoryStore.find_put_of_ne _ p.charts_ne_materialized.symm,
      MemoryStore.find_put_of_ne _ p.data_ne_materialized.symm]
    rfl

/-- The rows of the chart are written. -/
theorem find_materialize_sampleStore (p : Project) (now : String) :
    ((p.materialize (.refusing (sampleStore p) []) now).2.store.find p.materialized) ≠ [] := by
  obtain ⟨hdata, hcharts, _⟩ := find_sampleStore p
  obtain ⟨after, hrun, hbatch⟩ := p.materialize_of_granted
    (Datastore.refuses_refusing (sampleStore p) []) List.not_mem_nil now
  have houtcome : outcomeOn [] sampleData sampleChart = .stored "c" 1 := by decide +kernel
  simp only [Datastore.refusing, hdata, hcharts, List.map_cons, List.map_nil, houtcome]
    at hrun hbatch
  simp only [Datastore.refusing, hrun]
  cases hbatch with
  | cons heffect hrest =>
    cases hrest
    obtain ⟨_, _, _, _, _, _, _, _, _, hstores⟩ := heffect
    -- rows stored under the identity of the chart are read back under it
    intro hnil
    have hrows := hstores.rows
    rw [rowsOf?, hnil] at hrows
    cases hrows

theorem spares_iff (hne : p.id ≠ q.id) : p.Spares q ↔ q.id ≠ p.id ++ "_cleaned" := by
  constructor
  · intro h hq
    have hname : p.materialized ∈ q.names := (materialized_mem_names_iff hne).2 hq
    have hsame := h (sampleStore p) [] "" p.materialized hname
    apply find_materialize_sampleStore p ""
    rw [MemoryStore.find, hsame]
    exact (find_sampleStore p).2.2
  · intro hq store refused now name hname
    refine p.keepsOthers_materialize store refused now name ?_ ?_
    · rintro rfl
      exact charts_not_mem_names hne hname
    · rintro rfl
      exact hq ((materialized_mem_names_iff hne).1 hname)

/-- Two projects have no collection in common exactly if neither identity is the other with
`_cleaned` behind it; and materializing the charts of one leaves all collections of the other as
they are exactly if the other identity is not that longer one. -/
theorem isolated_iff (hne : p ≠ q) :
    ((∀ name ∈ p.names, name ∉ q.names) ↔
      q.id ≠ p.id ++ "_cleaned" ∧ p.id ≠ q.id ++ "_cleaned") ∧
    (p.Spares q ↔ q.id ≠ p.id ++ "_cleaned") := by
  have hid : p.id ≠ q.id := by
    intro h
    exact hne (by cases p; cases q; cases h; rfl)
  exact ⟨names_apart_iff hid, spares_iff hid⟩

/-- One identity may begin with the other, if what follows is not `_cleaned`. -/
theorem isolated_iff_regions :
    let north : Project := ⟨"region"⟩
    let south : Project := ⟨"region_south"⟩
    north ≠ south ∧ (∀ name ∈ north.names, name ∉ south.names) ∧ north.Spares south := by
  intro north south
  have hne : north ≠ south := by decide
  obtain ⟨hnames, hspares⟩ := isolated_iff hne
  exact ⟨hne, hnames.2 (by decide), hspares.2 (by decide)⟩

/-- The rows of one project go into the dataset of the other, and a chart without rows takes a
document of that dataset with it. -/
theorem dataset_overwritten_by_rows :
    let p : Project := ⟨"x"⟩
    let q : Project := ⟨"x_cleaned"⟩
    let raw : List Document := [Document.ofList [("_id", .string "c"), ("city", .string "Rome")]]
    p ≠ q ∧ p.materialized = q.data ∧
      (p.materialize (.willing ((sampleStore p).put q.data raw)) "").2.store.find q.data ≠ raw ∧
      (p.materialize (.willing (((sampleStore p).put p.data []).put q.data raw)) "").2.store.find
        q.data = [] := by
  intro p q raw
  exact ⟨by decide, by decide, by decide +kernel, by decide +kernel⟩

end Project
end DocAnalytics
