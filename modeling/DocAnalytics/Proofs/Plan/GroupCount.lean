import DocAnalytics.Proofs.Pipeline.Grouping
import DocAnalytics.Proofs.Pipeline.Sorting
import DocAnalytics.Proofs.Plan.Selection
import Mathlib.Algebra.GroupWithZero.Nat

/-!
# DocAnalytics.Proofs.Plan.GroupCount

What a plan that counts by group returns: a ranking of the groups of the selected documents
(`run_groupByCount`).

* `RanksGroups`: a table has one entry for each group of keys, with the key first seen and the size
  of the group, the largest group first and groups of one size in the order in which they turn up.
  There is one such table (`RanksGroups.unique`), and its counts add up to the number of keys
  (`RanksGroups.sum_counts`).
-/

namespace DocAnalytics
namespace Plan

open Grouping (firstSeen firstIndex)

/-- The value that a document is grouped by, null if the field is missing. -/
def fieldValue (field : String) (d : Document) : Json := (d.at? field).getD .null

/-- A list that fits into memory, which has fewer than `2 ^ 63` bytes. -/
def Fits (docs : List Document) : Prop := docs.length < Text.signedLimit

instance (docs : List Document) : Decidable (Fits docs) :=
  inferInstanceAs (Decidable (docs.length < Text.signedLimit))

/-- A table that ranks the groups of a list of keys by their sizes. -/
structure RanksGroups (keys : List Json) (table : List (Json × Nat)) : Prop where
  /-- Every key has a group. -/
  complete : ∀ k ∈ keys, ∃ entry ∈ table, entry.1.sharesSlot k = true
  /-- No two entries are of one group. -/
  distinct : table.Pairwise fun a b => a.1.sharesSlot b.1 = false
  /-- An entry shows the first key of its group. -/
  firstKey : ∀ entry ∈ table, keys.find? (entry.1.sharesSlot ·) = some entry.1
  /-- An entry counts the keys of its group. -/
  counted : ∀ entry ∈ table, entry.2 = keys.countP (entry.1.sharesSlot ·)
  /-- Larger groups come first, then those that turn up first. -/
  ranked : table.Pairwise fun a b =>
    b.2 < a.2 ∨ b.2 = a.2 ∧ firstIndex keys a.1 < firstIndex keys b.1

def countRow (entry : Json × Nat) : Document :=
  Document.ofList [("_id", entry.1), ("count", Json.ofNat entry.2)]

/-- The result of a count: no row for nothing. -/
def totalRows (n : Nat) : List Document := if n = 0 then [] else [[("total", Json.ofNat n)]]

/-! ## Tables that rank groups -/

namespace RanksGroups

variable {keys : List Json} {table other : List (Json × Nat)}

theorem mem_of_mem (h : RanksGroups keys table) (ho : RanksGroups keys other) {entry : Json × Nat}
    (hmem : entry ∈ table) : entry ∈ other := by
  have hkey : entry.1 ∈ keys := List.mem_of_find?_eq_some (h.firstKey entry hmem)
  obtain ⟨twin, htwin, hshares⟩ := ho.complete entry.1 hkey
  have hsame : (twin.1.sharesSlot ·) = (entry.1.sharesSlot ·) :=
    funext (Grouping.sharesSlot_congr hshares)
  have hfirst := ho.firstKey twin htwin
  have hcount := ho.counted twin htwin
  rw [hsame] at hfirst hcount
  have hkeys : entry.1 = twin.1 := Option.some.inj ((h.firstKey entry hmem).symm.trans hfirst)
  have hcounts : entry.2 = twin.2 := (h.counted entry hmem).trans hcount.symm
  rwa [Prod.ext hkeys hcounts]

theorem nodup (h : RanksGroups keys table) : table.Nodup := by
  refine h.distinct.imp ?_
  rintro a _ hab rfl
  rw [Grouping.sharesSlot_self] at hab
  cases hab

theorem unique (h : RanksGroups keys table) (ho : RanksGroups keys other) : table = other := by
  have hperm : table.Perm other :=
    (List.perm_ext_iff_of_nodup h.nodup ho.nodup).2 fun _ => ⟨mem_of_mem h ho, mem_of_mem ho h⟩
  refine hperm.eq_of_pairwise (fun a b _ _ hab hba => ?_) h.ranked ho.ranked
  omega

theorem sum_countP {keys shown : List Json}
    (hdistinct : shown.Pairwise fun a b => a.sharesSlot b = false)
    (hcomplete : ∀ key ∈ keys, ∃ k ∈ shown, k.sharesSlot key = true) :
    (shown.map fun k => keys.countP (k.sharesSlot ·)).sum = keys.length := by
  have hperm : (shown.flatMap fun k => keys.filter (k.sharesSlot ·)).Perm keys :=
    Grouping.flatMap_filter_perm hdistinct hcomplete
  have hlength := hperm.length_eq
  rw [List.length_flatMap] at hlength
  simpa only [List.countP_eq_length_filter] using hlength

theorem sum_counts (h : RanksGroups keys table) : (table.map Prod.snd).sum = keys.length := by
  have hcounts : table.map Prod.snd =
      (table.map Prod.fst).map fun k => keys.countP (k.sharesSlot ·) := by
    rw [List.map_map]
    exact List.map_congr_left h.counted
  rw [hcounts]
  refine sum_countP (List.pairwise_map.2 h.distinct) fun k hk => ?_
  obtain ⟨entry, hentry, hshares⟩ := h.complete k hk
  exact ⟨entry.1, List.mem_map_of_mem hentry, hshares⟩

end RanksGroups

/-! ## The table of a plan -/

/-- The sizes of groups, larger ones first. -/
def larger (a b : Json × Nat) : Bool := decide (b.2 < a.2)

theorem ranking_larger : Ranking larger := by
  refine ⟨fun a b h => ?_, fun a b c hab hbc => ?_⟩
  · simp only [larger, decide_eq_true_eq, decide_eq_false_iff_not] at h ⊢
    omega
  · simp only [larger, decide_eq_false_iff_not] at hab hbc ⊢
    omega

/-- The groups of a list of keys with their sizes, in the order in which they turn up. -/
def sizes (keys : List Json) : List (Json × Nat) :=
  (firstSeen keys).map fun k => (k, keys.countP (k.sharesSlot ·))

theorem ranksGroups_stableSort (keys : List Json) :
    RanksGroups keys (stableSort larger (sizes keys)) := by
  have htable : Grouping.Tabulates keys (fun k => keys.countP (k.sharesSlot ·))
      (stableSort larger (sizes keys)) :=
    Grouping.tabulates_of_perm (stableSort_perm larger (sizes keys))
  constructor
  case complete => exact htable.complete
  case distinct => exact htable.distinct
  case firstKey => exact htable.firstKey
  case counted => exact htable.totals
  case ranked =>
    have hordered : (sizes keys).Pairwise fun a b => firstIndex keys a.1 < firstIndex keys b.1 :=
      List.pairwise_map.2 (Grouping.firstSeen_ordered keys)
    refine (pairwise_stableSort ranking_larger hordered).imp fun {a b} hab => ?_
    rcases hab with hlarger | ⟨hnot, hpos⟩
    · exact .inl (of_decide_eq_true hlarger)
    · have hle : ¬ a.2 < b.2 := of_decide_eq_false hnot
      by_cases hlt : b.2 < a.2
      · exact .inl hlt
      · exact .inr ⟨by omega, hpos⟩

/-! ## The rows of a plan -/

def countGrouping (field : String) : Grouping := ⟨some field, .count, none, "count", false⟩

theorem addAll_count (n : Nat) (values : List Json) :
    (Accumulator.count n).addAll values = .count (n + values.length) := by
  induction values generalizing n with
  | nil => rfl
  | cons v values ih =>
    have hstep : (Accumulator.count n).addAll (v :: values) =
        (Accumulator.count (n + 1)).addAll values := rfl
    rw [hstep, ih, List.length_cons, Nat.add_right_comm, Nat.add_assoc]

theorem run_countGrouping (field : String) (docs : List Document) :
    (countGrouping field).run docs = (sizes (docs.map (fieldValue field))).map countRow := by
  have hkey : (countGrouping field).keyOf = fieldValue field := rfl
  rw [Grouping.run_eq, hkey, sizes, List.map_map]
  refine List.map_congr_left fun key _ => ?_
  have htotal : (countGrouping field).totalOf docs key =
      .count ((docs.map (fieldValue field)).countP (key.sharesSlot ·)) := by
    have hcount := addAll_count 0 (((countGrouping field).rowsOf docs key).map
      (countGrouping field).inputOf)
    rw [List.length_map, Grouping.rowsOf, ← List.countP_eq_length_filter, Nat.zero_add] at hcount
    rw [List.countP_map]
    exact hcount
  rw [htotal]
  rfl

/-! ## Sorting by counts -/

theorem inRange_of_lt {n : Nat} (h : n < Text.signedLimit) : Json.InRange n := by
  have hlimits : (Text.signedLimit : Int) ≤ Text.unsignedLimit := by decide
  unfold Json.InRange
  omega

theorem toSigned?_ofNat {n : Nat} (h : n < Text.signedLimit) :
    (Json.Number.ofNat n).toSigned? = some (n : Int) := by
  have hint : (n : Int) < Text.signedLimit := Int.ofNat_lt.2 h
  rw [Json.Number.ofNat, Json.Number.ofInt, dif_pos (inRange_of_lt h), Json.Number.toSigned?,
    if_pos hint]

theorem compare_ofNat {m n : Nat} (hm : m < Text.signedLimit) (hn : n < Text.signedLimit) :
    (Json.ofNat m).compare (Json.ofNat n) = Ord.compare (m : Int) n := by
  rw [Json.ofNat, Json.ofNat, Json.compare, Json.Number.compare, toSigned?_ofNat hm,
    toSigned?_ofNat hn]

theorem sortValue_countRow (entry : Json × Nat) :
    sortValue "count" (countRow entry) = Json.ofNat entry.2 := by
  have hsegments : Path.segments "count" = ["count"] := by decide
  simp only [sortValue, Document.at?, hsegments, Json.at?, Json.child?, Document.get?, countRow,
    Document.ofList, Keyed.ofList, List.foldl, Keyed.get?_insert_self, Option.getD_some]

theorem sortsBefore_countRow {a b : Json × Nat} (ha : a.2 < Text.signedLimit)
    (hb : b.2 < Text.signedLimit) :
    sortsBefore "count" true (countRow a) (countRow b) = larger a b := by
  rw [sortsBefore, sortValue_countRow, sortValue_countRow, compare_ofNat ha hb, larger, if_pos rfl,
    Bool.eq_iff_iff, beq_iff_eq, Int.compare_eq_gt, decide_eq_true_eq, Int.ofNat_lt]

theorem sortRows_countRow {keys : List Json} (h : keys.length < Text.signedLimit) :
    sortRows "count" true ((sizes keys).map countRow) =
      (stableSort larger (sizes keys)).map countRow := by
  have hsize : ∀ entry ∈ sizes keys, entry.2 < Text.signedLimit := by
    intro entry hentry
    obtain ⟨k, _, rfl⟩ := List.mem_map.1 hentry
    exact Nat.lt_of_le_of_lt List.countP_le_length h
  refine stableSort_map fun a ha b hb => ?_
  exact sortsBefore_countRow (hsize a ha) (hsize b hb)

theorem run_groupByCountStages (field : String) {docs : List Document} (h : Fits docs) :
    runPipeline (Operation.groupByCount field).stages docs =
      .ok ((stableSort larger (sizes (docs.map (fieldValue field)))).map countRow) := by
  have hgroups : (Stage.group (countGrouping field)).run docs =
      .ok ((sizes (docs.map (fieldValue field))).map countRow) :=
    congrArg Except.ok (run_countGrouping field docs)
  have hlength : (docs.map (fieldValue field)).length < Text.signedLimit := by
    rw [List.length_map]
    exact h
  rw [← sortRows_countRow hlength]
  exact runPipeline_cons [.sort "count" true] hgroups

theorem run_countStages (docs : List Document) :
    runPipeline Operation.count.stages docs = .ok (totalRows docs.length) := by
  cases docs <;> rfl

/-- A plan that counts by group ranks the groups of the documents that its filter selects. The
counts add up to what counting with the same filter gives. -/
theorem run_groupByCount {catalog : Catalog} {r : PlanRequest} {field : String}
    {filter : Option Json} {limit : Option Nat}
    (hr : r.validate catalog = .ok ⟨.groupByCount field, filter, limit⟩)
    {store : MemoryStore} {collection : String} (hfits : Fits (store.find collection))
    (hfilter : RaisesNone filter (store.find collection)) :
    let selected := (store.find collection).filter (selects filter)
    ∃ table, RanksGroups (selected.map (fieldValue field)) table ∧
      (r.run catalog (.willing store) collection).1 = .ok (upTo limit (table.map countRow)) ∧
      (table.map Prod.snd).sum = selected.length ∧
      (table = [] ↔ selected = []) ∧
      ∀ counting : PlanRequest, counting.validate catalog = .ok ⟨.count, filter, none⟩ →
        (counting.run catalog (.willing store) collection).1 =
          .ok (totalRows (table.map Prod.snd).sum) := by
  intro selected
  have hselected : Fits selected := Nat.lt_of_le_of_lt (List.length_filter_le _ _) hfits
  have hranks := ranksGroups_stableSort (selected.map (fieldValue field))
  have hsum := hranks.sum_counts
  rw [List.length_map] at hsum
  refine ⟨_, hranks, ?_, hsum, ?_, ?_⟩
  · exact run_of_validate hr
      (runPipeline_compile hfilter (run_groupByCountStages field hselected))
  · constructor
    · intro hnil
      rw [hnil] at hsum
      exact List.length_eq_zero_iff.1 hsum.symm
    · intro hnil
      rw [hnil]
      rfl
  · intro counting hcounting
    rw [hsum]
    exact run_of_validate hcounting (runPipeline_compile hfilter (run_countStages selected))

/-- Four of five documents have a city after A. -/
theorem run_groupByCount_cities :
    let inCity (city : Json) : Document := Document.ofList [("city", city)]
    let docs := [.null, .string "Rome", .string "Oslo", .string "Oslo", .string "Rome"].map inCity
    let filter := some (Json.ofMembers [("city", Json.ofMembers [("$gte", .string "A")])])
    let keys := (docs.filter (selects filter)).map (fieldValue "city")
    ∃ table, RanksGroups keys table ∧ (table.map Prod.snd).sum = 4 ∧
      (PlanRequest.run ⟨"group_by_count", some "city", filter, some 1⟩
        (Catalog.ofFields [⟨"city", .string, "string"⟩])
        (.willing (MemoryStore.empty.put "data" docs)) "data").1 =
          .ok ((table.map countRow).take 1) := by
  intro inCity docs filter keys
  let r : PlanRequest := ⟨"group_by_count", some "city", filter, some 1⟩
  have hr : r.validate (Catalog.ofFields [⟨"city", .string, "string"⟩]) =
      .ok ⟨.groupByCount "city", filter, some 1⟩ := rfl
  have hfits : Fits ((MemoryStore.empty.put "data" docs).find "data") := by decide +kernel
  have hfilter : RaisesNone filter ((MemoryStore.empty.put "data" docs).find "data") := by
    decide +kernel
  obtain ⟨table, hranks, hrun, hsum, _⟩ := run_groupByCount hr hfits hfilter
  have hselected : (docs.filter (selects filter)).length = 4 := by decide +kernel
  exact ⟨table, hranks, hsum.trans hselected, hrun⟩

end Plan
end DocAnalytics
