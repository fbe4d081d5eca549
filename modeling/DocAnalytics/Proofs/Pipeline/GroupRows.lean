import DocAnalytics.Proofs.Keyed.Order
import DocAnalytics.Proofs.Pipeline.Grouping
import Mathlib.Data.List.Forall2
import Mathlib.Data.List.Induction

/-!
# DocAnalytics.Proofs.Pipeline.GroupRows

The rows that a grouping makes, for any key, function and source (`run_parts`). The rows of a list
fall into parts, one for each slot in the order in which the slots turn up, and each part becomes
one row, with the key of its first row and the aggregate of what its rows contribute.

* `Parts`: the parts of a list of rows, which together are all rows (`parts_firstSeen`).
* `Contributes`, `RowOf`: what a row contributes, and the row of a part.
-/

namespace DocAnalytics
namespace Grouping

/-- The parts of a list of rows, each with the key that is shown for it. -/
structure Parts (g : Grouping) (rows : List Document) (parts : List (Json × List Document)) :
    Prop where
  /-- There is one part for each slot, in the order in which the slots first appear. -/
  slots : (parts.map fun part => slotText part.1) =
    (rows.map fun row => slotText (g.keyOf row)).eraseDups
  /-- A part has the rows of its slot in their order. -/
  members : ∀ part ∈ parts,
    part.2 = rows.filter fun row => slotText (g.keyOf row) == slotText part.1
  /-- The key that is shown is that of the first row. -/
  firstKey : ∀ part ∈ parts, (part.2.map g.keyOf).head? = some part.1
  /-- The parts together are all rows. -/
  perm : (parts.flatMap Prod.snd).Perm rows

/-- What a row contributes to the aggregate. -/
inductive Contributes (g : Grouping) (row : Document) : Json → Prop
  | nothing : g.source = none → Contributes g row .null
  | value {field : String} : g.source = some field → g.coerce = false →
      Contributes g row ((row.at? field).getD .null)
  | number {field : String} {x : Binary64.Finite} : g.source = some field → g.coerce = true →
      ((row.at? field).getD .null).coerce? .trimmed = some x → Contributes g row (Json.ofFinite x)
  | zero {field : String} : g.source = some field → g.coerce = true →
      ((row.at? field).getD .null).coerce? .trimmed = none → Contributes g row (Json.ofInt 0)

/-- The row of a part: the key, and what an accumulator gives that starts afresh and takes in what
the rows of the part contribute, one after the other. -/
def RowOf (g : Grouping) (part : Json × List Document) (result : Document) : Prop :=
  ∃ inputs, List.Forall₂ (Contributes g) part.2 inputs ∧
    result.get? "_id" = some part.1 ∧
    result.get? g.output = some (inputs.foldl Accumulator.add g.function.start).result ∧
    ∀ name, name ≠ "_id" → name ≠ g.output → result.get? name = none

variable {g : Grouping} {rows : List Document}

/-! ## Slots -/

theorem sharesSlot_eq (a b : Json) : a.sharesSlot b = (slotText b == slotText a) := by
  rw [Bool.eq_iff_iff, sharesSlot_iff, beq_iff_eq, eq_comm]

theorem any_sharesSlot_iff {keys : List Json} {key : Json} :
    keys.any (key.sharesSlot ·) = true ↔ slotText key ∈ keys.map slotText := by
  rw [List.any_eq_true, List.mem_map]
  refine exists_congr fun other => and_congr_right fun _ => ?_
  rw [sharesSlot_iff, eq_comm]

theorem map_slotText_firstSeen (keys : List Json) :
    (firstSeen keys).map slotText = (keys.map slotText).eraseDups := by
  induction keys using List.reverseRecOn with
  | nil => rfl
  | append_singleton keys key ih =>
    rw [List.map_append, List.map_singleton, Keyed.eraseDups_concat, ← ih]
    split
    · rename_i hseen
      rw [firstSeen_concat_of_seen (any_sharesSlot_iff.2 hseen)]
    · rename_i hnew
      have hunseen : keys.any (key.sharesSlot ·) = false := by
        rw [Bool.eq_false_iff, ne_eq, any_sharesSlot_iff]
        exact hnew
      rw [firstSeen_concat_of_unseen hunseen, List.map_append, List.map_singleton]

/-! ## Parts -/

theorem head?_rowsOf {key : Json} (h : key ∈ firstSeen (rows.map g.keyOf)) :
    ((g.rowsOf rows key).map g.keyOf).head? = some key := by
  have hfirst := find?_of_firstSeen h
  rw [List.find?_map] at hfirst
  rw [List.head?_map, rowsOf, List.head?_filter]
  exact hfirst

theorem parts_firstSeen (g : Grouping) (rows : List Document) :
    g.Parts rows ((firstSeen (rows.map g.keyOf)).map fun key => (key, g.rowsOf rows key)) := by
  constructor
  case slots =>
    have hslots := map_slotText_firstSeen (rows.map g.keyOf)
    rw [List.map_map] at hslots ⊢
    exact hslots
  case members =>
    intro part hpart
    obtain ⟨key, _, rfl⟩ := List.mem_map.1 hpart
    simp only [rowsOf, sharesSlot_eq]
  case firstKey =>
    intro part hpart
    obtain ⟨key, hkey, rfl⟩ := List.mem_map.1 hpart
    exact head?_rowsOf hkey
  case perm =>
    rw [List.flatMap_map]
    refine flatMap_filter_perm (pairwise_firstSeen _) fun row hrow => ?_
    obtain ⟨shown, hshown, hshares⟩ := exists_firstSeen (List.mem_map_of_mem hrow)
    exact ⟨shown, hshown, by rwa [sharesSlot_comm]⟩

/-! ## Rows of parts -/

theorem contributes_inputOf (g : Grouping) (row : Document) :
    Contributes g row (g.inputOf row) := by
  unfold inputOf
  cases hsource : g.source with
  | none => exact .nothing hsource
  | some field =>
    cases hcoerce : g.coerce with
    | false => exact .value hsource hcoerce
    | true =>
      simp only [if_true]
      cases hnumber : ((row.at? field).getD .null).coerce? .trimmed with
      | some x => exact .number hsource hcoerce hnumber
      | none => exact .zero hsource hcoerce hnumber

theorem rowOf_resultRow (h : g.output ≠ "_id") (rows : List Document) (key : Json) :
    g.RowOf (key, g.rowsOf rows key) (g.resultRow key (g.totalOf rows key)) := by
  let total := (g.function.start.addAll ((g.rowsOf rows key).map g.inputOf)).result
  have hkeys : (Keyed.keys [("_id", key), (g.output, total)]).Nodup := by
    simpa [Keyed.keys] using h.symm
  have hrow : ∀ name, (g.resultRow key (g.totalOf rows key)).get? name =
      [("_id", key), (g.output, total)].lookup name := Keyed.get?_ofList hkeys
  refine ⟨(g.rowsOf rows key).map g.inputOf, ?_, ?_, ?_, ?_⟩
  · rw [List.forall₂_map_right_iff]
    exact List.forall₂_same.2 fun row _ => contributes_inputOf g row
  · exact hrow "_id"
  · rw [hrow, List.lookup_cons, beq_false_of_ne h, List.lookup_cons, beq_self_eq_true]
    rfl
  · intro name hid hname
    rw [hrow]
    simp [List.lookup_cons, beq_false_of_ne hid, beq_false_of_ne hname]

/-- A grouping that does not write its aggregate over the key makes one row of each part. -/
theorem run_parts (rows : List Document) (h : g.output ≠ "_id") :
    ∃ parts, g.Parts rows parts ∧ List.Forall₂ g.RowOf parts (g.run rows) := by
  refine ⟨_, parts_firstSeen g rows, ?_⟩
  rw [run_eq, List.forall₂_map_left_iff, List.forall₂_map_right_iff]
  exact List.forall₂_same.2 fun key _ => rowOf_resultRow h rows key

/-- An integer and the double of its value are keys of one part, and a row without a key is in a
part of its own. -/
theorem run_parts_sizes :
    let row (size : Json) (weight : String) : Document :=
      Document.ofList [("size", size), ("weight", .string weight)]
    let one := Json.number (.float (Binary64.Finite.nearestInt 1))
    let rows :=
      [row (Json.ofInt 1) "1,000", Document.ofList [("weight", Json.ofInt 7)], row one "?"]
    let g : Grouping := ⟨some "size", .sum, some "weight", "total", true⟩
    g.output ≠ "_id" ∧ ∃ parts, g.Parts rows parts ∧ List.Forall₂ g.RowOf parts (g.run rows) ∧
      (parts.map fun part => slotText part.1) = ["1", "null"] := by
  intro row one rows g
  have houtput : g.output ≠ "_id" := by decide
  obtain ⟨parts, hparts, hrows⟩ := run_parts rows houtput
  exact ⟨houtput, parts, hparts, hrows, hparts.slots.trans (by decide +kernel)⟩

end Grouping
end DocAnalytics
