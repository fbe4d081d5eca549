import DocAnalytics.Pipeline.Group
import DocAnalytics.Pipeline.Run
import DocAnalytics.Proofs.Json.Texts
import Mathlib.Data.List.Perm.Basic

/-!
# DocAnalytics.Proofs.Pipeline.Grouping

Grouping row by row makes one row for each slot (`run_eq`): the rows stand in the order of the first
rows of their groups, each shows the key of its first row, and its aggregate is over all rows of its
slot in the order in which they came.

* `sharesSlot_iff`: keys share a slot exactly if the texts of their slots are equal.
* `Collected`: the order and the table of groups that belong to the rows read so far. One more row
  keeps them together (`Collected.addRow`).
* `firstSeen`: the keys shown. No two of them share a slot (`pairwise_firstSeen`), every key shares
  one with some of them (`exists_firstSeen`), each is the first of its slot (`find?_of_firstSeen`),
  and they stand in the order in which the slots turn up (`firstSeen_ordered`).
* `Tabulates`: a table with one entry for each slot, in any order (`tabulates_of_perm`).
* `flatMap_filter_perm`: the rows of the groups together are the rows.
-/

namespace DocAnalytics

def Json.sharesSlot (a b : Json) : Bool := decide (a.slot = b.slot)

namespace Grouping

/-- The keys of a list that come before all others of their slot. -/
def firstSeen : List Json → List Json
  | [] => []
  | key :: keys => key :: (firstSeen keys).filter fun k => !key.sharesSlot k

/-- The position at which the slot of a key turns up. -/
def firstIndex (keys : List Json) (key : Json) : Nat := keys.findIdx (key.sharesSlot ·)

def rowsOf (g : Grouping) (rows : List Document) (key : Json) : List Document :=
  rows.filter fun row => key.sharesSlot (g.keyOf row)

def totalOf (g : Grouping) (rows : List Document) (key : Json) : Accumulator :=
  g.function.start.addAll ((g.rowsOf rows key).map g.inputOf)

/-! ## Keys that share a slot -/

theorem sharesSlot_self (a : Json) : a.sharesSlot a = true := decide_eq_true rfl

theorem sharesSlot_comm (a b : Json) : a.sharesSlot b = b.sharesSlot a := by
  unfold Json.sharesSlot
  exact decide_eq_decide.2 eq_comm

theorem sharesSlot_congr {a b : Json} (h : a.sharesSlot b = true) (c : Json) :
    a.sharesSlot c = b.sharesSlot c := by
  unfold Json.sharesSlot at h ⊢
  rw [of_decide_eq_true h]

theorem sharesSlot_iff {a b : Json} : a.sharesSlot b = true ↔ slotText a = slotText b := by
  rw [Json.sharesSlot, decide_eq_true_iff]
  constructor
  · intro h
    rw [slotText, h, slotText]
  · intro h
    exact Json.compact_inj h

/-! ## The keys that are shown -/

theorem mem_of_mem_firstSeen {keys : List Json} {k : Json} (h : k ∈ firstSeen keys) : k ∈ keys := by
  induction keys with
  | nil => cases h
  | cons key keys ih =>
    rcases List.mem_cons.1 h with rfl | hk
    · exact .head keys
    · exact .tail key (ih (List.mem_filter.1 hk).1)

theorem exists_firstSeen {keys : List Json} {k : Json} (h : k ∈ keys) :
    ∃ shown ∈ firstSeen keys, k.sharesSlot shown = true := by
  induction keys with
  | nil => cases h
  | cons key keys ih =>
    cases hk : k.sharesSlot key with
    | true => exact ⟨key, .head _, hk⟩
    | false =>
      have hmem : k ∈ keys := by
        rcases List.mem_cons.1 h with rfl | hmem
        · rw [sharesSlot_self] at hk
          cases hk
        · exact hmem
      obtain ⟨shown, hshown, hshares⟩ := ih hmem
      refine ⟨shown, .tail key (List.mem_filter.2 ⟨hshown, ?_⟩), hshares⟩
      rw [sharesSlot_comm, ← sharesSlot_congr hshares, hk]
      rfl

theorem pairwise_firstSeen (keys : List Json) :
    (firstSeen keys).Pairwise fun a b => a.sharesSlot b = false := by
  induction keys with
  | nil => exact List.Pairwise.nil
  | cons key keys ih =>
    refine List.pairwise_cons.2 ⟨fun k hk => ?_, ih.filter _⟩
    have hapart := (List.mem_filter.1 hk).2
    rwa [Bool.not_eq_true'] at hapart

theorem find?_of_firstSeen {keys : List Json} {k : Json} (h : k ∈ firstSeen keys) :
    keys.find? (k.sharesSlot ·) = some k := by
  induction keys with
  | nil => cases h
  | cons key keys ih =>
    rcases List.mem_cons.1 h with rfl | hk
    · exact List.find?_cons_of_pos (sharesSlot_self k)
    · obtain ⟨hk, hapart⟩ := List.mem_filter.1 hk
      rw [sharesSlot_comm, Bool.not_eq_true'] at hapart
      rw [List.find?_cons_of_neg (Bool.eq_false_iff.1 hapart)]
      exact ih hk

theorem firstSeen_ordered (keys : List Json) :
    (firstSeen keys).Pairwise fun a b => firstIndex keys a < firstIndex keys b := by
  induction keys with
  | nil => exact List.Pairwise.nil
  | cons key keys ih =>
    have hlater : ∀ k ∈ (firstSeen keys).filter (fun k => !key.sharesSlot k),
        firstIndex (key :: keys) k = firstIndex keys k + 1 := by
      intro k hk
      have hapart := (List.mem_filter.1 hk).2
      rw [sharesSlot_comm, Bool.not_eq_true'] at hapart
      rw [firstIndex, List.findIdx_cons, hapart]
      rfl
    refine List.pairwise_cons.2 ⟨fun k hk => ?_, (ih.filter _).imp_of_mem ?_⟩
    · rw [hlater k hk, firstIndex, List.findIdx_cons, sharesSlot_self]
      exact Nat.succ_pos _
    · intro a b ha hb hab
      rw [hlater a ha, hlater b hb]
      exact Nat.succ_lt_succ hab

theorem firstSeen_concat_of_unseen {keys : List Json} {k : Json}
    (h : keys.any (k.sharesSlot ·) = false) : firstSeen (keys ++ [k]) = firstSeen keys ++ [k] := by
  induction keys with
  | nil => rfl
  | cons key keys ih =>
    obtain ⟨hkey, hrest⟩ := Bool.or_eq_false_iff.1 (List.any_cons.symm.trans h)
    rw [sharesSlot_comm] at hkey
    rw [List.cons_append, firstSeen, ih hrest, firstSeen, List.filter_append, List.filter_cons,
      hkey]
    rfl

theorem firstSeen_concat_of_seen {keys : List Json} {k : Json}
    (h : keys.any (k.sharesSlot ·) = true) : firstSeen (keys ++ [k]) = firstSeen keys := by
  induction keys with
  | nil => cases h
  | cons key keys ih =>
    rw [List.cons_append, firstSeen, firstSeen]
    cases hrest : keys.any (k.sharesSlot ·) with
    | true => rw [ih hrest]
    | false =>
      rw [List.any_cons, hrest, Bool.or_false, sharesSlot_comm] at h
      rw [firstSeen_concat_of_unseen hrest, List.filter_append, List.filter_cons, h]
      exact congrArg _ (List.append_nil _)

/-- A table with one entry for each slot of a list of keys: the first key of the slot, and what
`total` says of that key. -/
structure Tabulates {α : Type} (keys : List Json) (total : Json → α) (table : List (Json × α)) :
    Prop where
  complete : ∀ k ∈ keys, ∃ entry ∈ table, entry.1.sharesSlot k = true
  distinct : table.Pairwise fun a b => a.1.sharesSlot b.1 = false
  firstKey : ∀ entry ∈ table, keys.find? (entry.1.sharesSlot ·) = some entry.1
  totals : ∀ entry ∈ table, entry.2 = total entry.1

theorem tabulates_of_perm {α : Type} {keys : List Json} {total : Json → α}
    {table : List (Json × α)} (h : table.Perm ((firstSeen keys).map fun k => (k, total k))) :
    Tabulates keys total table := by
  have hentry : ∀ entry ∈ table, entry.1 ∈ firstSeen keys ∧ entry.2 = total entry.1 := by
    intro entry hentry
    obtain ⟨k, hk, rfl⟩ := List.mem_map.1 (h.mem_iff.1 hentry)
    exact ⟨hk, rfl⟩
  constructor
  case complete =>
    intro k hk
    obtain ⟨shown, hshown, hshares⟩ := exists_firstSeen hk
    rw [sharesSlot_comm] at hshares
    exact ⟨_, h.mem_iff.2 (List.mem_map_of_mem hshown), hshares⟩
  case distinct =>
    refine h.symm.pairwise (List.pairwise_map.2 (pairwise_firstSeen keys)) ?_
    intro a b hab
    rw [sharesSlot_comm]
    exact hab
  case firstKey =>
    intro entry hmem
    exact find?_of_firstSeen (hentry entry hmem).1
  case totals =>
    intro entry hmem
    exact (hentry entry hmem).2

/-! ## Rows and their groups -/

/-- Of keys that share no slots, one at most shares a slot with a given key. -/
theorem countP_eq_one {key : Json} {shown : List Json}
    (hdistinct : shown.Pairwise fun a b => a.sharesSlot b = false)
    (h : ∃ k ∈ shown, k.sharesSlot key = true) : shown.countP (·.sharesSlot key) = 1 := by
  induction shown with
  | nil =>
    obtain ⟨k, hk, _⟩ := h
    cases hk
  | cons first shown ih =>
    obtain ⟨hfirst, hrest⟩ := List.pairwise_cons.1 hdistinct
    cases hkey : first.sharesSlot key with
    | true =>
      have hothers : shown.countP (·.sharesSlot key) = 0 := by
        refine List.countP_eq_zero.2 fun k hk hshares => ?_
        have hapart := hfirst k hk
        rw [sharesSlot_congr hkey, sharesSlot_comm, hshares] at hapart
        cases hapart
      rw [List.countP_cons, hkey, hothers]
      rfl
    | false =>
      obtain ⟨k, hk, hshares⟩ := h
      rcases List.mem_cons.1 hk with rfl | hk
      · rw [hkey] at hshares
        cases hshares
      · rw [List.countP_cons, hkey, ih hrest ⟨k, hk, hshares⟩]
        rfl

theorem flatMap_singleton_if {α β : Type} (p : α → Bool) (x : β) (items : List α) :
    (items.flatMap fun item => if p item then [x] else []) = List.replicate (items.countP p) x := by
  induction items with
  | nil => rfl
  | cons item items ih =>
    rw [List.flatMap_cons, ih, List.countP_cons]
    cases p item with
    | true => exact List.replicate_succ.symm
    | false => rfl

/-- Where every item belongs to one of the keys shown, and keys shown share no slots, the items of
the keys together are all items, each once. -/
theorem flatMap_filter_perm {α : Type} {keyOf : α → Json} {items : List α} {shown : List Json}
    (hdistinct : shown.Pairwise fun a b => a.sharesSlot b = false)
    (hcomplete : ∀ item ∈ items, ∃ k ∈ shown, k.sharesSlot (keyOf item) = true) :
    (shown.flatMap fun k => items.filter fun item => k.sharesSlot (keyOf item)).Perm items := by
  induction items with
  | nil => simp
  | cons item items ih =>
    obtain ⟨hitem, hitems⟩ := List.forall_mem_cons.1 hcomplete
    have hsplit : ∀ k : Json, (item :: items).filter (fun i => k.sharesSlot (keyOf i)) =
        (if k.sharesSlot (keyOf item) then [item] else []) ++
          items.filter fun i => k.sharesSlot (keyOf i) := by
      intro k
      rw [List.filter_cons]
      split <;> rfl
    have hone := flatMap_singleton_if (fun k : Json => k.sharesSlot (keyOf item)) item shown
    rw [countP_eq_one hdistinct hitem] at hone
    simp only [hsplit]
    refine (List.flatMap_append_perm shown _ _).symm.trans ?_
    rw [hone]
    exact (ih hitems).cons item

/-! ## One more row -/

/-- What the groups are when some rows have been read. -/
structure Collected (g : Grouping) (rows : List Document) (groups : Groups) : Prop where
  order : groups.order = firstSeen (rows.map g.keyOf)
  /-- The table has an aggregate for each key that shares its slot with a row, and no others. -/
  totals : ∀ key, Keyed.get? groups.totals (slotText key) =
    if (rows.map g.keyOf).any (key.sharesSlot ·) then some (g.totalOf rows key) else none

variable {g : Grouping} {rows : List Document} {row : Document} {groups : Groups} {key : Json}

theorem any_concat_of_shares (h : key.sharesSlot (g.keyOf row) = true) :
    ((rows ++ [row]).map g.keyOf).any (key.sharesSlot ·) = true := by
  simp [h]

theorem any_concat_of_apart (h : key.sharesSlot (g.keyOf row) = false) :
    ((rows ++ [row]).map g.keyOf).any (key.sharesSlot ·) =
      (rows.map g.keyOf).any (key.sharesSlot ·) := by
  simp [h]

theorem rowsOf_congr {other : Json} (h : key.sharesSlot other = true) :
    g.rowsOf rows key = g.rowsOf rows other := by
  simp only [rowsOf, sharesSlot_congr h]

theorem rowsOf_concat (g : Grouping) (rows : List Document) (row : Document) (key : Json) :
    g.rowsOf (rows ++ [row]) key =
      g.rowsOf rows key ++ if key.sharesSlot (g.keyOf row) then [row] else [] := by
  rw [rowsOf, List.filter_append, List.filter_cons]
  rfl

theorem totalOf_concat_of_shares (h : key.sharesSlot (g.keyOf row) = true) :
    g.totalOf (rows ++ [row]) key = (g.totalOf rows (g.keyOf row)).add (g.inputOf row) := by
  rw [totalOf, rowsOf_concat, if_pos h, rowsOf_congr h, List.map_append, Accumulator.addAll,
    List.foldl_append]
  rfl

theorem totalOf_concat_of_apart (h : key.sharesSlot (g.keyOf row) = false) :
    g.totalOf (rows ++ [row]) key = g.totalOf rows key := by
  rw [totalOf, rowsOf_concat, h, if_neg Bool.false_ne_true, List.append_nil, totalOf]

/-- A group that no row belongs to has nothing in its aggregate. -/
theorem totalOf_of_unseen (h : (rows.map g.keyOf).any (key.sharesSlot ·) = false) :
    g.totalOf rows key = g.function.start := by
  have hempty : g.rowsOf rows key = [] := by
    refine List.filter_eq_nil_iff.2 fun row hrow hshares => ?_
    rw [List.any_eq_true.2 ⟨g.keyOf row, List.mem_map_of_mem hrow, hshares⟩] at h
    cases h
  rw [totalOf, hempty]
  rfl

theorem totals_addRow (h : Collected g rows groups) (row : Document) :
    (g.addRow groups row).totals = Keyed.insert (slotText (g.keyOf row))
      ((g.totalOf rows (g.keyOf row)).add (g.inputOf row)) groups.totals := by
  have htotal := h.totals (g.keyOf row)
  unfold addRow
  cases hseen : (rows.map g.keyOf).any ((g.keyOf row).sharesSlot ·) with
  | true =>
    rw [hseen, if_pos rfl] at htotal
    simp only [htotal]
  | false =>
    rw [hseen, if_neg Bool.false_ne_true] at htotal
    simp only [htotal, totalOf_of_unseen hseen]

theorem order_addRow (h : Collected g rows groups) (row : Document) :
    (g.addRow groups row).order = firstSeen ((rows ++ [row]).map g.keyOf) := by
  have htotal := h.totals (g.keyOf row)
  rw [List.map_append, List.map_singleton]
  unfold addRow
  cases hseen : (rows.map g.keyOf).any ((g.keyOf row).sharesSlot ·) with
  | true =>
    rw [hseen, if_pos rfl] at htotal
    simp only [htotal, h.order, firstSeen_concat_of_seen hseen]
  | false =>
    rw [hseen, if_neg Bool.false_ne_true] at htotal
    simp only [htotal, h.order, firstSeen_concat_of_unseen hseen]

theorem Collected.addRow (h : Collected g rows groups) (row : Document) :
    Collected g (rows ++ [row]) (g.addRow groups row) where
  order := order_addRow h row
  totals := by
    intro key
    rw [totals_addRow h]
    cases hkey : key.sharesSlot (g.keyOf row) with
    | true =>
      rw [any_concat_of_shares hkey, if_pos rfl, totalOf_concat_of_shares hkey,
        sharesSlot_iff.1 hkey, Keyed.get?_insert_self]
    | false =>
      have hne : slotText key ≠ slotText (g.keyOf row) := by
        rw [ne_eq, ← sharesSlot_iff, hkey]
        exact Bool.false_ne_true
      rw [any_concat_of_apart hkey, totalOf_concat_of_apart hkey, Keyed.get?_insert_of_ne hne,
        h.totals]

/-! ## All rows -/

theorem Collected.foldl_addRow (h : Collected g rows groups) (rest : List Document) :
    Collected g (rows ++ rest) (rest.foldl g.addRow groups) := by
  induction rest generalizing rows groups with
  | nil => rwa [List.append_nil]
  | cons row rest ih =>
    have hrest := ih (h.addRow row)
    rwa [List.append_assoc] at hrest

theorem collected_groups (g : Grouping) (rows : List Document) :
    Collected g rows (g.groups rows) := by
  have hnone : Collected g [] ⟨[], []⟩ := ⟨rfl, fun _ => rfl⟩
  exact hnone.foldl_addRow rows

/-- Every key that is shown is found in the table. -/
theorem run_eq (g : Grouping) (rows : List Document) :
    g.run rows = (firstSeen (rows.map g.keyOf)).map fun key =>
      g.resultRow key (g.totalOf rows key) := by
  have hgroups := collected_groups g rows
  rw [run, ← List.filterMap_eq_map, hgroups.order]
  refine List.filterMap_congr fun key hkey => ?_
  have hseen : (rows.map g.keyOf).any (key.sharesSlot ·) = true :=
    List.any_eq_true.2 ⟨key, mem_of_mem_firstSeen hkey, sharesSlot_self key⟩
  rw [hgroups.totals, hseen]
  rfl

end Grouping
end DocAnalytics
