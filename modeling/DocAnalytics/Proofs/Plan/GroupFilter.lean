import DocAnalytics.Proofs.Binary64.Exact
import DocAnalytics.Proofs.Filter.Laws
import DocAnalytics.Proofs.Plan.GroupCount
import DocAnalytics.Proofs.Value.Preorder
import Mathlib.Data.List.Basic

/-!
# DocAnalytics.Proofs.Plan.GroupFilter

Groups and filters. A plan that counts by group puts values together whose doubles are equal; a
filter on the key of a group compares signed integers exactly. So a filter on the key of a row finds
the documents that the row counts, but for signed integers of the group that are not the key
(`run_groupByCount_agrees_iff`).

* `equal_iff_sharesSlot`: equality is having one slot without being taken for each other.
* `run_filteredCount`: what counting with a filter on one field returns.
-/

namespace DocAnalytics

open Binary64 (Finite)

/-- Whether a value has no parts: it is no array and no object. -/
def Json.isScalar : Json → Bool
  | .array _ => false
  | .object _ => false
  | _ => true

/-- Two different signed integers to which one double is nearest. -/
def Json.Confused : Json → Json → Prop
  | .number a, .number b => ∃ m n, a.toSigned? = some m ∧ b.toSigned? = some n ∧ m ≠ n ∧
    a.toDouble.key = b.toDouble.key
  | _, _ => False

namespace Json

theorem Number.compare_eq_iff (a b : Number) :
    a.compare b = .eq ↔ a.toDouble.key = b.toDouble.key ∧ ¬ Confused (.number a) (.number b) := by
  constructor
  · intro h
    refine ⟨Number.key_eq_of_compare h, ?_⟩
    rintro ⟨m, n, hm, hn, hne, _⟩
    rw [Number.compare_of_signed hm hn, Int.compare_eq_eq] at h
    exact hne h
  · rintro ⟨hkey, hnot⟩
    cases ha : a.toSigned? with
    | none => rw [Number.compare_of_left ha, Int.compare_eq_eq, hkey]
    | some m =>
      cases hb : b.toSigned? with
      | none => rw [Number.compare_of_right a hb, Int.compare_eq_eq, hkey]
      | some n =>
        rw [Number.compare_of_signed ha hb, Int.compare_eq_eq]
        by_cases hmn : m = n
        · exact hmn
        · exact absurd ⟨m, n, ha, hb, hmn, hkey⟩ hnot

theorem sharesSlot_number (a b : Number) :
    (number a).sharesSlot (number b) = true ↔ a.toDouble.key = b.toDouble.key := by
  rw [sharesSlot, decide_eq_true_eq]
  exact ofFinite_eq_iff a.toDouble b.toDouble

theorem sharesSlot_of_confused {k v : Json} (h : Confused k v) : k.sharesSlot v = true := by
  cases k with
  | number a =>
    cases v with
    | number b =>
      obtain ⟨_, _, _, _, _, hkey⟩ := h
      exact (sharesSlot_number a b).2 hkey
    | _ => exact h.elim
  | _ => exact h.elim

/-- Values of two kinds have two slots. -/
theorem sharesSlot_of_kindRank_ne {k v : Json} (hk : k.isScalar = true) (hv : v.isScalar = true)
    (h : k.kindRank ≠ v.kindRank) : k.sharesSlot v = false := by
  refine decide_eq_false fun hslot => h ?_
  have hkind {j : Json} (hj : j.isScalar = true) : j.slot.kindRank = j.kindRank := by
    cases j with
    | number n =>
      obtain ⟨m, _, hm, _⟩ := ofFinite_toDouble n.toDouble
      rw [slot, hm]
      rfl
    | array items => cases hj
    | object members => cases hj
    | _ => rfl
  rw [← hkind hk, hslot, hkind hv]

theorem equal_of_kindRank_ne {k v : Json} (h : k.kindRank ≠ v.kindRank) : v.equal k = false := by
  cases v <;> cases k <;> first | rfl | exact absurd rfl h

/-- Equal values are those of one slot that are not taken for each other. -/
theorem equal_iff_sharesSlot {k v : Json} (hk : k.isScalar = true) (hv : v.isScalar = true) :
    v.equal k = true ↔ k.sharesSlot v = true ∧ ¬ Confused k v := by
  by_cases hkind : k.kindRank = v.kindRank
  · cases k with
    | array items => cases hk
    | object members => cases hk
    | number a =>
      cases v <;> simp only [kindRank] at hkind <;> try omega
      case number b =>
        rw [sharesSlot_number, ← Number.compare_eq_iff, Number.compare_swap b a]
        simp only [equal, beq_iff_eq]
        cases b.compare a <;> decide
    | null =>
      cases v <;> simp only [kindRank] at hkind <;> try omega
      simp [equal, same, sharesSlot, slot, Confused]
    | bool a =>
      cases v <;> simp only [kindRank] at hkind <;> try omega
      simp only [equal, same, sharesSlot, slot, Confused, beq_iff_eq, decide_eq_true_eq,
        bool.injEq, not_false_eq_true, and_true]
      exact eq_comm
    | string a =>
      cases v <;> simp only [kindRank] at hkind <;> try omega
      simp only [equal, same, sharesSlot, slot, Confused, beq_iff_eq, decide_eq_true_eq,
        string.injEq, not_false_eq_true, and_true]
      exact eq_comm
  · rw [equal_of_kindRank_ne hkind, sharesSlot_of_kindRank_ne hk hv hkind]
    simp

end Json

namespace Plan

/-! ## Counting with a filter on one field -/

/-- The plan that counts the documents whose field is equal to a value. -/
def countEqual (field : String) (key : Json) : Plan :=
  ⟨.count, some (.object [(field, key)]), none⟩

theorem matchesFilter_field {field : String} (h : Filter.isReserved field = false) {key : Json}
    (hkey : key.isScalar = true) (d : Document) :
    Filter.matchesFilter d (.object [(field, key)]) =
      .ok (Filter.fieldEquals key (d.at? field)) := by
  rw [Filter.matchesFilter_member, Filter.memberHolds_field d h]
  cases key with
  | array items => cases hkey
  | object members => cases hkey
  | _ => rfl

theorem fieldEquals_eq_equal {field : String} {d : Document}
    (h : (fieldValue field d).isScalar = true) {key : Json} (hkey : key.isScalar = true) :
    Filter.fieldEquals key (d.at? field) = (fieldValue field d).equal key := by
  unfold fieldValue at h ⊢
  cases hd : d.at? field with
  | none =>
    cases key <;> rfl
  | some v =>
    rw [hd] at h
    cases v with
    | array items => cases h
    | _ => rfl

theorem run_countEqual {field : String} (hfield : Filter.isReserved field = false)
    {docs : List Document} (hdocs : ∀ d ∈ docs, (fieldValue field d).isScalar = true) {key : Json}
    (hkey : key.isScalar = true) :
    runPipeline (countEqual field key).compile docs =
      .ok (totalRows ((docs.map (fieldValue field)).countP (·.equal key))) := by
  have hraises : RaisesNone (countEqual field key).filter docs := by
    intro f hf d _
    cases hf
    rw [matchesFilter_field hfield hkey]
    rfl
  have hselected : (docs.filter (selects (countEqual field key).filter)).length =
      (docs.map (fieldValue field)).countP (·.equal key) := by
    rw [List.countP_map, ← List.countP_eq_length_filter]
    refine List.countP_congr fun d hd => ?_
    simp only [selects, countEqual, matchesFilter_field hfield hkey, Function.comp_apply,
      fieldEquals_eq_equal (hdocs d hd) hkey]
  rw [runPipeline_compile hraises (run_countStages _), hselected]
  rfl

/-! ## Counting by group -/

theorem countP_eq_iff {α : Type} {p q : α → Bool} {xs : List α}
    (h : ∀ x ∈ xs, p x = true → q x = true) :
    xs.countP p = xs.countP q ↔ ∀ x ∈ xs, q x = true → p x = true := by
  induction xs with
  | nil => simp
  | cons x xs ih =>
    have hle : xs.countP p ≤ xs.countP q := List.countP_mono_left fun y hy => h y (.tail x hy)
    have hrest := ih fun y hy => h y (.tail x hy)
    have hx := h x (.head xs)
    rw [List.forall_mem_cons, ← hrest, List.countP_cons, List.countP_cons]
    cases hp : p x <;> cases hq : q x <;> simp [hp, hq] at hx ⊢
    omega

/-- The integers that documents hold in a field. -/
def HoldsInteger (field : String) (docs : List Document) (n : Int) : Prop :=
  ∃ d ∈ docs, ∃ h, fieldValue field d = .number (.integer n h)

def AgreesWithFilter (field : String) (docs : List Document) (row : Document) : Prop :=
  ∃ key size, row = countRow (key, size) ∧
    runPipeline (countEqual field key).compile docs = .ok (totalRows size)

theorem mem_of_mem_upTo {limit : Option Nat} {rows : List Document} {row : Document}
    (h : row ∈ upTo limit rows) : row ∈ rows := by
  cases limit with
  | none => exact h
  | some n => exact List.mem_of_mem_take h

/-- The rows of a plan that counts by group, in whatever order. -/
theorem run_groupBy (field : String) (docs : List Document) (limit : Option Nat) :
    ∃ rows, runPipeline (Plan.compile ⟨.groupByCount field, none, limit⟩) docs = .ok rows ∧
      ∀ row ∈ rows, ∃ key ∈ docs.map (fieldValue field),
        row = countRow (key, (docs.map (fieldValue field)).countP (key.sharesSlot ·)) := by
  have hgroups : (Stage.group (countGrouping field)).run docs =
      .ok ((sizes (docs.map (fieldValue field))).map countRow) :=
    congrArg Except.ok (run_countGrouping field docs)
  have hrows : runPipeline (Operation.groupByCount field).stages (docs.filter (selects none)) =
      .ok (sortRows "count" true ((sizes (docs.map (fieldValue field))).map countRow)) := by
    have hall : docs.filter (selects none) = docs := List.filter_eq_self.2 fun _ _ => rfl
    rw [hall]
    exact runPipeline_cons [.sort "count" true] hgroups
  have hraises : RaisesNone none docs := by
    intro f hf
    cases hf
  refine ⟨_, runPipeline_compile (p := ⟨.groupByCount field, none, limit⟩) hraises hrows, ?_⟩
  intro row hrow
  obtain ⟨entry, hentry, rfl⟩ :=
    List.mem_map.1 ((stableSort_perm _ _).mem_iff.1 (mem_of_mem_upTo hrow))
  obtain ⟨key, hkey, rfl⟩ := List.mem_map.1 hentry
  exact ⟨key, Grouping.mem_of_mem_firstSeen hkey, rfl⟩

/-- A filter on the key of a group finds the documents of the group that are not confused with it.
-/
theorem run_countEqual_of_mem {field : String} (hfield : Filter.isReserved field = false)
    {docs : List Document} (hdocs : ∀ d ∈ docs, (fieldValue field d).isScalar = true) {key : Json}
    (hkey : key ∈ docs.map (fieldValue field)) :
    ∃ total, runPipeline (countEqual field key).compile docs = .ok (totalRows total) ∧
      (total = (docs.map (fieldValue field)).countP (key.sharesSlot ·) ↔
        ∀ d ∈ docs, ¬ Json.Confused key (fieldValue field d)) := by
  have hscalar : ∀ v ∈ docs.map (fieldValue field), v.isScalar = true :=
    List.forall_mem_map.2 hdocs
  have hequal : ∀ v ∈ docs.map (fieldValue field),
      v.equal key = true ↔ key.sharesSlot v = true ∧ ¬ Json.Confused key v :=
    fun v hv => Json.equal_iff_sharesSlot (hscalar key hkey) (hscalar v hv)
  refine ⟨_, run_countEqual hfield hdocs (hscalar key hkey), ?_⟩
  rw [countP_eq_iff fun v hv h => ((hequal v hv).1 h).1, List.forall_mem_map]
  constructor
  · intro h d hd hconfused
    have hequals := h d hd (Json.sharesSlot_of_confused hconfused)
    exact ((hequal _ (List.mem_map_of_mem hd)).1 hequals).2 hconfused
  · intro h d hd hshares
    exact (hequal _ (List.mem_map_of_mem hd)).2 ⟨hshares, h d hd⟩

theorem sharesSlot_integer {m n : Int} (hm : Json.InRange m) (hn : Json.InRange n) :
    (Json.number (.integer m hm)).sharesSlot (.number (.integer n hn)) = true ↔
      (Finite.nearestInt m).sameValue (Finite.nearestInt n) = true := by
  rw [Json.sharesSlot_number, Finite.sameValue, beq_iff_eq]
  rfl

theorem integer_of_toSigned? {a : Json.Number} {m : Int} (h : a.toSigned? = some m) :
    ∃ hm, a = .integer m hm := by
  cases a with
  | integer n hn =>
    simp only [Json.Number.toSigned?] at h
    split at h
    · cases h
      exact ⟨hn, rfl⟩
    · cases h
  | float x => cases h

/-- Where no two different integers have the same nearest double, none is taken for another. -/
theorem not_confused {field : String} {docs : List Document}
    (h : ∀ m n, HoldsInteger field docs m → HoldsInteger field docs n →
      (Finite.nearestInt m).sameValue (Finite.nearestInt n) = true → m = n)
    {d e : Document} (hd : d ∈ docs) (he : e ∈ docs) :
    ¬ Json.Confused (fieldValue field d) (fieldValue field e) := by
  intro hconfused
  cases hdv : fieldValue field d with
  | number a =>
    cases hev : fieldValue field e with
    | number b =>
      rw [hdv, hev] at hconfused
      obtain ⟨m, n, hm, hn, hne, hkey⟩ := hconfused
      obtain ⟨hm', rfl⟩ := integer_of_toSigned? hm
      obtain ⟨hn', rfl⟩ := integer_of_toSigned? hn
      refine hne (h m n ⟨d, hd, hm', hdv⟩ ⟨e, he, hn', hev⟩ ?_)
      rw [Finite.sameValue, beq_iff_eq]
      exact hkey
    | _ =>
      rw [hdv, hev] at hconfused
      exact hconfused
  | _ =>
    rw [hdv] at hconfused
    exact hconfused

/-- Counting by group over values without parts. The total that a filter on the key of a row finds
is the size of its group exactly if no document of the group is confused with the key; all rows
agree, and no two integers share a group, exactly if no two integers have the same nearest
double. -/
theorem run_groupByCount_agrees_iff {field : String} (hfield : Filter.isReserved field = false)
    {docs : List Document} (hdocs : ∀ d ∈ docs, (fieldValue field d).isScalar = true)
    (limit : Option Nat) :
    ∃ rows, runPipeline (Plan.compile ⟨.groupByCount field, none, limit⟩) docs = .ok rows ∧
      (∀ row ∈ rows, ∃ key size total, row = countRow (key, size) ∧
        runPipeline (countEqual field key).compile docs = .ok (totalRows total) ∧
        (total = size ↔ ∀ d ∈ docs, ¬ Json.Confused key (fieldValue field d))) ∧
      (((∀ row ∈ rows, AgreesWithFilter field docs row) ∧
          ∀ d ∈ docs, ∀ e ∈ docs, ∀ m n hm hn, fieldValue field d = .number (.integer m hm) →
            fieldValue field e = .number (.integer n hn) → m ≠ n →
            (fieldValue field d).sharesSlot (fieldValue field e) = false) ↔
        ∀ m n, HoldsInteger field docs m → HoldsInteger field docs n →
          (Finite.nearestInt m).sameValue (Finite.nearestInt n) = true → m = n) := by
  obtain ⟨rows, hrun, hrows⟩ := run_groupBy field docs limit
  refine ⟨rows, hrun, fun row hmem => ?_, ?_, ?_⟩
  · obtain ⟨key, hkey, hrow⟩ := hrows row hmem
    obtain ⟨total, hcount, hagrees⟩ := run_countEqual_of_mem hfield hdocs hkey
    exact ⟨key, _, total, hrow, hcount, hagrees⟩
  · rintro ⟨_, hapart⟩ m n ⟨d, hd, hm, hdm⟩ ⟨e, he, hn, hen⟩ hsame
    by_cases hmn : m = n
    · exact hmn
    · have hfalse := hapart d hd e he m n hm hn hdm hen hmn
      rw [hdm, hen, (sharesSlot_integer hm hn).2 hsame] at hfalse
      cases hfalse
  · intro htells
    refine ⟨fun row hmem => ?_, fun d hd e he m n hm hn hdm hen hne => ?_⟩
    · obtain ⟨key, hkey, hrow⟩ := hrows row hmem
      obtain ⟨total, hcount, hagrees⟩ := run_countEqual_of_mem hfield hdocs hkey
      obtain ⟨e, he, rfl⟩ := List.mem_map.1 hkey
      rw [hagrees.2 fun d hd => not_confused htells he hd] at hcount
      exact ⟨_, _, hrow, hcount⟩
    · rw [hdm, hen, Bool.eq_false_iff]
      intro hshares
      exact hne (htells m n ⟨d, hd, hm, hdm⟩ ⟨e, he, hn, hen⟩
        ((sharesSlot_integer hm hn).1 hshares))

/-- An integer and the double that it equals are one group, and a filter finds both. -/
theorem run_groupByCount_agrees_mixed :
    let docs := [.null, Json.ofNat 1, .string "x", .bool true,
      .number (.float (Finite.nearestInt 1))].map fun v => Document.ofList [("v", v)]
    ∃ rows, runPipeline (Plan.compile ⟨.groupByCount "v", none, some 2⟩) docs = .ok rows ∧
      ∀ row ∈ rows, ∃ key size total, row = countRow (key, size) ∧
        runPipeline (countEqual "v" key).compile docs = .ok (totalRows total) ∧
        (total = size ↔ ∀ d ∈ docs, ¬ Json.Confused key (fieldValue "v" d)) := by
  intro docs
  have hfield : Filter.isReserved "v" = false := by decide +kernel
  have hdocs : ∀ d ∈ docs, (fieldValue "v" d).isScalar = true := by decide +kernel
  obtain ⟨rows, hrun, hrows, _⟩ := run_groupByCount_agrees_iff hfield hdocs (some 2)
  exact ⟨rows, hrun, hrows⟩

/-- Two neighbouring integers with one nearest double are one group, and a filter finds one. -/
theorem run_groupByCount_joins_neighbours :
    let docs := [9007199254740992, 9007199254740993].map fun n =>
      Document.ofList [("v", Json.ofNat n)]
    let key := Json.ofNat 9007199254740992
    runPipeline (Plan.compile ⟨.groupByCount "v", none, none⟩) docs = .ok [countRow (key, 2)] ∧
      runPipeline (countEqual "v" key).compile docs = .ok (totalRows 1) := by
  decide +kernel

end Plan
end DocAnalytics
