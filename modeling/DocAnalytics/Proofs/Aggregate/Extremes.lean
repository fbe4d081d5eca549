import DocAnalytics.Aggregate.Accumulator
import DocAnalytics.Proofs.Value.Preorder
import Mathlib.Data.List.Induction

/-!
# DocAnalytics.Proofs.Aggregate.Extremes

What the least and the greatest of many values are. Comparing values is no order, because a double
can be equal to two integers that are not equal to each other. Being strictly less is transitive
all the same (`compare_lt_trans`), as long as the value in the middle is no array, and that is all
that a running extreme needs: a value that another one was ahead of stays behind whatever replaces
that one (`Holds.add`).
-/

namespace DocAnalytics

/-! ## Strict comparison -/

namespace Json

/-- Of numbers with one nearest double, only signed integers are less than one another. -/
theorem Number.exists_signed_of_lt {a b : Number} (h : a.compare b = .lt)
    (hkey : a.toDouble.key = b.toDouble.key) :
    ∃ m n, a.toSigned? = some m ∧ b.toSigned? = some n ∧ m < n := by
  cases ha : a.toSigned? with
  | none =>
    rw [compare_of_left ha, Int.compare_eq_lt] at h
    omega
  | some m =>
    cases hb : b.toSigned? with
    | none =>
      rw [compare_of_right a hb, Int.compare_eq_lt] at h
      omega
    | some n =>
      rw [compare_of_signed ha hb, Int.compare_eq_lt] at h
      exact ⟨m, n, rfl, rfl, h⟩

theorem Number.compare_lt_trans {a b c : Number} (hab : a.compare b = .lt)
    (hbc : b.compare c = .lt) : a.compare c = .lt := by
  have hkab := key_le_of_compare (a := a) (b := b) (by simp [hab])
  have hkbc := key_le_of_compare (a := b) (b := c) (by simp [hbc])
  by_cases hlt : a.toDouble.key < c.toDouble.key
  · exact compare_of_key_lt hlt
  · obtain ⟨m, n, ha, hb, hmn⟩ := exists_signed_of_lt hab (by omega)
    obtain ⟨n', k, hb', hc, hnk⟩ := exists_signed_of_lt hbc (by omega)
    obtain rfl : n = n' := Option.some.inj (hb.symm.trans hb')
    rw [compare_of_signed ha hc, Int.compare_eq_lt]
    omega

theorem compare_lt_trans_of_ord {α : Type} [Ord α] [Std.TransOrd α] {a b c : α}
    (hab : Ord.compare a b = .lt) (hbc : Ord.compare b c = .lt) : Ord.compare a c = .lt :=
  Std.TransCmp.lt_trans hab hbc

/-- Arrays are compared item by item and equal items are passed over, so they need equality to be
transitive; values of other kinds do not. -/
theorem compare_lt_trans {a b c : Json} (hb : b.isArray = false) (hab : a.compare b = .lt)
    (hbc : b.compare c = .lt) : a.compare c = .lt := by
  have hkab : a.kindRank ≤ b.kindRank := kindRank_le_of_compare (by simp [hab])
  have hkbc : b.kindRank ≤ c.kindRank := kindRank_le_of_compare (by simp [hbc])
  by_cases hkind : a.kindRank = c.kindRank
  · have hkab : a.kindRank = b.kindRank := by omega
    have hkbc : b.kindRank = c.kindRank := by omega
    cases a <;> cases b <;> simp only [kindRank] at hkab <;> try omega
    all_goals cases c <;> simp only [kindRank] at hkbc <;> try omega
    case number => exact Number.compare_lt_trans hab hbc
    case string => exact compare_lt_trans_of_ord (α := String) hab hbc
    case bool => exact compare_lt_trans_of_ord (α := Bool) hab hbc
    case object => exact compare_lt_trans_of_ord (α := String) hab hbc
    case array => cases hb
  · rw [compare_of_kindRank_ne hkind, Nat.compare_eq_lt]
    omega

theorem compare_gt_trans {a b c : Json} (hb : b.isArray = false) (hab : a.compare b = .gt)
    (hbc : b.compare c = .gt) : a.compare c = .gt := by
  have hcb : c.compare b = .lt := by rw [compare_swap b c, hbc]; rfl
  have hba : b.compare a = .lt := by rw [compare_swap a b, hab]; rfl
  rw [compare_swap c a, compare_lt_trans hb hcb hba]
  rfl

/-- Being ahead in one direction is transitive, past a value that is no array. -/
theorem ahead_trans {keep : Ordering} (hkeep : keep ≠ .eq) {a b c : Json} (hb : b.isArray = false)
    (hab : a.compare b = keep) (hbc : b.compare c = keep) : a.compare c = keep := by
  cases keep with
  | lt => exact compare_lt_trans hb hab hbc
  | eq => exact absurd rfl hkeep
  | gt => exact compare_gt_trans hb hab hbc

end Json

/-! ## Running extremes -/

namespace Accumulator

/-- What a running extreme holds after some values: nothing if they are all null, otherwise one of
them that is not null and that none of them is ahead of. -/
def Holds (keep : Ordering) (values : List Json) : Option Json → Prop
  | none => ∀ v ∈ values, v = .null
  | some best => best ∈ values ∧ best ≠ .null ∧ ∀ v ∈ values, v ≠ .null → v.compare best ≠ keep

variable {keep : Ordering} {values : List Json} {best : Option Json} {v : Json}

theorem add_extreme (hv : v ≠ .null) (keep : Ordering) (best : Option Json) :
    (extreme keep best).add v =
      extreme keep (if replaces keep v best then some v else best) := by
  cases v <;> first | rfl | exact absurd rfl hv

theorem Holds.add_null (h : Holds keep values best) : Holds keep (values ++ [.null]) best := by
  cases best with
  | none => exact List.forall_mem_append.2 ⟨h, List.forall_mem_singleton.2 rfl⟩
  | some best =>
    obtain ⟨hmem, hbest, hahead⟩ := h
    refine ⟨List.mem_append_left _ hmem, hbest, List.forall_mem_append.2 ⟨hahead, ?_⟩⟩
    exact List.forall_mem_singleton.2 fun hnull => absurd rfl hnull

/-- The step of a running extreme. A value that takes the place of the best so far is ahead of it,
so nothing that was not ahead of that one is ahead of the new one. -/
theorem Holds.add (hkeep : keep ≠ .eq) (h : Holds keep values best) (hnull : v ≠ .null)
    (harray : v.isArray = false) :
    Holds keep (values ++ [v]) (if replaces keep v best then some v else best) := by
  cases best with
  | none =>
    refine ⟨by simp, hnull, List.forall_mem_append.2 ⟨?_, ?_⟩⟩
    · exact fun u hu hu' => absurd (h u hu) hu'
    · exact List.forall_mem_singleton.2 fun _ => v.compare_self.trans_ne hkeep.symm
  | some best =>
    obtain ⟨hmem, hbest, hahead⟩ := h
    by_cases hreplaces : replaces keep v (some best) = true
    · have hvbest : v.compare best = keep := by simpa [replaces] using hreplaces
      rw [if_pos hreplaces]
      refine ⟨by simp, hnull, List.forall_mem_append.2 ⟨?_, ?_⟩⟩
      · exact fun u hu hu' huv => hahead u hu hu' (Json.ahead_trans hkeep harray huv hvbest)
      · exact List.forall_mem_singleton.2 fun _ => v.compare_self.trans_ne hkeep.symm
    · have hvbest : v.compare best ≠ keep := by simpa [replaces] using hreplaces
      rw [if_neg hreplaces]
      refine ⟨List.mem_append_left _ hmem, hbest, List.forall_mem_append.2 ⟨hahead, ?_⟩⟩
      exact List.forall_mem_singleton.2 fun _ => hvbest

/-- The run of a running extreme. -/
theorem addAll_extreme (hkeep : keep ≠ .eq) (values : List Json)
    (hvalues : ∀ v ∈ values, v.isArray = false) :
    ∃ best, (extreme keep none).addAll values = extreme keep best ∧ Holds keep values best := by
  induction values using List.reverseRecOn with
  | nil => exact ⟨none, rfl, fun _ h => by cases h⟩
  | append_singleton values v ih =>
    obtain ⟨best, hrun, hholds⟩ := ih fun u hu => hvalues u (List.mem_append_left _ hu)
    have hstep : (extreme keep none).addAll (values ++ [v]) = (extreme keep best).add v := by
      rw [← hrun, addAll, addAll, List.foldl_append, List.foldl_cons, List.foldl_nil]
    by_cases hnull : v = .null
    · subst hnull
      exact ⟨best, hstep, hholds.add_null⟩
    · exact ⟨_, hstep.trans (add_extreme hnull keep best),
        hholds.add hkeep hnull (hvalues v (by simp))⟩

end Accumulator

/-! ## The least and the greatest value -/

/-- A value is the least or the greatest of some values: null if they all are, otherwise one of them
that none of them is ahead of, nulls left aside. -/
structure Json.IsExtreme (keep : Ordering) (values : List Json) (result : Json) : Prop where
  null_iff : result = .null ↔ ∀ v ∈ values, v = .null
  mem : result ≠ .null → result ∈ values
  unbeaten : ∀ v ∈ values, v ≠ .null → v.compare result ≠ keep

namespace Aggregate

theorem isExtreme_of_holds {keep : Ordering} {values : List Json} {best : Option Json}
    (h : Accumulator.Holds keep values best) :
    Json.IsExtreme keep values (Accumulator.extreme keep best).result := by
  cases best with
  | none =>
    exact ⟨⟨fun _ => h, fun _ => rfl⟩, fun hnull => absurd rfl hnull,
      fun v hv hnull => absurd (h v hv) hnull⟩
  | some best =>
    obtain ⟨hmem, hbest, hahead⟩ := h
    exact ⟨⟨fun hnull => absurd hnull hbest, fun hall => absurd (hall best hmem) hbest⟩,
      fun _ => hmem, hahead⟩

/-- Of values without arrays among them, in any order, the least one is not undercut and the
greatest one is not exceeded by any that is not null. -/
theorem isExtreme_min_max (values : List Json) (h : ∀ v ∈ values, v.isArray = false) :
    Json.IsExtreme .lt values (Aggregate.min.of values) ∧
      Json.IsExtreme .gt values (Aggregate.max.of values) := by
  obtain ⟨least, hmin, hleast⟩ :=
    Accumulator.addAll_extreme (by decide : Ordering.lt ≠ .eq) values h
  obtain ⟨greatest, hmax, hgreatest⟩ :=
    Accumulator.addAll_extreme (by decide : Ordering.gt ≠ .eq) values h
  rw [of, start, hmin, of, start, hmax]
  exact ⟨isExtreme_of_holds hleast, isExtreme_of_holds hgreatest⟩

/-- Two neighbouring integers and the double that is equal to both, beside values of other kinds. -/
theorem isExtreme_min_max_neighbours :
    let more := Json.ofNat 9007199254740993
    let double := Json.number (.float (Binary64.Finite.nearestInt 9007199254740992))
    let less := Json.ofNat 9007199254740992
    let values := [more, .null, double, less, .string "a", .object [("k", .array [])]]
    Aggregate.min.of values = less ∧ Aggregate.max.of values = .object [("k", .array [])] ∧
      (∀ v ∈ values, v ≠ .null → v.compare less ≠ .lt) ∧
      ∀ v ∈ values, v ≠ .null → v.compare (.object [("k", .array [])]) ≠ .gt := by
  intro more double less values
  have hmin : Aggregate.min.of values = less := by decide +kernel
  have hmax : Aggregate.max.of values = .object [("k", .array [])] := by decide +kernel
  have hvalues : ∀ v ∈ values, v.isArray = false := by decide +kernel
  obtain ⟨hleast, hgreatest⟩ := isExtreme_min_max values hvalues
  rw [hmin] at hleast
  rw [hmax] at hgreatest
  exact ⟨hmin, hmax, hleast.unbeaten, hgreatest.unbeaten⟩

end Aggregate
end DocAnalytics
