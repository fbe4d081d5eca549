import DocAnalytics.Binary64.Decimal
import DocAnalytics.Proofs.Binary64.Nearest
import Mathlib.Algebra.Order.Field.Power

/-!
# DocAnalytics.Proofs.Binary64.Shortest

The shortest digits of a double round to it (`roundsTo_shortest`). Whatever the search finds on a
grid has been checked to round to the rank, so what is to be shown is that it finds something: the
leading exponent is not too large, and seventeen places further the grid is finer than the gap
between the double and its neighbour.
-/

namespace DocAnalytics
namespace Binary64

/-! ## Grids of decimal numbers -/

/-- The denominator of `10 ^ exponent`. -/
def gridScale (exponent : Int) : Nat := if exponent < 0 then Nat.pow 10 (-exponent).toNat else 1

def gridUnits (exponent : Int) : Nat :=
  unitsPerOne * (if exponent < 0 then 1 else Nat.pow 10 exponent.toNat)

theorem unitsPerOne_pos : 0 < unitsPerOne := by decide +kernel

theorem gridScale_pos (exponent : Int) : 0 < gridScale exponent := by
  unfold gridScale
  split
  · exact Nat.pow_pos (by decide)
  · exact Nat.one_pos

theorem gridUnits_pos (exponent : Int) : 0 < gridUnits exponent := by
  unfold gridUnits
  split
  · exact Nat.mul_pos unitsPerOne_pos Nat.one_pos
  · exact Nat.mul_pos unitsPerOne_pos (Nat.pow_pos (by decide))

/-- A power of ten, in units. -/
theorem gridUnits_div (exponent : Int) :
    (gridUnits exponent / gridScale exponent : ℚ) = 10 ^ exponent * unitsPerOne := by
  unfold gridUnits gridScale
  generalize unitsPerOne = unit
  split
  · obtain ⟨k, rfl⟩ := Int.exists_eq_neg_ofNat (show exponent ≤ 0 by omega)
    simp [zpow_neg, div_eq_mul_inv, mul_comm]
  · obtain ⟨k, rfl⟩ := Int.eq_ofNat_of_zero_le (show 0 ≤ exponent by omega)
    simp [mul_comm]

def Decimal.value (d : Decimal) : ℚ := d.digits * (10 ^ d.exponent * unitsPerOne)

theorem Decimal.value_eq (digits : Nat) (exponent : Int) :
    Decimal.value ⟨digits, exponent⟩ =
      ((digits * gridUnits exponent : Nat) : ℚ) / gridScale exponent := by
  rw [value, ← gridUnits_div, Nat.cast_mul, mul_div_assoc]

/-- Zeros at the end of the digits count as a larger exponent. -/
theorem Decimal.value_shift (digits k : Nat) (exponent : Int) :
    Decimal.value ⟨digits * 10 ^ k, exponent⟩ = Decimal.value ⟨digits, exponent + k⟩ := by
  rw [value, value, zpow_add₀ (by norm_num), zpow_natCast]
  push_cast
  ring

/-- Whether a multiple of `10 ^ exponent` rounds to a rank. -/
def inside (rank : Nat) (exponent : Int) (m : Nat) : Bool :=
  let low := (units (rank - 1) + units rank) * gridScale exponent
  let high := (units rank + units (rank + 1)) * gridScale exponent
  let x := 2 * m * gridUnits exponent
  if rank % 2 = 0 then low ≤ x && x ≤ high else low < x && x < high

variable {tie : Tie} {rank m : Nat} {exponent : Int}

theorem roundsTo_of_inside (h : inside rank exponent m = true) :
    RoundsTo rank (Decimal.value ⟨m, exponent⟩) := by
  rw [Decimal.value_eq]
  simp only [inside, Nat.mul_assoc] at h
  split at h
  · simp only [Bool.and_eq_true, decide_eq_true_eq] at h
    exact roundsTo_div (gridScale_pos exponent) h.1 h.2 fun _ => by omega
  · simp only [Bool.and_eq_true, decide_eq_true_eq] at h
    exact roundsTo_div (gridScale_pos exponent) h.1.le h.2.le fun _ => h

/-- The last multiple of a grid up to a rank. -/
def below (rank : Nat) (exponent : Int) : Nat :=
  units rank * gridScale exponent / gridUnits exponent

/-- The choice between a multiple and the next one, of which each is inside or not, by how far away
they are. -/
def choose (tie : Tie) (belowInside aboveInside : Bool) (below down up : Nat) : Option Nat :=
  match belowInside, aboveInside with
  | false, false => none
  | true, false => some below
  | false, true => some (below + 1)
  | true, true =>
    if down < up then some below
    else if up < down then some (below + 1)
    else
      match tie with
      | .toEven => some (if below % 2 = 0 then below else below + 1)
      | .up => some (below + 1)

theorem onGrid_eq (tie : Tie) (rank : Nat) (exponent : Int) :
    onGrid tie rank exponent =
      choose tie (inside rank exponent (below rank exponent))
        (inside rank exponent (below rank exponent + 1)) (below rank exponent)
        (2 * units rank * gridScale exponent - 2 * below rank exponent * gridUnits exponent)
        (2 * (below rank exponent + 1) * gridUnits exponent -
          2 * units rank * gridScale exponent) := rfl

theorem choose_cases (tie : Tie) (belowInside aboveInside : Bool) (below down up : Nat) :
    (choose tie belowInside aboveInside below down up = none ∧ aboveInside = false) ∨
      (choose tie belowInside aboveInside below down up = some below ∧ belowInside = true) ∨
      (choose tie belowInside aboveInside below down up = some (below + 1) ∧
        aboveInside = true) := by
  cases belowInside <;> cases aboveInside <;> try simp [choose]
  by_cases hdown : down < up
  · simp [hdown]
  · by_cases hup : up < down
    · simp [hdown, hup]
    · cases tie with
      | up => simp [hdown, hup]
      | toEven =>
        by_cases heven : below % 2 = 0
        · simp [hdown, hup, heven]
        · simp [hdown, hup, heven]

/-- What is taken from a grid is inside. Nothing is taken only if the next multiple is not. -/
theorem onGrid_cases (tie : Tie) (rank : Nat) (exponent : Int) :
    (onGrid tie rank exponent = none ∧ inside rank exponent (below rank exponent + 1) = false) ∨
      ∃ m, onGrid tie rank exponent = some m ∧ inside rank exponent m = true := by
  rw [onGrid_eq]
  rcases choose_cases tie _ _ _ _ _ with hnone | hbelow | habove
  · exact .inl hnone
  · exact .inr ⟨_, hbelow⟩
  · exact .inr ⟨_, habove⟩

/-! ## Fine grids -/

/-- The gap above a value is more than one part in `2 ^ 53` of it. -/
theorem units_lt_gap (rank : Nat) :
    units rank + 2 * binade * units rank < 2 * binade * units (rank + 1) := by
  obtain ⟨g, q, rfl, hq, hg⟩ := exists_grid rank
  have hgap := add_le_units_succ (Nat.le_of_lt hq) hg
  rw [units_grid (Nat.le_of_lt hq) hg]
  calc q * 2 ^ g + 2 * binade * (q * 2 ^ g)
      < 2 * binade * 2 ^ g + 2 * binade * (q * 2 ^ g) :=
        Nat.add_lt_add_right (Nat.mul_lt_mul_of_pos_right hq (Nat.two_pow_pos g)) _
    _ = 2 * binade * ((q + 1) * 2 ^ g) := by ring
    _ ≤ _ := Nat.mul_le_mul_left _ hgap

/-- A spacing `g / s` of at most one part in `2 ^ 54` is less than half the gap. -/
theorem add_lt_units_succ {g s : Nat} (hs : 0 < s) (h : 4 * binade * g ≤ units rank * s) :
    units rank * s + 2 * g < units (rank + 1) * s := by
  have hgap := Nat.mul_lt_mul_of_pos_right (units_lt_gap rank) hs
  refine Nat.lt_of_mul_lt_mul_left (a := 2 * binade) ?_
  calc 2 * binade * (units rank * s + 2 * g)
      = 4 * binade * g + 2 * binade * (units rank * s) := by ring
    _ ≤ (units rank + 2 * binade * units rank) * s := by
      rw [Nat.add_mul, Nat.mul_assoc (2 * binade)]
      omega
    _ < 2 * binade * (units (rank + 1) * s) := by rwa [← Nat.mul_assoc]

theorem mul_gridUnits_le_iff (a b : Nat) (exponent : Int) :
    a * gridUnits exponent ≤ b * gridScale exponent ↔
      (a * (10 ^ exponent * unitsPerOne) : ℚ) ≤ b := by
  have hscale : (0 : ℚ) < gridScale exponent := by exact_mod_cast gridScale_pos exponent
  rw [← gridUnits_div, ← mul_div_assoc, div_le_iff₀ hscale]
  norm_cast

/-- Seventeen places further a grid is fine enough, since `2 ^ 54` is less than `10 ^ 17`. -/
theorem seventeen_places {n : Nat} (h : gridUnits exponent ≤ n * gridScale exponent) :
    4 * binade * gridUnits (exponent - (17 : Nat)) ≤ n * gridScale (exponent - (17 : Nat)) := by
  rw [← Nat.one_mul (gridUnits exponent), mul_gridUnits_le_iff, Nat.cast_one, one_mul] at h
  rw [mul_gridUnits_le_iff]
  have hpower : (0 : ℚ) ≤ 10 ^ (exponent - (17 : Nat)) * unitsPerOne :=
    mul_nonneg (zpow_nonneg (by norm_num) _) (Nat.cast_nonneg _)
  calc ((4 * binade : Nat) : ℚ) * (10 ^ (exponent - (17 : Nat)) * unitsPerOne)
      ≤ 10 ^ 17 * (10 ^ (exponent - (17 : Nat)) * unitsPerOne) :=
        mul_le_mul_of_nonneg_right (by norm_num [binade]) hpower
    _ = 10 ^ exponent * unitsPerOne := by
      rw [← mul_assoc, zpow_sub₀ (by norm_num), zpow_natCast, mul_div_cancel₀ _ (by norm_num)]
    _ ≤ n := h

/-- On a grid that is fine enough the next multiple is inside. -/
theorem inside_above (h : 4 * binade * gridUnits exponent ≤ units rank * gridScale exponent) :
    inside rank exponent (below rank exponent + 1) = true := by
  have hfine := add_lt_units_succ (gridScale_pos exponent) h
  have hprev : units (rank - 1) * gridScale exponent ≤ units rank * gridScale exponent :=
    Nat.mul_le_mul_right _ (units_strictMono.monotone (Nat.sub_le rank 1))
  have hbelow : below rank exponent * gridUnits exponent ≤ units rank * gridScale exponent :=
    Nat.div_mul_le_self _ _
  have habove : units rank * gridScale exponent <
      (below rank exponent + 1) * gridUnits exponent :=
    (Nat.div_lt_iff_lt_mul (gridUnits_pos exponent)).1 (Nat.lt_succ_self _)
  unfold inside
  generalize below rank exponent = m at hbelow habove ⊢
  generalize gridUnits exponent = g at hfine hbelow habove ⊢
  generalize gridScale exponent = s at hfine hprev hbelow habove ⊢
  have hlow : (units (rank - 1) + units rank) * s < 2 * (m + 1) * g := by
    rw [Nat.add_mul, Nat.mul_assoc]
    omega
  have hhigh : 2 * (m + 1) * g < (units rank + units (rank + 1)) * s := by
    simp only [Nat.add_mul, Nat.mul_add, Nat.mul_assoc, Nat.mul_one]
    omega
  split
  · simp [hlow.le, hhigh.le]
  · simp [hlow, hhigh]

/-! ## The leading exponent -/

/-- The estimate of the leading decimal exponent from the leading binary one. -/
def estimate (log : Nat) : Int := (((log : Int) - 1074) * 30103).fdiv 100000

/-- As far as there are doubles, `30103 / 100000` is near enough to the logarithm of two. -/
theorem estimate_le {log : Nat} (h : log < 2098) :
    gridUnits (estimate log) ≤ 2 ^ log * gridScale (estimate log) := by
  have hall : (List.range 2098).all fun log =>
      gridUnits (estimate log) ≤ 2 ^ log * gridScale (estimate log) := by
    decide +kernel
  simpa using List.all_eq_true.1 hall log (List.mem_range.2 h)

/-- Whether a number of units reaches a power of ten. -/
def reaches (n : Nat) (exponent : Int) : Bool :=
  if 0 ≤ exponent then decide (Nat.pow 10 exponent.toNat * unitsPerOne ≤ n)
  else decide (unitsPerOne ≤ n * Nat.pow 10 (-exponent).toNat)

theorem reaches_iff {n : Nat} :
    reaches n exponent = true ↔ gridUnits exponent ≤ n * gridScale exponent := by
  unfold reaches gridUnits gridScale
  by_cases h : 0 ≤ exponent
  · rw [if_pos h, if_neg (Int.not_lt.2 h), if_neg (Int.not_lt.2 h), decide_eq_true_eq,
      Nat.mul_one, Nat.mul_comm]
  · rw [if_neg h, if_pos (Int.not_le.1 h), if_pos (Int.not_le.1 h), decide_eq_true_eq,
      Nat.mul_one]

theorem leadingExponent_eq (n : Nat) :
    leadingExponent n =
      if reaches n (estimate (Nat.log2 n) + 1) then estimate (Nat.log2 n) + 1
      else estimate (Nat.log2 n) := rfl

/-- The leading exponent is not too large. -/
theorem gridUnits_leadingExponent {n : Nat} (hne : n ≠ 0) (hlog : Nat.log2 n < 2098) :
    gridUnits (leadingExponent n) ≤ n * gridScale (leadingExponent n) := by
  rw [leadingExponent_eq]
  split
  · rename_i h
    exact reaches_iff.1 h
  · exact Nat.le_trans (estimate_le hlog) (Nat.mul_le_mul_right _ (Nat.log2_self_le hne))

theorem log2_units (hne : units rank ≠ 0) (h : rank < infinityRank) :
    Nat.log2 (units rank) < 2098 := by
  have hlast : units (2045 * binade + 2 * binade) = 2 * binade * 2 ^ 2045 :=
    units_grid (Nat.le_refl _) (.inr (by decide))
  rw [← Nat.add_mul] at hlast
  rw [Nat.log2_lt hne]
  calc units rank < units (2047 * binade) := units_strictMono h
    _ = 2 * binade * 2 ^ 2045 := hlast
    _ = _ := by decide +kernel

/-! ## The search -/

theorem roundsTo_firstOnGrid (tie : Tie) {fuel : Nat}
    (h : ∃ k < fuel, inside rank (exponent - k) (below rank (exponent - k) + 1) = true) :
    RoundsTo rank (firstOnGrid tie rank fuel exponent).value := by
  induction fuel generalizing exponent with
  | zero =>
    obtain ⟨k, hk, -⟩ := h
    omega
  | succ fuel ih =>
    rw [firstOnGrid]
    rcases onGrid_cases tie rank exponent with ⟨hnone, hout⟩ | ⟨m, hsome, hin⟩
    · rw [hnone]
      obtain ⟨k, hk, hin⟩ := h
      cases k with
      | zero =>
        rw [Int.natCast_zero, Int.sub_zero] at hin
        exact absurd hin (by simp [hout])
      | succ k =>
        refine ih ⟨k, by omega, ?_⟩
        rwa [Int.sub_sub, Int.add_comm 1, ← Int.natCast_succ]
    · rw [hsome]
      exact roundsTo_of_inside hin

theorem Decimal.value_dropZeros (fuel : Nat) (d : Decimal) :
    (d.dropZeros fuel).value = d.value := by
  induction fuel generalizing d with
  | zero => rfl
  | succ fuel ih =>
    rw [dropZeros]
    split
    · rename_i h
      have hdigits : d.digits / 10 * 10 ^ 1 = d.digits :=
        Nat.div_mul_cancel (Nat.dvd_of_mod_eq_zero h.1)
      rw [ih, ← Nat.cast_one, ← value_shift, hdigits]
    · rfl

theorem roundsTo_zero (exponent : Int) : RoundsTo 0 (Decimal.value ⟨0, exponent⟩) := by
  have hvalue : Decimal.value ⟨0, exponent⟩ = 0 := by
    rw [Decimal.value, Nat.cast_zero, zero_mul]
  have hzero : units 0 = 0 := rfl
  rw [hvalue]
  refine ⟨?_, ?_, fun hodd => absurd hodd (by decide)⟩
  · simp [hzero]
  · rw [mul_zero]
    positivity

/-- The shortest digits of a double round to it. -/
theorem roundsTo_shortest (tie : Tie) (x : Finite) : RoundsTo x.rank (x.shortest tie).value := by
  unfold Finite.shortest
  split
  · rename_i h
    rw [h]
    exact roundsTo_zero 0
  · rename_i h
    rw [Decimal.value_dropZeros]
    have hpos : 0 < units x.rank := units_strictMono (Nat.pos_of_ne_zero h)
    have hlead := gridUnits_leadingExponent (Nat.ne_of_gt hpos)
      (log2_units (Nat.ne_of_gt hpos) x.rank_lt)
    exact roundsTo_firstOnGrid tie ⟨17, by decide, inside_above (seventeen_places hlead)⟩

end Binary64
end DocAnalytics
