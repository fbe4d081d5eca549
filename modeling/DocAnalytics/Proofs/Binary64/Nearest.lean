import DocAnalytics.Proofs.Binary64.Monotone
import Mathlib.Algebra.Order.Field.Rat
import Mathlib.Data.Rat.Cast.Order
import Mathlib.Tactic.Linarith
import Mathlib.Tactic.NormNum
import Mathlib.Tactic.Positivity
import Mathlib.Tactic.Ring

/-!
# DocAnalytics.Proofs.Binary64.Nearest

Which numbers round to a double: those between the midpoints to its neighbours, and of the midpoints
themselves those beside an even rank (`RoundsTo`). Rounding gives such a rank, and no number rounds
to two of them, so the interval says everything about rounding (`nearestRank_eq_iff`).
-/

namespace DocAnalytics
namespace Binary64

/-! ## Values of ranks -/

/-- The value of a rank on the grid with spacing `2 ^ g`. Both ends of the grid count, since the
last value of a grid is the first one of the next. -/
theorem units_grid {g q : Nat} (hq : q ≤ 2 * binade) (hg : g = 0 ∨ binade ≤ q) :
    units (g * binade + q) = q * 2 ^ g := by
  have hpos : 0 < binade := by decide
  rcases Nat.lt_or_eq_of_le hq with hlt | rfl
  · by_cases hsmall : g * binade + q < 2 * binade
    · -- the two binades of the first spacing
      have hg0 : g = 0 := by
        rcases hg with hg | hg
        · exact hg
        · by_contra hne
          have := Nat.le_mul_of_pos_left binade (Nat.pos_of_ne_zero hne)
          omega
      subst hg0
      simp [units, hlt]
    · have hge : binade ≤ q := by
        rcases hg with rfl | hg
        · omega
        · exact hg
      obtain ⟨r, rfl⟩ := Nat.exists_eq_add_of_le hge
      have hr : r < binade := by omega
      have hrank : g * binade + (binade + r) = r + binade * (g + 1) := by
        rw [Nat.mul_succ, Nat.mul_comm]
        omega
      rw [units, if_neg hsmall, hrank, Nat.add_mul_mod_self_left, Nat.mod_eq_of_lt hr,
        Nat.add_mul_div_left _ _ hpos, Nat.div_eq_of_lt hr, Nat.zero_add, Nat.add_sub_cancel]
      rfl
  · have hrank : g * binade + 2 * binade = (g + 2) * binade := (Nat.add_mul g 2 binade).symm
    have hsmall : ¬(g + 2) * binade < 2 * binade :=
      Nat.not_lt.2 (Nat.mul_le_mul_right _ (Nat.le_add_left 2 g))
    rw [hrank, units, if_neg hsmall, Nat.mul_mod_left, Nat.mul_div_cancel _ hpos, Nat.add_zero,
      Nat.mul_comm 2 binade, Nat.mul_assoc, show g + 2 - 1 = g + 1 from rfl, ← Nat.pow_succ']
    rfl

theorem exists_grid (rank : Nat) :
    ∃ g q, rank = g * binade + q ∧ q < 2 * binade ∧ (g = 0 ∨ binade ≤ q) := by
  by_cases h : rank < 2 * binade
  · exact ⟨0, rank, by omega, h, .inl rfl⟩
  · have hmod : rank % binade < binade := Nat.mod_lt _ (by decide)
    have hdiv : 1 ≤ rank / binade := (Nat.one_le_div_iff (by decide)).2 (by omega)
    refine ⟨rank / binade - 1, binade + rank % binade, ?_, by omega, .inr (Nat.le_add_right _ _)⟩
    have hsplit : binade * (rank / binade) + rank % binade = rank := Nat.div_add_mod _ _
    have hstep : (rank / binade - 1) * binade + binade = binade * (rank / binade) := by
      rw [← Nat.succ_mul, Nat.mul_comm]
      congr 1
      omega
    omega

/-- The gap above a value of a grid is at least the spacing of the grid. -/
theorem add_le_units_succ {g q : Nat} (hq : q ≤ 2 * binade) (hg : g = 0 ∨ binade ≤ q) :
    (q + 1) * 2 ^ g ≤ units (g * binade + q + 1) := by
  rcases Nat.lt_or_eq_of_le hq with hlt | rfl
  · have hnext : units (g * binade + (q + 1)) = (q + 1) * 2 ^ g := units_grid hlt (by omega)
    rw [← Nat.add_assoc] at hnext
    exact hnext.ge
  · have hrank : g * binade + 2 * binade + 1 = (g + 1) * binade + (binade + 1) := by
      rw [Nat.add_mul]
      omega
    have hnext : binade + 1 ≤ 2 * binade := by decide
    rw [hrank, units_grid hnext (.inr (Nat.le_succ _)), Nat.pow_succ', ← Nat.mul_assoc]
    exact Nat.mul_le_mul_right _ (by omega)

theorem units_lt_succ (rank : Nat) : units rank < units (rank + 1) := by
  obtain ⟨g, q, rfl, hq, hg⟩ := exists_grid rank
  have hgap := add_le_units_succ (Nat.le_of_lt hq) hg
  have hpos : 0 < 2 ^ g := Nat.two_pow_pos g
  rw [units_grid (Nat.le_of_lt hq) hg]
  rw [Nat.succ_mul] at hgap
  omega

theorem units_strictMono : StrictMono units := strictMono_nat_of_lt_succ units_lt_succ

/-! ## Midpoints of a grid -/

section Midpoints

variable {g q : Nat} (den : Nat)

theorem le_midpoint_above (hq : q ≤ 2 * binade) (hg : g = 0 ∨ binade ≤ q) :
    (2 * q + 1) * (den * 2 ^ g) ≤
      (units (g * binade + q) + units (g * binade + q + 1)) * den := by
  have hunits : units (g * binade + q) = q * 2 ^ g := units_grid hq hg
  have hnext := add_le_units_succ hq hg
  calc (2 * q + 1) * (den * 2 ^ g) = (q * 2 ^ g + (q + 1) * 2 ^ g) * den := by ring
    _ ≤ _ := Nat.mul_le_mul_right _ (by omega)

theorem midpoint_below (hq : q + 1 ≤ 2 * binade) (hg : g = 0 ∨ binade ≤ q) :
    (units (g * binade + q) + units (g * binade + (q + 1))) * den + den * 2 ^ g =
      2 * (q + 1) * (den * 2 ^ g) := by
  have hunits : units (g * binade + q) = q * 2 ^ g := units_grid (by omega) hg
  have hnext : units (g * binade + (q + 1)) = (q + 1) * 2 ^ g := units_grid hq (by omega)
  rw [hunits, hnext]
  ring

/-- Below the first value of a grid the spacing is that of the grid before, so nothing on the grid
itself is rounded up to that value. -/
theorem midpoint_below_first {den : Nat} (hden : 0 < den) :
    (units (g * binade + binade - 1) + units (g * binade + binade)) * den <
      2 * (binade * (den * 2 ^ g)) := by
  have hunits : units (g * binade + binade) = binade * 2 ^ g :=
    units_grid (by omega) (.inr (Nat.le_refl _))
  have hpred : g * binade + binade - 1 < g * binade + binade := by
    have : 0 < binade := by decide
    omega
  have hless := units_strictMono hpred
  calc _ < (units (g * binade + binade) + units (g * binade + binade)) * den :=
        Nat.mul_lt_mul_of_pos_right (by omega) hden
    _ = 2 * (binade * (den * 2 ^ g)) := by rw [hunits]; ring

end Midpoints

/-! ## Rounding to integers -/

theorem roundHalfEven_bounds (num : Nat) {den : Nat} (hden : 0 < den) :
    2 * roundHalfEven num den * den ≤ 2 * num + den ∧
      2 * num ≤ (2 * roundHalfEven num den + 1) * den ∧
      (roundHalfEven num den % 2 = 1 →
        2 * roundHalfEven num den * den < 2 * num + den ∧
          2 * num < (2 * roundHalfEven num den + 1) * den) := by
  have hnum : num / den * den + num % den = num := Nat.div_add_mod' num den
  have hrest : num % den < den := Nat.mod_lt num hden
  simp only [roundHalfEven]
  generalize num / den = p at hnum ⊢
  generalize num % den = r at hnum hrest ⊢
  subst hnum
  split
  · simp only [Nat.add_mul, Nat.mul_assoc, Nat.one_mul]
    omega
  · split
    · simp only [Nat.add_mul, Nat.mul_add, Nat.mul_assoc, Nat.one_mul, Nat.mul_one]
      omega
    · rcases Nat.mod_two_eq_zero_or_one p with hp | hp <;>
        simp only [hp, Nat.add_mul, Nat.mul_add, Nat.mul_assoc, Nat.one_mul, Nat.mul_one] <;>
        omega

/-! ## Rounding to ranks -/

/-- The numbers, counted in units, that round to the double of a rank. -/
structure RoundsTo (rank : Nat) (x : ℚ) : Prop where
  low : (units (rank - 1) + units rank : ℚ) ≤ 2 * x
  high : 2 * x ≤ (units rank + units (rank + 1) : ℚ)
  odd : rank % 2 = 1 →
    (units (rank - 1) + units rank : ℚ) < 2 * x ∧ 2 * x < (units rank + units (rank + 1) : ℚ)

/-- `RoundsTo` for a quotient. -/
theorem roundsTo_div {rank num den : Nat} (hden : 0 < den)
    (hlow : (units (rank - 1) + units rank) * den ≤ 2 * num)
    (hhigh : 2 * num ≤ (units rank + units (rank + 1)) * den)
    (hodd : rank % 2 = 1 → (units (rank - 1) + units rank) * den < 2 * num ∧
      2 * num < (units rank + units (rank + 1)) * den) :
    RoundsTo rank (num / den : ℚ) := by
  have hden' : (0 : ℚ) < den := by exact_mod_cast hden
  constructor
  · rw [← mul_div_assoc, le_div_iff₀ hden']
    exact_mod_cast hlow
  · rw [← mul_div_assoc, div_le_iff₀ hden']
    exact_mod_cast hhigh
  · intro h
    rw [← mul_div_assoc, lt_div_iff₀ hden', div_lt_iff₀ hden']
    exact_mod_cast hodd h

theorem roundsTo_nearestRank (num : Nat) {den : Nat} (hden : 0 < den) :
    RoundsTo (nearestRank num den) (num / den : ℚ) := by
  have hlt := div_grid_lt num den
  have hgrid := @le_div_grid num den
  have hup := roundHalfEven_le num (den * 2 ^ gridExponent num den)
  have hdown := le_roundHalfEven num (den * 2 ^ gridExponent num den)
  rw [nearestRank_eq]
  generalize gridExponent num den = g at *
  have hscaled : 0 < den * 2 ^ g := Nat.mul_pos hden (Nat.two_pow_pos g)
  obtain ⟨hbelow, habove, hodd⟩ := roundHalfEven_bounds num hscaled
  have hfloor : num / (den * 2 ^ g) * (den * 2 ^ g) ≤ num := Nat.div_mul_le_self num _
  generalize num / (den * 2 ^ g) = p at *
  generalize roundHalfEven num (den * 2 ^ g) = q at *
  have hq : q ≤ 2 * binade := by omega
  have hg : g = 0 ∨ binade ≤ q := by
    rcases Nat.eq_zero_or_pos g with h | h
    · exact .inl h
    · exact .inr (Nat.le_trans (hgrid h) hdown)
  have hparity : (g * binade + q) % 2 = q % 2 := by
    rw [Nat.add_mod, Nat.mul_mod, show binade % 2 = 0 from rfl, Nat.mul_zero, Nat.zero_mod,
      Nat.zero_add, Nat.mod_mod]
  have hupper := le_midpoint_above den hq hg
  have hlower : (units (g * binade + q - 1) + units (g * binade + q)) * den ≤ 2 * num ∧
      (q % 2 = 1 → (units (g * binade + q - 1) + units (g * binade + q)) * den < 2 * num) := by
    by_cases hfirst : 0 < g ∧ q = binade
    · obtain ⟨hg0, rfl⟩ := hfirst
      have hp : p = binade := Nat.le_antisymm hdown (hgrid hg0)
      have hless := midpoint_below_first (g := g) hden
      rw [hp] at hfloor
      exact ⟨by omega, fun _ => by omega⟩
    · rcases Nat.eq_zero_or_pos q with rfl | hq0
      · have hg0 : g = 0 := hg.resolve_right (by decide)
        subst hg0
        rw [Nat.zero_mul, Nat.zero_add, Nat.zero_sub, show units 0 = 0 from rfl, Nat.zero_add,
          Nat.zero_mul]
        exact ⟨Nat.zero_le _, fun h => absurd h (by decide)⟩
      · obtain ⟨q, rfl⟩ := Nat.exists_eq_add_one.2 hq0
        have hmid := midpoint_below den hq (g := g) (by omega)
        rw [Nat.add_succ_sub_one]
        omega
  refine roundsTo_div hden hlower.1 (Nat.le_trans habove hupper) fun h => ?_
  rw [hparity] at h
  exact ⟨hlower.2 h, Nat.lt_of_lt_of_le (hodd h).2 hupper⟩

variable {r s rank : Nat} {x : ℚ}

/-- Two intervals have at most a midpoint in common, and that belongs to the even rank. -/
theorem RoundsTo.not_lt (hr : RoundsTo r x) (hs : RoundsTo s x) : ¬r < s := by
  intro hlt
  have hmono := units_strictMono.monotone
  have hprev : (units r : ℚ) ≤ units (s - 1) := by exact_mod_cast hmono (by omega : r ≤ s - 1)
  have hnext : (units (r + 1) : ℚ) ≤ units s := by exact_mod_cast hmono hlt
  have hhigh := hr.high
  have hlow := hs.low
  by_cases hsucc : s = r + 1
  · rcases Nat.mod_two_eq_zero_or_one r with heven | hodd
    · have := (hs.odd (by omega)).1
      linarith
    · have := (hr.odd hodd).2
      linarith
  · have hstrict : (units r : ℚ) < units (s - 1) := by
      exact_mod_cast units_strictMono (by omega : r < s - 1)
    linarith

theorem RoundsTo.unique (hr : RoundsTo r x) (hs : RoundsTo s x) : r = s :=
  Nat.le_antisymm (Nat.not_lt.1 (hs.not_lt hr)) (Nat.not_lt.1 (hr.not_lt hs))

theorem nearestRank_eq_iff {num den : Nat} (hden : 0 < den) :
    nearestRank num den = rank ↔ RoundsTo rank (num / den : ℚ) := by
  constructor
  · rintro rfl
    exact roundsTo_nearestRank num hden
  · intro h
    exact (roundsTo_nearestRank num hden).unique h

end Binary64
end DocAnalytics
