import DocAnalytics.Json.Number
import Mathlib.Algebra.Group.Nat.Defs

/-!
# DocAnalytics.Proofs.Binary64.Monotone

Rounding keeps the order. A larger quotient never rounds to a smaller rank (`nearestRank_mono`): of
two quotients that are rounded on one grid because rounding to an integer is monotone, and of two on
different grids because each grid has its own ranks (`le_nearestRank`, `nearestRank_le`). So the
doubles nearest to integers stand in the order of the integers (`key_nearestInt_mono`).
-/

namespace DocAnalytics
namespace Binary64

theorem le_roundHalfEven (num den : Nat) : num / den ≤ roundHalfEven num den := by
  simp only [roundHalfEven]
  split
  · exact Nat.le_refl _
  · split <;> omega

theorem roundHalfEven_le (num den : Nat) : roundHalfEven num den ≤ num / den + 1 := by
  simp only [roundHalfEven]
  split
  · exact Nat.le_succ _
  · split <;> omega

theorem roundHalfEven_mono {num num' : Nat} (den : Nat) (h : num ≤ num') :
    roundHalfEven num den ≤ roundHalfEven num' den := by
  have hquotient : num / den ≤ num' / den := Nat.div_le_div_right h
  by_cases hlt : num / den < num' / den
  · have hup := roundHalfEven_le num den
    have hdown := le_roundHalfEven num' den
    omega
  · -- one quotient, so the remainders are in order
    have hsame : num / den = num' / den := by omega
    have hnum : den * (num / den) + num % den = num := Nat.div_add_mod num den
    have hnum' : den * (num' / den) + num' % den = num' := Nat.div_add_mod num' den
    have hrest : num % den ≤ num' % den := by
      rw [hsame] at hnum
      omega
    simp only [roundHalfEven, hsame]
    generalize num' / den = q
    generalize num % den = r at hrest ⊢
    generalize num' % den = r' at hrest ⊢
    (repeat' split) <;> omega

/-! ## Grids -/

def gridExponent (num den : Nat) : Nat := Nat.log2 (num / den) - 52

theorem nearestRank_eq (num den : Nat) :
    nearestRank num den = gridExponent num den * binade +
      roundHalfEven num (den * 2 ^ gridExponent num den) := rfl

theorem gridExponent_mono {num num' : Nat} (den : Nat) (h : num ≤ num') :
    gridExponent num den ≤ gridExponent num' den := by
  have hlog : Nat.log2 (num / den) ≤ Nat.log2 (num' / den) := by
    by_cases h0 : num / den = 0
    · rw [h0, Nat.log2_zero]
      exact Nat.zero_le _
    · have hquotient : num / den ≤ num' / den := Nat.div_le_div_right h
      have hne : num' / den ≠ 0 :=
        Nat.ne_of_gt (Nat.lt_of_lt_of_le (Nat.pos_of_ne_zero h0) hquotient)
      exact (Nat.le_log2 hne).2 (Nat.le_trans (Nat.log2_self_le h0) hquotient)
  unfold gridExponent
  omega

theorem div_grid_lt (num den : Nat) :
    num / (den * 2 ^ gridExponent num den) < 2 * binade := by
  rw [← Nat.div_div_eq_div_mul, Nat.div_lt_iff_lt_mul (Nat.two_pow_pos _)]
  have hlog : num / den < 2 ^ (Nat.log2 (num / den) + 1) := Nat.lt_log2_self
  have hexponent : Nat.log2 (num / den) + 1 ≤ 53 + gridExponent num den := by
    unfold gridExponent
    omega
  have hpow := Nat.pow_le_pow_right (show 0 < 2 by decide) hexponent
  rw [Nat.pow_add 2 53] at hpow
  exact Nat.lt_of_lt_of_le hlog hpow

theorem le_div_grid {num den : Nat} (h : 0 < gridExponent num den) :
    binade ≤ num / (den * 2 ^ gridExponent num den) := by
  rw [← Nat.div_div_eq_div_mul, Nat.le_div_iff_mul_le (Nat.two_pow_pos _)]
  have hlog : Nat.log2 (num / den) = 52 + gridExponent num den := by
    unfold gridExponent at h ⊢
    omega
  have hne : num / den ≠ 0 := by
    intro h0
    rw [h0, Nat.log2_zero] at hlog
    omega
  have hself := Nat.log2_self_le hne
  rw [hlog, Nat.pow_add] at hself
  exact hself

/-- The ranks of a grid end where those of the next one begin. -/
theorem nearestRank_le (num den : Nat) :
    nearestRank num den ≤ (gridExponent num den + 2) * binade := by
  have hlt := div_grid_lt num den
  have hup := roundHalfEven_le num (den * 2 ^ gridExponent num den)
  rw [nearestRank_eq, Nat.add_mul]
  omega

theorem le_nearestRank {num den : Nat} (h : 0 < gridExponent num den) :
    (gridExponent num den + 1) * binade ≤ nearestRank num den := by
  have hle := le_div_grid h
  have hdown := le_roundHalfEven num (den * 2 ^ gridExponent num den)
  rw [nearestRank_eq, Nat.add_mul]
  omega

theorem nearestRank_mono {num num' : Nat} (den : Nat) (h : num ≤ num') :
    nearestRank num den ≤ nearestRank num' den := by
  have hgrid := gridExponent_mono den h
  by_cases hsame : gridExponent num den = gridExponent num' den
  · rw [nearestRank_eq, nearestRank_eq, hsame]
    exact Nat.add_le_add_left (roundHalfEven_mono _ h) _
  · have hfirst := nearestRank_le num den
    have hsecond : (gridExponent num' den + 1) * binade ≤ nearestRank num' den :=
      le_nearestRank (by omega)
    have hstep : (gridExponent num den + 2) * binade ≤ (gridExponent num' den + 1) * binade :=
      Nat.mul_le_mul_right binade (by omega)
    omega

/-! ## Doubles nearest to integers -/

namespace Finite

/-- The rank of the double nearest to a natural number. -/
def intRank (n : Nat) : Nat := min (nearestRank (n * unitsPerOne) 1) (infinityRank - 1)

theorem intRank_mono {m n : Nat} (h : m ≤ n) : intRank m ≤ intRank n := by
  have hrank : nearestRank (m * unitsPerOne) 1 ≤ nearestRank (n * unitsPerOne) 1 :=
    nearestRank_mono 1 (Nat.mul_le_mul_right unitsPerOne h)
  unfold intRank
  omega

theorem key_nearestInt (n : Int) :
    (nearestInt n).key = if n < 0 then -(intRank n.natAbs : Int) else intRank n.natAbs := by
  by_cases h : nearestRank (n.natAbs * unitsPerOne) 1 < infinityRank
  · have hrank : intRank n.natAbs = nearestRank (n.natAbs * unitsPerOne) 1 :=
      Nat.min_eq_left (by omega)
    simp only [nearestInt, dif_pos h, key, hrank, decide_eq_true_eq]
  · have hrank : intRank n.natAbs = infinityRank - 1 := Nat.min_eq_right (by omega)
    simp only [nearestInt, dif_neg h, key, hrank, decide_eq_true_eq]

theorem key_nearestInt_mono {m n : Int} (h : m ≤ n) : (nearestInt m).key ≤ (nearestInt n).key := by
  rw [key_nearestInt, key_nearestInt]
  by_cases hm : m < 0
  · by_cases hn : n < 0
    · have hrank : intRank n.natAbs ≤ intRank m.natAbs := intRank_mono (by omega)
      rw [if_pos hm, if_pos hn]
      omega
    · rw [if_pos hm, if_neg hn]
      omega
  · have hrank : intRank m.natAbs ≤ intRank n.natAbs := intRank_mono (by omega)
    rw [if_neg hm, if_neg (by omega)]
    omega

end Finite
end Binary64
end DocAnalytics
