import DocAnalytics.Value.Numeric
import Mathlib.Algebra.Group.Nat.Defs

/-!
# DocAnalytics.Proofs.Binary64.Exact

What rounding leaves alone. The value of a double rounds to that double (`nearestRank_units`), so a
computed double that was written as an integer reads back as a number that is written the same way
(`ofFinite_toDouble`).
-/

namespace DocAnalytics
namespace Binary64

theorem roundHalfEven_mul (m : Nat) {den : Nat} (h : 0 < den) :
    roundHalfEven (m * den) den = m := by
  have hq : m * den / den = m := Nat.mul_div_cancel m h
  have hr : m * den % den = 0 := Nat.mul_mod_left m den
  simp [roundHalfEven, hq, hr, h]

/-- The rank of a number of units whose leading 53 bits say it all. -/
theorem nearestRank_shifted {m e : Nat} (hm : binade ≤ m) (hm' : m < 2 * binade) :
    nearestRank (m * 2 ^ e) 1 = e * binade + m := by
  have hpos : 0 < 2 ^ e := Nat.two_pow_pos e
  have hm0 : 0 < m := Nat.lt_of_lt_of_le (by decide) hm
  have hlog : Nat.log2 (m * 2 ^ e) = 52 + e := by
    have hne : m * 2 ^ e ≠ 0 := Nat.ne_of_gt (Nat.mul_pos hm0 hpos)
    have hlow : 2 ^ (52 + e) = binade * 2 ^ e := Nat.pow_add 2 52 e
    have hhigh : 2 ^ (52 + e + 1) = 2 * binade * 2 ^ e := by
      rw [Nat.pow_succ, hlow, Nat.mul_comm, Nat.mul_assoc]
    rw [Nat.log2_eq_iff hne, hlow, hhigh]
    exact ⟨Nat.mul_le_mul_right _ hm, Nat.mul_lt_mul_of_pos_right hm' hpos⟩
  have hshift : Nat.log2 (m * 2 ^ e / 1) - 52 = e := by rw [Nat.div_one, hlog]; omega
  simp only [nearestRank, hshift, Nat.one_mul]
  rw [show Nat.pow 2 e = 2 ^ e from rfl, roundHalfEven_mul m hpos]

/-- The value of a double rounds to that double. -/
theorem nearestRank_units (rank : Nat) : nearestRank (units rank) 1 = rank := by
  unfold units
  split
  · rename_i hlt
    have hshift : Nat.log2 (rank / 1) - 52 = 0 := by
      rw [Nat.div_one]
      by_cases h0 : rank = 0
      · subst h0; rfl
      · have : Nat.log2 rank < 53 := (Nat.log2_lt h0).2 (by simpa [binade] using hlt)
        omega
    have hround : roundHalfEven rank 1 = rank := by
      simpa using roundHalfEven_mul rank (show 0 < 1 by decide)
    simp only [nearestRank, hshift, Nat.zero_mul, Nat.zero_add]
    exact hround
  · rename_i hge
    have hmod : rank % binade < binade := Nat.mod_lt _ (by decide)
    have hdiv : 1 ≤ rank / binade := (Nat.one_le_div_iff (by decide)).2 (by omega)
    have hsplit : binade * (rank / binade) + rank % binade = rank := Nat.div_add_mod _ _
    have hstep : (rank / binade - 1) * binade + binade = binade * (rank / binade) := by
      rw [← Nat.succ_mul, Nat.mul_comm]
      congr 1
      omega
    rw [show Nat.pow 2 (rank / binade - 1) = 2 ^ (rank / binade - 1) from rfl,
      nearestRank_shifted (by omega) (by omega)]
    omega

namespace Finite

theorem truncate_eq (x : Finite) :
    x.truncate = if x.negative then -((units x.rank / unitsPerOne : Nat) : Int)
      else (units x.rank / unitsPerOne : Nat) := rfl

/-- The number of units of an integer double, in terms of its integer value. -/
theorem natAbs_truncate {x : Finite} (h : x.isInteger = true) :
    x.truncate.natAbs * unitsPerOne = units x.rank := by
  have hmod : units x.rank % unitsPerOne = 0 := by simpa [isInteger] using h
  have habs : x.truncate.natAbs = units x.rank / unitsPerOne := by
    rw [truncate_eq]
    generalize units x.rank / unitsPerOne = whole
    split <;> omega
  rw [habs]
  exact Nat.div_mul_cancel (Nat.dvd_of_mod_eq_zero hmod)

/-- An integer double is the double nearest to its integer value, but for the sign of zero. -/
theorem nearestInt_truncate {x : Finite} (h : x.isInteger = true) :
    nearestInt x.truncate = ⟨decide (x.truncate < 0), x.rank, x.rank_lt⟩ := by
  have hrank : nearestRank (x.truncate.natAbs * unitsPerOne) 1 = x.rank := by
    rw [natAbs_truncate h, nearestRank_units]
  simp only [nearestInt, hrank, x.rank_lt, dif_pos]

theorem isInteger_nearestInt_truncate {x : Finite} (h : x.isInteger = true) :
    (nearestInt x.truncate).isInteger = true := by
  rw [nearestInt_truncate h]
  exact h

theorem truncate_nearestInt_truncate {x : Finite} (h : x.isInteger = true) :
    (nearestInt x.truncate).truncate = x.truncate := by
  rw [nearestInt_truncate h, truncate_eq, truncate_eq]
  generalize units x.rank / unitsPerOne = whole
  cases x.negative <;> simp only [decide_eq_true_eq] <;> omega

/-- Integer doubles of one value stand at one position. -/
theorem key_eq_of_truncate_eq {x y : Finite} (hx : x.isInteger = true) (hy : y.isInteger = true)
    (h : x.truncate = y.truncate) : x.key = y.key := by
  have hkey {z : Finite} (hz : z.isInteger = true) : z.key = (nearestInt z.truncate).key := by
    rw [nearestInt_truncate hz]
    have hunits := natAbs_truncate hz
    have hrank := nearestRank_units z.rank
    rw [← hunits] at hrank
    cases hneg : z.negative with
    | true =>
      by_cases h0 : z.truncate = 0
      · -- a negative zero
        have hzero : z.rank = 0 := by
          rw [h0, Int.natAbs_zero, Nat.zero_mul] at hrank
          exact hrank.symm.trans (nearestRank_units 0)
        simp [key, hneg, hzero]
      · have hlt : z.truncate < 0 := by
          have htr := truncate_eq z
          rw [hneg, if_pos rfl] at htr
          generalize units z.rank / unitsPerOne = whole at htr
          omega
        simp [key, hneg, hlt]
    | false =>
      have hge : ¬ z.truncate < 0 := by
        have htr := truncate_eq z
        rw [hneg, if_neg Bool.false_ne_true] at htr
        generalize units z.rank / unitsPerOne = whole at htr
        omega
      simp [key, hneg, hge]
  rw [hkey hx, hkey hy, h]

theorem eq_or_zero_of_key_eq {x y : Finite} (h : x.key = y.key) :
    x = y ∨ x.rank = 0 ∧ y.rank = 0 := by
  obtain ⟨sx, rx, hx⟩ := x
  obtain ⟨sy, ry, hy⟩ := y
  cases sx <;> cases sy <;> simp only [key, Bool.false_eq_true, if_true, if_false] at h
  · left
    simp only [mk.injEq, true_and]
    omega
  · right
    dsimp only
    omega
  · right
    dsimp only
    omega
  · left
    simp only [mk.injEq, true_and]
    omega

end Finite
end Binary64

namespace Json

open Binary64 (Finite)

theorem integerLimit_inRange {n : Int} (h : n.natAbs < integerLimit) : InRange n := by
  simp only [integerLimit] at h
  simp only [InRange, Text.signedLimit, Text.unsignedLimit]
  omega

/-- A computed number reads back as a number that is written the same way. -/
theorem ofFinite_toDouble (x : Finite) :
    ∃ n y, ofFinite x = .number n ∧ n.toDouble = y ∧ ofFinite y = ofFinite x := by
  by_cases h : x.isInteger = true ∧ x.truncate.natAbs < integerLimit
  · have hx : ofFinite x = ofInt x.truncate := by simp [ofFinite, h]
    have hn : Number.ofInt x.truncate = .integer x.truncate (integerLimit_inRange h.2) := by
      simp [Number.ofInt, integerLimit_inRange h.2]
    refine ⟨_, Finite.nearestInt x.truncate, hx, by rw [hn]; rfl, ?_⟩
    rw [hx]
    simp [ofFinite, Finite.isInteger_nearestInt_truncate h.1,
      Finite.truncate_nearestInt_truncate h.1, h.2]
  · have hx : ofFinite x = .number (.float x) := by
      unfold ofFinite
      rw [if_neg]
      simpa using h
    exact ⟨.float x, x, hx, rfl, rfl⟩

theorem ofFinite_of_rank_zero {x : Finite} (h : x.rank = 0) : ofFinite x = ofInt 0 := by
  have hunits : Binary64.units 0 = 0 := rfl
  have hinteger : x.isInteger = true := by
    rw [Finite.isInteger, h, hunits, Nat.zero_mod]
    rfl
  have htruncate : x.truncate = 0 := by
    rw [Finite.truncate_eq, h, hunits, Nat.zero_div]
    split <;> rfl
  simp [ofFinite, hinteger, htruncate, integerLimit]

/-- Computed numbers are written alike exactly if they have one value. -/
theorem ofFinite_eq_iff (x y : Finite) : ofFinite x = ofFinite y ↔ x.key = y.key := by
  constructor
  · intro h
    unfold ofFinite at h
    split at h <;> split at h
    · rename_i hx hy
      simp only [Bool.and_eq_true, decide_eq_true_eq] at hx hy
      have htruncate : x.truncate = y.truncate := by
        simpa [ofInt, Number.ofInt, integerLimit_inRange hx.2, integerLimit_inRange hy.2] using h
      exact Finite.key_eq_of_truncate_eq hx.1 hy.1 htruncate
    · rename_i hx hy
      simp only [Bool.and_eq_true, decide_eq_true_eq] at hx
      simp [ofInt, Number.ofInt, integerLimit_inRange hx.2] at h
    · rename_i hx hy
      simp only [Bool.and_eq_true, decide_eq_true_eq] at hy
      simp [ofInt, Number.ofInt, integerLimit_inRange hy.2] at h
    · cases h
      rfl
  · intro h
    rcases Finite.eq_or_zero_of_key_eq h with rfl | ⟨hx, hy⟩
    · rfl
    · rw [ofFinite_of_rank_zero hx, ofFinite_of_rank_zero hy]

/-- Reading a computed number gives a number that is written the same way. -/
theorem coerce?_ofFinite (mode : Coercion) (x : Finite) :
    ∃ y, coerce? mode (ofFinite x) = some y ∧ ofFinite y = ofFinite x := by
  obtain ⟨n, y, hn, hy, hxy⟩ := ofFinite_toDouble x
  refine ⟨y, ?_, hxy⟩
  rw [hn, ← hy]
  rfl

end Json
end DocAnalytics
