import DocAnalytics.Unicode.Lowercase

/-!
# DocAnalytics.Proofs.Unicode.Lowercase

What lower-cases to letters of ASCII. An ASCII text does so letter by letter
(`lowercaseFrom_of_ascii`), and nothing else does but the sign of the kelvin, whose lower case is
`k` (`map_toLower_of_lowercaseFrom`).
-/

namespace DocAnalytics
namespace Unicode

open CaseRun (mapAll)

/-! ## The table -/

/-- The sign of the kelvin, U+212A, with the letter `k`. -/
def kelvin : CaseRun := ⟨8490, 1, 1, -8383⟩

theorem mapAll_eq_or (runs : List CaseRun) (n : Nat) :
    mapAll runs n = n ∨ ∃ r ∈ runs, r.map? n = some (mapAll runs n) := by
  unfold mapAll
  cases h : runs.findSome? (·.map? n) with
  | none => exact .inl rfl
  | some m =>
    obtain ⟨r, hr, hm⟩ := List.exists_of_findSome?_eq_some h
    exact .inr ⟨r, hr, hm⟩

theorem map?_eq_some_iff {r : CaseRun} {n m : Nat} :
    r.map? n = some m ↔ r.covers n = true ∧ ((n : Int) + r.delta).toNat = m := by
  rw [CaseRun.map?, Option.ite_none_right_eq_some, Option.some.injEq]

theorem bounds_of_covers {r : CaseRun} {n : Nat} (h : r.covers n = true) :
    r.first ≤ n ∧ n < r.first + r.count * r.step := by
  simp only [CaseRun.covers, Bool.and_eq_true, decide_eq_true_eq] at h
  exact h.1

theorem le_of_map? {r : CaseRun} {n m : Nat} (h : r.map? n = some m) :
    (r.first : Int) + r.delta ≤ m := by
  obtain ⟨hcovers, himage⟩ := map?_eq_some_iff.1 h
  have hfirst := (bounds_of_covers hcovers).1
  omega

theorem map?_kelvin {n m : Nat} (h : kelvin.map? n = some m) : m = 'k'.toNat := by
  obtain ⟨hcovers, himage⟩ := map?_eq_some_iff.1 h
  obtain ⟨hle, hlt⟩ := bounds_of_covers hcovers
  have hn : n = 8490 := Nat.le_antisymm (Nat.le_of_lt_succ hlt) hle
  rw [← himage, hn]
  rfl

/-- Every other run of the table begins and stays above ASCII. -/
theorem lowercaseRuns_above_ascii :
    ∀ r ∈ lowercaseRuns, r = kelvin ∨ 0x80 ≤ (r.first : Int) + r.delta := by
  decide +kernel

theorem mapAll_lowercaseRuns {n : Nat} (h : 0x80 ≤ n) :
    mapAll lowercaseRuns n = 'k'.toNat ∨ 0x80 ≤ mapAll lowercaseRuns n := by
  rcases mapAll_eq_or lowercaseRuns n with hn | ⟨r, hr, hm⟩
  · exact .inr (hn.symm ▸ h)
  · rcases lowercaseRuns_above_ascii r hr with rfl | hstart
    · exact .inl (map?_kelvin hm)
    · have hle := le_of_map? hm
      exact .inr (by omega)

/-! ## Characters -/

theorem isLower_iff {c : Char} : c.isLower = true ↔ 97 ≤ c.toNat ∧ c.toNat ≤ 122 := by
  have hbounds : c.isLower = (decide (97 ≤ c.val) && decide (c.val ≤ 122)) := rfl
  rw [hbounds, Bool.and_eq_true, decide_eq_true_eq, decide_eq_true_eq, UInt32.le_iff_toNat_le,
    UInt32.le_iff_toNat_le]
  exact Iff.rfl

/-- A letter of ASCII is told by its lower case. -/
theorem bounds_of_isLower_toLower {c : Char} (h : c.toLower.isLower = true) :
    65 ≤ c.toNat ∧ c.toNat ≤ 122 := by
  unfold Char.toLower at h
  split at h
  · rename_i hupper
    simp only [UInt32.le_iff_toNat_le, ge_iff_le] at hupper
    have hbounds : 65 ≤ c.toNat ∧ c.toNat ≤ 90 := hupper
    omega
  · have hbounds := isLower_iff.1 h
    omega

/-- Numbers that are no code points all stand for the null character, so a character other than it
has one number only. -/
theorem toNat_of_ofNat_eq {n : Nat} {c : Char} (h : Char.ofNat n = c) (hc : c ≠ Char.ofNat 0) :
    n = c.toNat := by
  by_cases hvalid : n.isValidChar
  · rw [← h, Char.ofNat, dif_pos hvalid]
    rfl
  · rw [Char.ofNat, dif_neg hvalid] at h
    exact absurd h.symm hc

theorem isLower_ofNat_of_ge {n : Nat} (h : 0x80 ≤ n) : (Char.ofNat n).isLower = false := by
  rw [Bool.eq_false_iff]
  intro hlower
  have hne : Char.ofNat n ≠ Char.ofNat 0 := by
    intro hzero
    rw [hzero] at hlower
    cases hlower
  have hbounds := isLower_iff.1 hlower
  have hn := toNat_of_ofNat_eq rfl hne
  omega

theorem toLower_of_lowercaseChar {c x : Char} (h : lowercaseChar c = [x])
    (hx : x.isLower = true) (hk : x ≠ 'k') : c.toLower = x := by
  unfold lowercaseChar at h
  split at h
  · exact List.head_eq_of_cons_eq h
  · rename_i hascii
    split at h
    · cases h
    · obtain rfl := List.head_eq_of_cons_eq h
      rcases mapAll_lowercaseRuns (Nat.le_of_not_lt hascii) with hkelvin | habove
      · rw [hkelvin] at hk
        exact absurd rfl hk
      · rw [isLower_ofNat_of_ge habove] at hx
        cases hx

/-- A character becomes one character, but for the capital `i` with a dot. -/
theorem lowercaseChar_eq (c : Char) :
    lowercaseChar c = ['i', Char.ofNat 0x307] ∨ ∃ x, lowercaseChar c = [x] := by
  unfold lowercaseChar
  split
  · exact .inr ⟨_, rfl⟩
  · split
    · exact .inl rfl
    · exact .inr ⟨_, rfl⟩

/-! ## Texts -/

theorem lowercaseFrom_of_ascii {cs : List Char} (h : ∀ c ∈ cs, c.toNat < 0x80)
    (before : List Char) : lowercaseFrom before cs = cs.map Char.toLower := by
  induction cs generalizing before with
  | nil => rfl
  | cons c cs ih =>
    have hc : c.toNat < 0x80 := h c (.head cs)
    have hsigma : c ≠ 'Σ' := by
      rintro rfl
      exact absurd hc (by decide)
    have hrest := ih (fun d hd => h d (.tail c hd)) (c :: before)
    rw [lowercaseFrom, if_neg hsigma, lowercaseChar, if_pos hc, hrest]
    rfl

/-- What lower-cases to small letters of ASCII other than `k` differs from them by the case of ASCII
letters only. -/
theorem map_toLower_of_lowercaseFrom {before cs : List Char}
    (h : ∀ c ∈ lowercaseFrom before cs, c.isLower = true ∧ c ≠ 'k') :
    cs.map Char.toLower = lowercaseFrom before cs := by
  induction cs generalizing before with
  | nil => rfl
  | cons c cs ih =>
    rw [lowercaseFrom] at h ⊢
    have hrest := ih fun d hd => h d (List.mem_append_right _ hd)
    split at h
    · -- no sigma is a letter of ASCII
      have hsigma := (h _ (List.mem_append_left _ (.head []))).1
      split at hsigma <;> cases hsigma
    · rename_i hne
      rw [if_neg hne, List.map_cons, hrest]
      rcases lowercaseChar_eq c with htwo | ⟨x, hx⟩
      · rw [htwo] at h
        have hdot := (h (Char.ofNat 0x307) (List.mem_append_left _ (.tail _ (.head [])))).1
        cases hdot
      · rw [hx] at h ⊢
        obtain ⟨hlower, hk⟩ := h x (List.mem_append_left _ (.head []))
        rw [toLower_of_lowercaseChar hx hlower hk]
        rfl

end Unicode
end DocAnalytics
