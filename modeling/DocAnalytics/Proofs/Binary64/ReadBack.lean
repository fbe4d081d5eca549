import DocAnalytics.Binary64.Layout
import DocAnalytics.Proofs.Binary64.Shortest

/-!
# DocAnalytics.Proofs.Binary64.ReadBack

A double that is written out reads back as that double, in every layout (`ofText?_render`). A text
denotes a value (`Denotes`), in whatever way its digits are spread over the places before the point,
the places behind it and the exponent; all layouts of a decimal number denote its value, and reading
depends on nothing else (`ofDecimal_of_roundsTo`).
-/

namespace DocAnalytics

/-! ## Digits -/

namespace Text

theorem digitsValue_eq (acc : Nat) (cs : List Char) :
    digitsValue acc cs = Nat.ofDigitChars 10 cs acc := by
  rw [Nat.ofDigitChars_eq_foldl, digitsValue]
  simp only [Nat.mul_comm]

theorem digitsValue_append (acc : Nat) (cs ds : List Char) :
    digitsValue acc (cs ++ ds) = digitsValue (digitsValue acc cs) ds :=
  List.foldl_append

theorem digitsValue_zeros (acc k : Nat) :
    digitsValue acc (List.replicate k '0') = acc * 10 ^ k := by
  rw [digitsValue_eq, Nat.ofDigitChars_replicate_zero, Nat.mul_comm]

theorem digitsValue_toDigits (n : Nat) : digitsValue 0 (Nat.toDigits 10 n) = n := by
  rw [digitsValue_eq, Nat.ofDigitChars_toDigits (by decide) (by decide)]

theorem isDigit_of_mem_toDigits {n : Nat} {c : Char} (h : c ∈ Nat.toDigits 10 n) :
    c.isDigit = true :=
  Nat.isDigit_of_mem_toDigits (by decide) (by decide) h

theorem natural?_toDigits (n : Nat) : natural? (Nat.toDigits 10 n) = some n := by
  have hall : (Nat.toDigits 10 n).all Char.isDigit = true :=
    List.all_eq_true.2 fun _ => isDigit_of_mem_toDigits
  simp [natural?, hall, digitsValue_toDigits]

end Text

namespace Binary64

open Text (digitsValue)

/-! ## Reading decimal numbers -/

variable {rank : Nat} {exponent : Int}

/-- Ten to the power of 310 is past the last double. -/
theorem units_infinityRank_lt {k : Nat} (h : 310 ≤ k) :
    units infinityRank < unitsPerOne * Nat.pow 10 k := by
  induction k, h using Nat.le_induction with
  | base => decide +kernel
  | succ k _ ih =>
    exact Nat.lt_of_lt_of_le ih
      (Nat.mul_le_mul_left _ (Nat.pow_le_pow_right (by decide) (Nat.le_succ k)))

theorem exponent_le_of_roundsTo {digits : Nat} (hrank : rank < infinityRank) (hdigits : digits ≠ 0)
    (h : RoundsTo rank (Decimal.value ⟨digits, exponent⟩)) : exponent ≤ 309 := by
  by_contra hlarge
  obtain ⟨k, rfl⟩ := Int.eq_ofNat_of_zero_le (show 0 ≤ exponent by omega)
  have hmono := units_strictMono.monotone
  have hhere : (units rank : ℚ) ≤ units infinityRank := by exact_mod_cast hmono hrank.le
  have hnext : (units (rank + 1) : ℚ) ≤ units infinityRank := by exact_mod_cast hmono hrank
  have hvalue : Decimal.value ⟨digits, k⟩ ≤ units infinityRank := by
    have := h.high
    linarith
  rw [Decimal.value, ← mul_gridUnits_le_iff] at hvalue
  have hneg : ¬(k : Int) < 0 := by omega
  rw [gridUnits, gridScale, if_neg hneg, if_neg hneg, Nat.mul_one, Int.toNat_natCast] at hvalue
  refine Nat.not_le.2 (units_infinityRank_lt (k := k) (by omega)) ?_
  calc unitsPerOne * Nat.pow 10 k ≤ digits * (unitsPerOne * Nat.pow 10 k) :=
        Nat.le_mul_of_pos_left _ (Nat.pos_of_ne_zero hdigits)
    _ ≤ units infinityRank := hvalue

/-- Ten is more than two to the third, so a number this small is less than half a unit. -/
theorem rank_eq_zero_of_small {digits : Nat}
    (hsmall : (Nat.log2 digits : Int) + 1081 < -3 * exponent)
    (h : RoundsTo rank (Decimal.value ⟨digits, exponent⟩)) : rank = 0 := by
  by_contra hne
  obtain ⟨k, rfl⟩ := Int.exists_eq_neg_ofNat (show exponent ≤ 0 by omega)
  have hone : (1 : ℚ) ≤ units rank := by
    exact_mod_cast Nat.succ_le_of_lt (units_strictMono (Nat.pos_of_ne_zero hne))
  have hprev : (0 : ℚ) ≤ units (rank - 1) := Nat.cast_nonneg _
  have hvalue : (1 : ℚ) ≤ 2 * Decimal.value ⟨digits, -k⟩ := by
    have := h.low
    linarith
  have hscale : (0 : ℚ) < gridScale (-k) := by exact_mod_cast gridScale_pos _
  rw [Decimal.value_eq, ← mul_div_assoc, le_div_iff₀ hscale, one_mul] at hvalue
  have hneg : -(k : Int) < 0 := by omega
  rw [gridUnits, gridScale, if_pos hneg, if_pos hneg, Nat.mul_one, Int.neg_neg,
    Int.toNat_natCast] at hvalue
  have hle : Nat.pow 10 k ≤ 2 * (digits * unitsPerOne) := by exact_mod_cast hvalue
  have hlog : digits < 2 ^ (Nat.log2 digits + 1) := Nat.lt_log2_self
  have hunits : unitsPerOne = 2 ^ 1074 := by decide +kernel
  have hless : 2 ^ (3 * k) < 2 ^ (1 + (Nat.log2 digits + 1 + 1074)) := by
    calc 2 ^ (3 * k) = 8 ^ k := Nat.pow_mul 2 3 k
      _ ≤ 10 ^ k := Nat.pow_le_pow_left (by decide) k
      _ ≤ 2 * (digits * unitsPerOne) := hle
      _ < 2 * (2 ^ (Nat.log2 digits + 1) * unitsPerOne) :=
        Nat.mul_lt_mul_of_pos_left (Nat.mul_lt_mul_of_pos_right hlog unitsPerOne_pos) (by decide)
      _ = 2 ^ (1 + (Nat.log2 digits + 1 + 1074)) := by
        rw [hunits, ← pow_add, ← pow_succ', Nat.add_comm 1]
  have := (Nat.pow_lt_pow_iff_right (by decide)).1 hless
  omega

theorem ofDecimal_eq (negative : Bool) {digits : Nat} (hdigits : digits ≠ 0)
    (hlarge : exponent ≤ 309) (hsmall : -3 * exponent ≤ (Nat.log2 digits : Int) + 1081) :
    ofDecimal negative digits exponent =
      ofRank negative (nearestRank (digits * gridUnits exponent) (gridScale exponent)) := by
  rw [ofDecimal, if_neg hdigits, if_neg (Int.not_lt.2 hlarge), if_neg (Int.not_lt.2 hsmall)]
  unfold ofRatio gridUnits gridScale
  by_cases h : 0 ≤ exponent
  · rw [if_pos h, if_neg (Int.not_lt.2 h), if_neg (Int.not_lt.2 h), Nat.mul_assoc,
      Nat.mul_comm unitsPerOne]
  · rw [if_neg h, if_pos (Int.not_le.1 h), if_pos (Int.not_le.1 h), Nat.mul_one]

/-- Reading goes by the value: whatever rounds to a finite double is read as that double. The two
shortcuts are only taken where rounding says the same. -/
theorem ofDecimal_of_roundsTo {negative : Bool} {digits : Nat} (hrank : rank < infinityRank)
    (h : RoundsTo rank (Decimal.value ⟨digits, exponent⟩)) :
    ofDecimal negative digits exponent = .finite ⟨negative, rank, hrank⟩ := by
  by_cases hzero : digits = 0
  · subst hzero
    cases h.unique (roundsTo_zero exponent)
    rfl
  · have hlarge := exponent_le_of_roundsTo hrank hzero h
    by_cases hsmall : (Nat.log2 digits : Int) + 1081 < -3 * exponent
    · cases rank_eq_zero_of_small hsmall h
      rw [ofDecimal, if_neg hzero, if_neg (Int.not_lt.2 hlarge), if_pos hsmall]
      rfl
    · rw [Decimal.value_eq, ← nearestRank_eq_iff (gridScale_pos exponent)] at h
      rw [ofDecimal_eq negative hzero hlarge (Int.not_lt.1 hsmall), h, ofRank, dif_pos hrank]

/-! ## Reading texts -/

def Digits (cs : List Char) : Prop := ∀ c ∈ cs, c.isDigit = true

/-- A fraction behind its point; none needs no point. -/
def pointed : List Char → List Char
  | [] => []
  | c :: cs => '.' :: c :: cs

variable {whole fraction tail more : List Char} {e : Int}

theorem Digits.append (hwhole : Digits whole) (hfraction : Digits fraction) :
    Digits (whole ++ fraction) := by
  intro c hc
  rcases List.mem_append.1 hc with h | h
  · exact hwhole c h
  · exact hfraction c h

theorem digits_zeros (k : Nat) : Digits (List.replicate k '0') := by
  intro c hc
  rw [List.eq_of_mem_replicate hc]
  rfl

theorem digits_toDigits (n : Nat) : Digits (Nat.toDigits 10 n) :=
  fun _ => Text.isDigit_of_mem_toDigits

theorem pointed_of_ne_nil (h : fraction ≠ []) : pointed fraction = '.' :: fraction := by
  obtain ⟨c, cs, rfl⟩ := List.exists_cons_of_ne_nil h
  rfl

theorem takeWhile_append_of_head? {p : Char → Bool} (h : ∀ c ∈ whole, p c = true)
    (htail : ∀ c ∈ tail.head?, p c = false) :
    (whole ++ tail).takeWhile p = whole ∧ (whole ++ tail).dropWhile p = tail := by
  rw [List.takeWhile_append_of_pos h, List.dropWhile_append_of_pos h]
  cases tail with
  | nil => exact ⟨List.append_nil whole, rfl⟩
  | cons c tail =>
    have hc : ¬p c = true := by simp [htail c rfl]
    rw [List.takeWhile_cons_of_neg hc, List.dropWhile_cons_of_neg hc]
    exact ⟨List.append_nil whole, rfl⟩

theorem isDigit_head?_pointed (fraction : List Char)
    (htail : ∀ c ∈ tail.head?, c.isDigit = false) :
    ∀ c ∈ (pointed fraction ++ tail).head?, c.isDigit = false := by
  cases fraction with
  | nil => exact htail
  | cons d fraction =>
    intro c hc
    cases hc
    rfl

/-- A number without an exponent. -/
theorem unsignedOf?_pointed (negative : Bool) (hne : whole ≠ []) (hwhole : Digits whole)
    (hfraction : Digits fraction) :
    unsignedOf? negative (whole ++ pointed fraction) =
      some (ofDecimal negative (digitsValue 0 (whole ++ fraction)) (-fraction.length)) := by
  have hempty : whole.isEmpty = false := by simpa using hne
  have hnil : ∀ c ∈ ([] : List Char).head?, c.isDigit = false := by simp
  have hhead := isDigit_head?_pointed fraction hnil
  rw [List.append_nil] at hhead
  obtain ⟨htake, hdrop⟩ := takeWhile_append_of_head? hwhole hhead
  rw [Text.digitsValue_append]
  unfold unsignedOf?
  simp only [htake, hdrop, hempty, Bool.false_and, Bool.false_eq_true, if_false]
  cases fraction with
  | nil => rfl
  | cons d fraction =>
    obtain ⟨htake, hdrop⟩ := takeWhile_append_of_head? hfraction hnil
    rw [List.append_nil] at htake hdrop
    simp only [pointed, htake, hdrop]

/-- A number with an exponent. -/
theorem unsignedOf?_exponent (negative : Bool) (hne : whole ≠ []) (hwhole : Digits whole)
    (hfraction : Digits fraction) (more : List Char) :
    unsignedOf? negative (whole ++ (pointed fraction ++ 'e' :: more)) =
      (exponentOf? more).map fun e =>
        ofDecimal negative (digitsValue 0 (whole ++ fraction)) (e - fraction.length) := by
  have hempty : whole.isEmpty = false := by simpa using hne
  have hexponent : ∀ c ∈ ('e' :: more).head?, c.isDigit = false := by simp
  obtain ⟨htake, hdrop⟩ :=
    takeWhile_append_of_head? hwhole (isDigit_head?_pointed fraction hexponent)
  rw [Text.digitsValue_append]
  unfold unsignedOf?
  simp only [htake, hdrop, hempty, Bool.false_and, Bool.false_eq_true, if_false]
  cases fraction with
  | nil => rfl
  | cons d fraction =>
    obtain ⟨htake, hdrop⟩ := takeWhile_append_of_head? hfraction hexponent
    rw [List.cons_append] at htake hdrop
    simp only [pointed, List.cons_append, htake, hdrop, true_or, if_true]

theorem exists_first (hne : whole ≠ []) (hwhole : Digits whole) (tail : List Char) :
    ∃ c rest, whole ++ tail = c :: rest ∧ c.isDigit = true := by
  obtain ⟨c, rest, rfl⟩ := List.exists_cons_of_ne_nil hne
  exact ⟨c, rest ++ tail, rfl, hwhole c List.mem_cons_self⟩

theorem ne_of_isDigit {c : Char} (h : c.isDigit = true) :
    c ≠ '-' ∧ c ≠ '+' ∧ c ≠ 'i' ∧ c ≠ 'n' := by
  refine ⟨?_, ?_, ?_, ?_⟩ <;> rintro rfl <;> exact absurd h (by decide)

theorem exponentOf?_intChars (e : Int) : exponentOf? (intChars e) = some e := by
  unfold intChars
  by_cases h : e < 0
  · rw [if_pos h]
    obtain ⟨n, rfl⟩ := Int.exists_eq_neg_ofNat h.le
    simp [exponentOf?, Text.natural?_toDigits]
  · rw [if_neg h]
    obtain ⟨n, rfl⟩ := Int.eq_ofNat_of_zero_le (Int.not_lt.1 h)
    obtain ⟨c, rest, hchars, hc⟩ := exists_first Nat.toDigits_ne_nil (digits_toDigits n) []
    have hread := Text.natural?_toDigits n
    rw [List.append_nil] at hchars
    rw [Int.natAbs_natCast, hchars] at *
    simp [exponentOf?, ne_of_isDigit hc, hread]

/-- The sign of an exponent is written in both directions. -/
theorem exponentOf?_signed (e : Int) :
    exponentOf? (if e < 0 then intChars e else '+' :: intChars e) = some e := by
  split
  · exact exponentOf?_intChars e
  · rename_i h
    rw [intChars, if_neg h]
    obtain ⟨n, rfl⟩ := Int.eq_ofNat_of_zero_le (Int.not_lt.1 h)
    simp [exponentOf?, Text.natural?_toDigits]

/-! ## Texts of decimal numbers -/

/-- A text that begins with a digit and is read by its value. -/
structure Denotes (cs : List Char) (value : ℚ) : Prop where
  first : ∃ c rest, cs = c :: rest ∧ c.isDigit = true
  read : ∃ digits exponent, Decimal.value ⟨digits, exponent⟩ = value ∧
    ∀ negative, unsignedOf? negative cs = some (ofDecimal negative digits exponent)

theorem denotes_pointed (hne : whole ≠ []) (hwhole : Digits whole) (hfraction : Digits fraction) :
    Denotes (whole ++ pointed fraction)
      (Decimal.value ⟨digitsValue 0 (whole ++ fraction), -fraction.length⟩) :=
  ⟨exists_first hne hwhole _, _, _, rfl, fun negative =>
    unsignedOf?_pointed negative hne hwhole hfraction⟩

theorem denotes_exponent (hne : whole ≠ []) (hwhole : Digits whole) (hfraction : Digits fraction)
    (hmore : exponentOf? more = some e) :
    Denotes (whole ++ (pointed fraction ++ 'e' :: more))
      (Decimal.value ⟨digitsValue 0 (whole ++ fraction), e - fraction.length⟩) := by
  refine ⟨exists_first hne hwhole _, _, _, rfl, fun negative => ?_⟩
  rw [unsignedOf?_exponent negative hne hwhole hfraction, hmore]
  rfl

namespace Decimal

variable (d : Decimal)

theorem digitChars_ne_nil : d.digitChars ≠ [] := Nat.toDigits_ne_nil

theorem digits_digitChars : Digits d.digitChars := digits_toDigits d.digits

theorem digitsValue_digitChars : digitsValue 0 d.digitChars = d.digits :=
  Text.digitsValue_toDigits d.digits

theorem denotes_zeros_before (h : d.point ≤ 0) :
    Denotes (['0', '.'] ++ List.replicate (-d.point).toNat '0' ++ d.digitChars) d.value := by
  have hfraction : Digits (List.replicate (-d.point).toNat '0' ++ d.digitChars) :=
    (digits_zeros _).append d.digits_digitChars
  have hdenotes := denotes_pointed (List.cons_ne_nil '0' []) (digits_zeros 1) hfraction
  have hdigits : digitsValue 0
      (['0'] ++ (List.replicate (-d.point).toNat '0' ++ d.digitChars)) = d.digits := by
    rw [Text.digitsValue_append, Text.digitsValue_append, Text.digitsValue_zeros,
      show digitsValue 0 ['0'] = 0 from rfl, Nat.zero_mul, digitsValue_digitChars]
  have hexponent :
      -((List.replicate (-d.point).toNat '0' ++ d.digitChars).length : Int) = d.exponent := by
    rw [List.length_append, List.length_replicate]
    unfold point at h ⊢
    omega
  rw [hdigits, hexponent, pointed_of_ne_nil (by simp [digitChars_ne_nil])] at hdenotes
  exact hdenotes

theorem denotes_zeros_behind (keepsPoint : Bool) (h : (d.digitChars.length : Int) ≤ d.point) :
    Denotes (d.digitChars ++ List.replicate (d.point - d.digitChars.length).toNat '0' ++
      (if keepsPoint then ['.', '0'] else [])) d.value := by
  have hexponent : ((d.point - d.digitChars.length).toNat : Int) = d.exponent := by
    unfold point at h ⊢
    omega
  generalize (d.point - d.digitChars.length).toNat = k at hexponent ⊢
  have hne : d.digitChars ++ List.replicate k '0' ≠ [] := by simp [digitChars_ne_nil]
  have hwhole : Digits (d.digitChars ++ List.replicate k '0') :=
    d.digits_digitChars.append (digits_zeros k)
  have hdigits : digitsValue 0 (d.digitChars ++ List.replicate k '0') = d.digits * 10 ^ k := by
    rw [Text.digitsValue_append, digitsValue_digitChars, Text.digitsValue_zeros]
  have hvalue : Decimal.value ⟨d.digits * 10 ^ k, 0⟩ = d.value := by
    rw [value_shift, Int.zero_add, hexponent]
  cases keepsPoint with
  | false =>
    have hdenotes := denotes_pointed hne hwhole (digits_zeros 0)
    rwa [List.replicate_zero, List.append_nil, hdigits, List.length_nil, Int.natCast_zero,
      Int.neg_zero, hvalue] at hdenotes
  | true =>
    have hdenotes := denotes_pointed hne hwhole (digits_zeros 1)
    rw [Text.digitsValue_append, hdigits, Text.digitsValue_zeros, value_shift] at hdenotes
    rwa [← hvalue]

theorem denotes_point_inside (hpos : 0 < d.point) (h : d.point < d.digitChars.length) :
    Denotes (d.digitChars.take d.point.toNat ++ '.' :: d.digitChars.drop d.point.toNat)
      d.value := by
  have hdigits := d.digits_digitChars
  have hwhole : Digits (d.digitChars.take d.point.toNat) :=
    fun c hc => hdigits c (List.mem_of_mem_take hc)
  have hfraction : Digits (d.digitChars.drop d.point.toNat) :=
    fun c hc => hdigits c (List.mem_of_mem_drop hc)
  have hne : d.digitChars.take d.point.toNat ≠ [] := by
    rw [Ne, List.take_eq_nil_iff, not_or]
    exact ⟨by omega, d.digitChars_ne_nil⟩
  have hne' : d.digitChars.drop d.point.toNat ≠ [] := by
    rw [Ne, List.drop_eq_nil_iff]
    omega
  have hdenotes := denotes_pointed hne hwhole hfraction
  have hexponent : -((d.digitChars.drop d.point.toNat).length : Int) = d.exponent := by
    rw [List.length_drop]
    unfold point at hpos h ⊢
    omega
  rwa [List.take_append_drop, digitsValue_digitChars, hexponent, pointed_of_ne_nil hne'] at hdenotes

theorem denotes_positionalChars (keepsPoint : Bool) :
    Denotes (positionalChars keepsPoint d.digitChars d.point) d.value := by
  unfold positionalChars
  split
  · rename_i hpoint
    exact d.denotes_zeros_before hpoint
  · rename_i hpos
    split
    · rename_i hlength
      exact d.denotes_zeros_behind keepsPoint hlength
    · rename_i hlength
      exact d.denotes_point_inside (Int.not_le.1 hpos) (Int.not_le.1 hlength)

theorem denotes_exponentChars : Denotes (exponentChars d.digitChars d.point) d.value := by
  have hdigits := d.digits_digitChars
  have hvalue := d.digitsValue_digitChars
  have hpoint : d.point = d.digitChars.length + d.exponent := rfl
  obtain ⟨c, rest, hchars⟩ := List.exists_cons_of_ne_nil d.digitChars_ne_nil
  rw [hchars] at hdigits hvalue hpoint ⊢
  have hfirst : Digits [c] := fun d hd =>
    hdigits d (List.mem_cons.2 (.inl (List.mem_singleton.1 hd)))
  have hrest : Digits rest := fun d hd => hdigits d (List.mem_cons_of_mem c hd)
  have hdenotes := denotes_exponent (List.cons_ne_nil c []) hfirst hrest
    (exponentOf?_signed (d.point - 1))
  have hexponent : d.point - 1 - rest.length = d.exponent := by
    rw [List.length_cons] at hpoint
    omega
  rw [show [c] ++ rest = c :: rest from rfl, hvalue, hexponent] at hdenotes
  unfold exponentChars
  cases rest with
  | nil => exact hdenotes
  | cons d rest => simpa [pointed] using hdenotes

end Decimal

/-! ## Texts of doubles -/

/-- A text that begins with a digit is no name of a special value and has no sign. -/
theorem ofText?_of_first {cs : List Char} (h : ∃ c rest, cs = c :: rest ∧ c.isDigit = true) :
    ofText? cs = unsignedOf? false cs ∧ ofText? ('-' :: cs) = unsignedOf? true cs := by
  obtain ⟨c, rest, rfl, hc⟩ := h
  have hlower : c.toLower = c := by
    refine dif_neg ?_
    rintro ⟨hupper, -⟩
    simp only [Char.isDigit, Bool.and_eq_true, decide_eq_true_eq] at hc
    exact absurd (UInt32.le_trans hupper hc.2) (by decide)
  constructor
  · simp [ofText?, hlower, ne_of_isDigit hc]
  · simp [ofText?, hlower, ne_of_isDigit hc]

theorem Finite.render_cases (layout : Layout) (x : Finite) :
    ∃ cs, x.render layout = (if x.negative then '-' :: cs else cs) ∧
      (cs = positionalChars layout.keepsPoint (x.shortest layout.tie).digitChars
          (x.shortest layout.tie).point ∨
        cs = exponentChars (x.shortest layout.tie).digitChars (x.shortest layout.tie).point) := by
  unfold Finite.render
  dsimp only
  refine ⟨_, rfl, ?_⟩
  split
  · exact .inl rfl
  · exact .inr rfl

/-- A double that is written out reads back as that double. -/
theorem ofText?_render (layout : Layout) (x : Finite) :
    ofText? (x.render layout) = some (.finite x) := by
  obtain ⟨cs, hrender, hbody⟩ := x.render_cases layout
  have hdenotes : Denotes cs (x.shortest layout.tie).value := by
    rcases hbody with rfl | rfl
    · exact Decimal.denotes_positionalChars _ _
    · exact Decimal.denotes_exponentChars _
  obtain ⟨hunsigned, hsigned⟩ := ofText?_of_first hdenotes.first
  obtain ⟨digits, exponent, hvalue, hread⟩ := hdenotes.read
  have hrounds : RoundsTo x.rank (Decimal.value ⟨digits, exponent⟩) :=
    hvalue ▸ roundsTo_shortest layout.tie x
  rw [hrender]
  cases hneg : x.negative with
  | false =>
    rw [if_neg Bool.false_ne_true, hunsigned, hread, ofDecimal_of_roundsTo x.rank_lt hrounds,
      ← hneg]
  | true => rw [if_pos rfl, hsigned, hread, ofDecimal_of_roundsTo x.rank_lt hrounds, ← hneg]

end Binary64
end DocAnalytics
