import Mathlib.Data.List.DropRight
import DocAnalytics.Proofs.Json.Reading

/-!
# DocAnalytics.Proofs.Json.Locality

Readers of JSON text look at what they take and, for a number, at one character more. So a value
that was read off the front of a text is read off the front of any longer text too, and with any
more fuel (`readValue_append`). Only a number needs something behind it that ends it.
-/

namespace DocAnalytics
namespace Json
namespace Source

variable {cs rest : List Char}

/-! ## Blanks -/

theorem skipBlanks_append (h : skipBlanks cs ≠ []) (more : List Char) :
    skipBlanks (cs ++ more) = skipBlanks cs ++ more := by
  unfold skipBlanks at h ⊢
  rw [List.dropWhile_append, if_neg]
  simpa only [List.isEmpty_iff] using h

@[simp] theorem skipBlanks_skipBlanks (cs : List Char) :
    skipBlanks (skipBlanks cs) = skipBlanks cs := List.dropWhile_idempotent isBlank cs

/-- What a text begins with, it begins with when more follows. -/
theorem append_ne_cons {c : Char} (hnil : cs ≠ []) (h : ∀ tail, cs ≠ c :: tail)
    (more tail : List Char) : cs ++ more ≠ c :: tail := by
  obtain ⟨b, bs, rfl⟩ := List.exists_cons_of_ne_nil hnil
  intro heq
  obtain ⟨rfl, -⟩ := List.cons.inj heq
  exact h bs rfl

/-! ## Texts -/

theorem readString_append {units out : List Nat} (h : readString units cs = some (out, rest))
    (more : List Char) : readString units (cs ++ more) = some (out, rest ++ more) := by
  fun_induction readString units cs with
  | case1 => cases h
  | case2 units rest' =>
    cases h
    rfl
  | case3 => cases h
  | case4 units a b c d rest' unit hunit ih =>
    rw [← ih h]
    simp [readString, hunit]
  | case5 => cases h
  | case6 units c rest' hlong unit hunit ih =>
    -- No letter `u` here: that escape has four digits.
    have hu : c ≠ 'u' := by
      rintro rfl
      cases hunit
    rw [← ih h]
    simp [readString, hunit, hu]
  | case7 => cases h
  | case8 units c rest' _ _ _ _ ih =>
    rw [← ih h]
    simp_all [readString]

/-! ## Numbers -/

theorem readDigits_append {digits : List Char} (h : readDigits cs = some (digits, rest))
    (hrest : rest ≠ []) (more : List Char) :
    readDigits (cs ++ more) = some (digits, rest ++ more) := by
  unfold readDigits at h ⊢
  split at h
  · cases h
  · rename_i hdigits
    cases h
    have hsplit := List.takeWhile_append_dropWhile (p := Char.isDigit) (l := cs)
    have htake : (cs ++ more).takeWhile Char.isDigit = cs.takeWhile Char.isDigit := by
      rw [List.takeWhile_append, if_neg]
      intro hlength
      have := congrArg List.length hsplit
      rw [List.length_append] at this
      exact hrest (List.length_eq_zero_iff.1 (by omega))
    have hdrop : (cs ++ more).dropWhile Char.isDigit = cs.dropWhile Char.isDigit ++ more := by
      rw [List.dropWhile_append, if_neg (by simpa only [List.isEmpty_iff] using hrest)]
    rw [htake, hdrop]
    split
    · contradiction
    · rfl

theorem readWhole_append {whole : List Char} (h : readWhole cs = some (whole, rest))
    (hrest : rest ≠ []) (more : List Char) :
    readWhole (cs ++ more) = some (whole, rest ++ more) := by
  unfold readWhole at h
  split at h
  · cases h
    rfl
  · rename_i hzero
    have hnil : cs ≠ [] := by
      rintro rfl
      cases h
    have hzero' := append_ne_cons hnil hzero more
    rw [readWhole]
    · exact readDigits_append h hrest more
    · exact hzero'

theorem readFraction_append {fraction : Option (List Char)}
    (h : readFraction cs = some (fraction, rest)) (hrest : rest ≠ []) (more : List Char) :
    readFraction (cs ++ more) = some (fraction, rest ++ more) := by
  unfold readFraction at h
  split at h
  · obtain ⟨⟨digits, rest'⟩, hdigits, heq⟩ := Option.map_eq_some_iff.1 h
    cases heq
    simp [readFraction, readDigits_append hdigits hrest]
  · rename_i hpoint
    cases h
    rw [readFraction]
    exact append_ne_cons hrest hpoint more

theorem readExponentDigits_append {negative : Bool} {exponent : Option Int}
    (h : readExponentDigits negative cs = some (exponent, rest)) (hrest : rest ≠ [])
    (more : List Char) :
    readExponentDigits negative (cs ++ more) = some (exponent, rest ++ more) := by
  obtain ⟨⟨digits, rest'⟩, hdigits, heq⟩ := Option.map_eq_some_iff.1 h
  cases heq
  simp [readExponentDigits, readDigits_append hdigits hrest]

theorem readExponent_append {exponent : Option Int}
    (h : readExponent cs = some (exponent, rest)) (hrest : rest ≠ []) (more : List Char) :
    readExponent (cs ++ more) = some (exponent, rest ++ more) := by
  unfold readExponent at h
  split at h
  · cases h
    contradiction
  · rename_i c after
    split at h
    · rename_i he
      split at h
      · simpa only [List.cons_append, readExponent, if_pos he] using
          readExponentDigits_append h hrest more
      · simpa only [List.cons_append, readExponent, if_pos he] using
          readExponentDigits_append h hrest more
      · rename_i hplus hminus
        have hnil : after ≠ [] := by
          rintro rfl
          cases h
        rw [List.cons_append, readExponent, if_pos he]
        · exact readExponentDigits_append h hrest more
        · exact append_ne_cons hnil hplus more
        · exact append_ne_cons hnil hminus more
    · rename_i he
      cases h
      unfold readExponent
      simp only [List.cons_append, if_neg he]

theorem readUnsigned_append {negative : Bool} {l : Literal}
    (h : readUnsigned negative cs = some (l, rest)) (hrest : rest ≠ []) (more : List Char) :
    readUnsigned negative (cs ++ more) = some (l, rest ++ more) := by
  unfold readUnsigned at h
  split at h
  · cases h
  · rename_i whole behindWhole hwhole
    split at h
    · cases h
    · rename_i fraction behindFraction hfraction
      split at h
      · cases h
      · rename_i exponent behindExponent hexponent
        cases h
        -- Behind each part stands what is behind the last one.
        have hbehindFraction : behindFraction ≠ [] := by
          rintro rfl
          exact hrest (List.suffix_nil.1 (readExponent_suffix hexponent))
        have hbehindWhole : behindWhole ≠ [] := by
          rintro rfl
          exact hbehindFraction (List.suffix_nil.1 (readFraction_suffix hfraction))
        simp only [readUnsigned, readWhole_append hwhole hbehindWhole,
          readFraction_append hfraction hbehindFraction, readExponent_append hexponent hrest]

theorem readNumber_append {l : Literal} (h : readNumber cs = some (l, rest)) (hrest : rest ≠ [])
    (more : List Char) : readNumber (cs ++ more) = some (l, rest ++ more) := by
  unfold readNumber at h
  split at h
  · exact readUnsigned_append h hrest more
  · rename_i hminus
    have hnil : cs ≠ [] := by
      rintro rfl
      cases h
    rw [readNumber]
    · exact readUnsigned_append h hrest more
    · exact append_ne_cons hnil hminus more

/-- A number begins with a sign or a digit. -/
theorem eq_minus_or_isDigit_of_readNumber {c : Char} {l : Literal}
    (h : readNumber (c :: cs) = some (l, rest)) : c = '-' ∨ c.isDigit = true := by
  by_cases hminus : c = '-'
  · exact .inl hminus
  · by_cases hdigit : c.isDigit = true
    · exact .inr hdigit
    · have hzero : c ≠ '0' := by
        rintro rfl
        exact hdigit rfl
      have hwhole : readWhole (c :: cs) = none := by
        simp [readWhole, readDigits, hzero, hdigit]
      simp [readNumber, readUnsigned, hminus, hwhole] at h

/-! ## One step into a value -/

variable {fuel : Nat} {item : Source} {items : List Source} {key : List Nat}
  {members : List (List Nat × Source)} {next behind behindKey inside : List Char}

theorem readValue_string {units : List Nat} (h : readString [] cs = some (units, rest)) :
    readValue (fuel + 1) ('"' :: cs) = some (.string units, rest) := by
  simp [readValue, h]

theorem readValue_array_nil (h : skipBlanks cs = ']' :: rest) :
    readValue (fuel + 1) ('[' :: cs) = some (.array [], rest) := by
  simp [readValue, h]

theorem readValue_array (hopen : ∀ tail, skipBlanks cs ≠ ']' :: tail)
    (h : readItems fuel (skipBlanks cs) = some (items, rest)) :
    readValue (fuel + 1) ('[' :: cs) = some (.array items, rest) := by
  unfold readValue
  rw [if_neg (by decide), if_pos rfl]
  split
  · rename_i hclose
    exact absurd hclose (hopen _)
  · rw [h]
    rfl

theorem readValue_object_nil (h : skipBlanks cs = '\x7d' :: rest) :
    readValue (fuel + 1) ('\x7b' :: cs) = some (.object [], rest) := by
  simp [readValue, h]

theorem readValue_object (hopen : ∀ tail, skipBlanks cs ≠ '\x7d' :: tail)
    (h : readMembers fuel (skipBlanks cs) = some (members, rest)) :
    readValue (fuel + 1) ('\x7b' :: cs) = some (.object members, rest) := by
  unfold readValue
  rw [if_neg (by decide), if_neg (by decide), if_pos rfl]
  split
  · rename_i hclose
    exact absurd hclose (hopen _)
  · rw [h]
    rfl

/-- A value that begins like a number is one. -/
theorem readValue_number {c : Char} {l : Literal} (h : readNumber (c :: cs) = some (l, rest)) :
    readValue (fuel + 1) (c :: cs) = some (.number l, rest) := by
  have hc := eq_minus_or_isDigit_of_readNumber h
  have hother : ∀ d : Char, d ≠ '-' → d.isDigit = false → c ≠ d := by
    rintro d hminus hdigit rfl
    rcases hc with hc | hc
    · exact hminus hc
    · rw [hdigit] at hc
      cases hc
  have hquote := hother '"' (by decide) (by decide)
  have hbracket := hother '[' (by decide) (by decide)
  have hbrace := hother '\x7b' (by decide) (by decide)
  have hn := hother 'n' (by decide) (by decide)
  have ht := hother 't' (by decide) (by decide)
  have hf := hother 'f' (by decide) (by decide)
  simp [readValue, hquote, hbracket, hbrace, hn, ht, hf, h]

theorem readItems_last (hitem : readValue fuel (skipBlanks cs) = some (item, behind))
    (hclose : skipBlanks behind = ']' :: rest) : readItems (fuel + 1) cs = some ([item], rest) := by
  simp [readItems, hitem, hclose]

theorem readItems_cons (hitem : readValue fuel (skipBlanks cs) = some (item, behind))
    (hcomma : skipBlanks behind = ',' :: next) (h : readItems fuel next = some (items, rest)) :
    readItems (fuel + 1) cs = some (item :: items, rest) := by
  simp [readItems, hitem, hcomma, h]

theorem readMembers_last (hquote : skipBlanks cs = '"' :: inside)
    (hkey : readString [] inside = some (key, behindKey))
    (hcolon : skipBlanks behindKey = ':' :: next)
    (hitem : readValue fuel (skipBlanks next) = some (item, behind))
    (hclose : skipBlanks behind = '\x7d' :: rest) :
    readMembers (fuel + 1) cs = some ([(key, item)], rest) := by
  simp [readMembers, hquote, hkey, hcolon, hitem, hclose]

theorem readMembers_cons {others : List Char} (hquote : skipBlanks cs = '"' :: inside)
    (hkey : readString [] inside = some (key, behindKey))
    (hcolon : skipBlanks behindKey = ':' :: next)
    (hitem : readValue fuel (skipBlanks next) = some (item, behind))
    (hcomma : skipBlanks behind = ',' :: others)
    (h : readMembers fuel others = some (members, rest)) :
    readMembers (fuel + 1) cs = some ((key, item) :: members, rest) := by
  simp [readMembers, hquote, hkey, hcolon, hitem, hcomma, h]

/-! ## Values -/

/-- Numbers are the values that only what follows them ends. -/
def isNumber : Source → Bool
  | .number _ => true
  | _ => false

/-- Blanks and a character behind them, when more follows. -/
theorem skipBlanks_append_cons {c : Char} (h : skipBlanks cs = c :: rest) (more : List Char) :
    skipBlanks (cs ++ more) = c :: (rest ++ more) := by
  rw [skipBlanks_append (by simp [h]), h, List.cons_append]

theorem ne_nil_of_readItems (h : readItems fuel cs = some (items, rest)) : cs ≠ [] := by
  rintro rfl
  exact absurd (List.suffix_nil.1 (readItems_suffix fuel h)) (by simp)

theorem ne_nil_of_readMembers (h : readMembers fuel cs = some (members, rest)) : cs ≠ [] := by
  rintro rfl
  exact absurd (List.suffix_nil.1 (readMembers_suffix fuel h)) (by simp)

theorem ne_nil_of_readValue (h : readValue fuel cs = some (item, rest)) : cs ≠ [] := by
  rintro rfl
  cases fuel <;> cases h

/-- A value behind blanks that something follows, given `readValue_append` for its fuel. -/
theorem readValue_skipBlanks_append {extra : Nat} {more : List Char}
    (happend : ∀ {cs rest item}, readValue fuel cs = some (item, rest) →
      (item.isNumber = true → rest ≠ []) →
        readValue (fuel + extra) (cs ++ more) = some (item, rest ++ more))
    (hitem : readValue fuel (skipBlanks cs) = some (item, behind))
    (hbehind : skipBlanks behind ≠ []) :
    readValue (fuel + extra) (skipBlanks (cs ++ more)) = some (item, behind ++ more) := by
  rw [skipBlanks_append (ne_nil_of_readValue hitem)]
  refine happend hitem fun _ => ?_
  rintro rfl
  exact hbehind rfl

-- By recursion on the fuel, as the readers themselves; all of them are given the same fuel more.
mutual

/-- What is read off the front of a text is read off the front of a longer one. -/
theorem readValue_append (fuel : Nat) {cs rest : List Char} {item : Source}
    (h : readValue fuel cs = some (item, rest)) (hrest : item.isNumber = true → rest ≠ [])
    (extra : Nat) (more : List Char) :
    readValue (fuel + extra) (cs ++ more) = some (item, rest ++ more) := by
  match fuel, cs with
  | 0, _ => cases h
  | _ + 1, [] => cases h
  | fuel + 1, c :: tail =>
    have hfuel : fuel + 1 + extra = fuel + extra + 1 := by omega
    rw [hfuel, List.cons_append]
    unfold readValue at h
    split at h
    · rename_i hquote
      subst hquote
      obtain ⟨⟨units, after⟩, hunits, heq⟩ := Option.map_eq_some_iff.1 h
      cases heq
      exact readValue_string (readString_append hunits more)
    · split at h
      · rename_i hbracket
        subst hbracket
        split at h
        · rename_i after hclose
          cases h
          exact readValue_array_nil (skipBlanks_append_cons hclose more)
        · rename_i hopen
          obtain ⟨⟨items, after⟩, hitems, heq⟩ := Option.map_eq_some_iff.1 h
          cases heq
          have hnil := ne_nil_of_readItems hitems
          have hread := readItems_append fuel hitems extra more
          rw [← skipBlanks_append hnil] at hread
          refine readValue_array ?_ hread
          rw [skipBlanks_append hnil]
          exact append_ne_cons hnil hopen more
      · split at h
        · rename_i hbrace
          subst hbrace
          split at h
          · rename_i after hclose
            cases h
            exact readValue_object_nil (skipBlanks_append_cons hclose more)
          · rename_i hopen
            obtain ⟨⟨members, after⟩, hmembers, heq⟩ := Option.map_eq_some_iff.1 h
            cases heq
            have hnil := ne_nil_of_readMembers hmembers
            have hread := readMembers_append fuel hmembers extra more
            rw [← skipBlanks_append hnil] at hread
            refine readValue_object ?_ hread
            rw [skipBlanks_append hnil]
            exact append_ne_cons hnil hopen more
        · split at h
          · cases h
            rfl
          · cases h
            rfl
          · cases h
            rfl
          · obtain ⟨⟨l, after⟩, hnumber, heq⟩ := Option.map_eq_some_iff.1 h
            cases heq
            exact readValue_number (readNumber_append hnumber (hrest rfl) more)

theorem readItems_append (fuel : Nat) {cs rest : List Char} {items : List Source}
    (h : readItems fuel cs = some (items, rest)) (extra : Nat) (more : List Char) :
    readItems (fuel + extra) (cs ++ more) = some (items, rest ++ more) := by
  match fuel with
  | 0 => cases h
  | fuel + 1 =>
    have hfuel : fuel + 1 + extra = fuel + extra + 1 := by omega
    rw [hfuel]
    unfold readItems at h
    split at h
    · cases h
    · rename_i item behind hitem
      have hread := readValue_skipBlanks_append
        (fun h hrest => readValue_append fuel h hrest extra more) hitem
      split at h
      · rename_i after hclose
        cases h
        exact readItems_last (hread (by simp [hclose])) (skipBlanks_append_cons hclose more)
      · rename_i next hcomma
        obtain ⟨⟨items, after⟩, hitems, heq⟩ := Option.map_eq_some_iff.1 h
        cases heq
        exact readItems_cons (hread (by simp [hcomma])) (skipBlanks_append_cons hcomma more)
          (readItems_append fuel hitems extra more)
      · cases h

theorem readMembers_append (fuel : Nat) {cs rest : List Char} {members : List (List Nat × Source)}
    (h : readMembers fuel cs = some (members, rest)) (extra : Nat) (more : List Char) :
    readMembers (fuel + extra) (cs ++ more) = some (members, rest ++ more) := by
  match fuel with
  | 0 => cases h
  | fuel + 1 =>
    have hfuel : fuel + 1 + extra = fuel + extra + 1 := by omega
    rw [hfuel]
    unfold readMembers at h
    split at h
    · rename_i inside hquote
      have hquote' := skipBlanks_append_cons hquote more
      split at h
      · cases h
      · rename_i key behindKey hkey
        have hkey' := readString_append hkey more
        split at h
        · rename_i next hcolon
          have hcolon' := skipBlanks_append_cons hcolon more
          split at h
          · cases h
          · rename_i item behind hitem
            have hread := readValue_skipBlanks_append
              (fun h hrest => readValue_append fuel h hrest extra more) hitem
            split at h
            · rename_i after hclose
              cases h
              exact readMembers_last hquote' hkey' hcolon' (hread (by simp [hclose]))
                (skipBlanks_append_cons hclose more)
            · rename_i others hcomma
              obtain ⟨⟨members, after⟩, hmembers, heq⟩ := Option.map_eq_some_iff.1 h
              cases heq
              exact readMembers_cons hquote' hkey' hcolon' (hread (by simp [hcomma]))
                (skipBlanks_append_cons hcomma more) (readMembers_append fuel hmembers extra more)
            · cases h
        · cases h
    · cases h

end

end Source
end Json
end DocAnalytics
