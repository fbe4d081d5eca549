import DocAnalytics.Json.Source

/-!
# DocAnalytics.Proofs.Json.Reading

Readers of JSON text take characters off its front: what they leave is the end of the text
(`readValue_suffix`), behind the bracket or brace that closes what they have read. So the text of an
object stands between braces (`exists_braces_of_readChars?`).
-/

namespace DocAnalytics
namespace Json
namespace Source

variable {cs rest : List Char}

theorem skipBlanks_suffix (cs : List Char) : skipBlanks cs <:+ cs := List.dropWhile_suffix isBlank

/-- The text behind the first character of a suffix. -/
theorem suffix_of_cons {c : Char} (h : c :: rest <:+ cs) : rest <:+ cs :=
  (List.suffix_cons c rest).trans h

/-! ## Texts and numbers -/

theorem readString_suffix {units out : List Nat} (h : readString units cs = some (out, rest)) :
    rest <:+ cs := by
  fun_induction readString units cs with
  | case1 => cases h
  | case2 units rest' =>
    cases h
    exact List.suffix_cons _ _
  | case3 => cases h
  | case4 units a b c d rest' unit hunit ih =>
    exact (ih h).trans ⟨['\\', 'u', a, b, c, d], rfl⟩
  | case5 => cases h
  | case6 units c rest' _ unit hunit ih => exact (ih h).trans ⟨['\\', c], rfl⟩
  | case7 => cases h
  | case8 units c rest' _ _ _ _ ih => exact (ih h).trans (List.suffix_cons c rest')

theorem readDigits_suffix {digits : List Char} (h : readDigits cs = some (digits, rest)) :
    rest <:+ cs := by
  unfold readDigits at h
  split at h <;> cases h
  exact List.dropWhile_suffix Char.isDigit

theorem readWhole_suffix {whole : List Char} (h : readWhole cs = some (whole, rest)) :
    rest <:+ cs := by
  unfold readWhole at h
  split at h
  · cases h
    exact List.suffix_cons _ _
  · exact readDigits_suffix h

theorem readFraction_suffix {fraction : Option (List Char)}
    (h : readFraction cs = some (fraction, rest)) : rest <:+ cs := by
  unfold readFraction at h
  split at h
  · obtain ⟨⟨digits, rest'⟩, hdigits, heq⟩ := Option.map_eq_some_iff.1 h
    cases heq
    exact (readDigits_suffix hdigits).trans (List.suffix_cons _ _)
  · cases h
    exact List.suffix_rfl

theorem readExponentDigits_suffix {negative : Bool} {exponent : Option Int}
    (h : readExponentDigits negative cs = some (exponent, rest)) : rest <:+ cs := by
  obtain ⟨⟨digits, rest'⟩, hdigits, heq⟩ := Option.map_eq_some_iff.1 h
  cases heq
  exact readDigits_suffix hdigits

theorem readExponent_suffix {exponent : Option Int} (h : readExponent cs = some (exponent, rest)) :
    rest <:+ cs := by
  unfold readExponent at h
  split at h
  · cases h
    exact List.suffix_rfl
  · rename_i c after
    split at h
    · split at h
      · exact (readExponentDigits_suffix h).trans ⟨[c, '+'], rfl⟩
      · exact (readExponentDigits_suffix h).trans ⟨[c, '-'], rfl⟩
      · exact (readExponentDigits_suffix h).trans (List.suffix_cons c after)
    · cases h
      exact List.suffix_rfl

theorem readUnsigned_suffix {negative : Bool} {l : Literal}
    (h : readUnsigned negative cs = some (l, rest)) : rest <:+ cs := by
  unfold readUnsigned at h
  split at h
  · cases h
  · rename_i hwhole
    split at h
    · cases h
    · rename_i hfraction
      split at h
      · cases h
      · rename_i hexponent
        cases h
        exact (readExponent_suffix hexponent).trans
          ((readFraction_suffix hfraction).trans (readWhole_suffix hwhole))

theorem readNumber_suffix {l : Literal} (h : readNumber cs = some (l, rest)) : rest <:+ cs := by
  unfold readNumber at h
  split at h
  · exact (readUnsigned_suffix h).trans (List.suffix_cons _ _)
  · exact readUnsigned_suffix h

/-! ## Values -/

/-- What comes behind the bracket that opens an array or object and the blanks after it. -/
theorem skipBlanks_suffix_cons (c : Char) (cs : List Char) : skipBlanks cs <:+ c :: cs :=
  (skipBlanks_suffix cs).trans (List.suffix_cons c cs)

mutual

theorem readValue_suffix (fuel : Nat) {cs rest : List Char} {value : Source}
    (h : readValue fuel cs = some (value, rest)) : rest <:+ cs := by
  match fuel, cs with
  | 0, _ => cases h
  | _ + 1, [] => cases h
  | fuel + 1, c :: tail =>
    unfold readValue at h
    split at h
    · obtain ⟨⟨units, after⟩, hunits, heq⟩ := Option.map_eq_some_iff.1 h
      cases heq
      exact (readString_suffix hunits).trans (List.suffix_cons c tail)
    · split at h
      · split at h
        · rename_i after hclose
          cases h
          exact suffix_of_cons (hclose ▸ skipBlanks_suffix_cons c tail)
        · obtain ⟨⟨items, after⟩, hitems, heq⟩ := Option.map_eq_some_iff.1 h
          cases heq
          exact suffix_of_cons
            ((readItems_suffix fuel hitems).trans (skipBlanks_suffix_cons c tail))
      · split at h
        · split at h
          · rename_i after hclose
            cases h
            exact suffix_of_cons (hclose ▸ skipBlanks_suffix_cons c tail)
          · obtain ⟨⟨members, after⟩, hmembers, heq⟩ := Option.map_eq_some_iff.1 h
            cases heq
            exact suffix_of_cons
              ((readMembers_suffix fuel hmembers).trans (skipBlanks_suffix_cons c tail))
        · split at h
          · cases h
            exact ⟨['n', 'u', 'l', 'l'], rfl⟩
          · cases h
            exact ⟨['t', 'r', 'u', 'e'], rfl⟩
          · cases h
            exact ⟨['f', 'a', 'l', 's', 'e'], rfl⟩
          · obtain ⟨⟨l, after⟩, hnumber, heq⟩ := Option.map_eq_some_iff.1 h
            cases heq
            exact readNumber_suffix hnumber

theorem readItems_suffix (fuel : Nat) {cs rest : List Char} {items : List Source}
    (h : readItems fuel cs = some (items, rest)) : ']' :: rest <:+ cs := by
  match fuel with
  | 0 => cases h
  | fuel + 1 =>
    unfold readItems at h
    split at h
    · cases h
    · rename_i item behind hitem
      have hbehind : skipBlanks behind <:+ cs := (skipBlanks_suffix behind).trans
        ((readValue_suffix fuel hitem).trans (skipBlanks_suffix cs))
      split at h
      · rename_i after hclose
        cases h
        exact hclose ▸ hbehind
      · rename_i next hcomma
        obtain ⟨⟨items, after⟩, hitems, heq⟩ := Option.map_eq_some_iff.1 h
        cases heq
        exact (readItems_suffix fuel hitems).trans (suffix_of_cons (hcomma ▸ hbehind))
      · cases h

theorem readMembers_suffix (fuel : Nat) {cs rest : List Char} {members : List (List Nat × Source)}
    (h : readMembers fuel cs = some (members, rest)) : '\x7d' :: rest <:+ cs := by
  match fuel with
  | 0 => cases h
  | fuel + 1 =>
    unfold readMembers at h
    split at h
    · rename_i inside hquote
      have hinside : inside <:+ cs := suffix_of_cons (hquote ▸ skipBlanks_suffix cs)
      split at h
      · cases h
      · rename_i key behindKey hkey
        have hbehindKey : skipBlanks behindKey <:+ cs :=
          (skipBlanks_suffix behindKey).trans ((readString_suffix hkey).trans hinside)
        split at h
        · rename_i colon hcolon
          split at h
          · cases h
          · rename_i value behind hvalue
            have hbehind : skipBlanks behind <:+ cs := (skipBlanks_suffix behind).trans
              ((readValue_suffix fuel hvalue).trans ((skipBlanks_suffix colon).trans
                (suffix_of_cons (hcolon ▸ hbehindKey))))
            split at h
            · rename_i after hclose
              cases h
              exact hclose ▸ hbehind
            · rename_i next hcomma
              obtain ⟨⟨members, after⟩, hmembers, heq⟩ := Option.map_eq_some_iff.1 h
              cases heq
              exact (readMembers_suffix fuel hmembers).trans (suffix_of_cons (hcomma ▸ hbehind))
            · cases h
        · cases h
    · cases h

end

/-! ## Objects -/

theorem exists_braces_of_readValue {fuel : Nat} {members : List (List Nat × Source)}
    (h : readValue fuel cs = some (.object members, rest)) :
    ∃ inner, cs = '\x7b' :: (inner ++ '\x7d' :: rest) := by
  match fuel, cs with
  | 0, _ => cases h
  | _ + 1, [] => cases h
  | fuel + 1, c :: tail =>
    unfold readValue at h
    split at h
    · obtain ⟨_, _, heq⟩ := Option.map_eq_some_iff.1 h
      cases heq
    · split at h
      · split at h
        · cases h
        · obtain ⟨_, _, heq⟩ := Option.map_eq_some_iff.1 h
          cases heq
      · split at h
        · rename_i hbrace
          subst hbrace
          have hclosed : '\x7d' :: rest <:+ tail := by
            split at h
            · rename_i after hclose
              cases h
              exact hclose ▸ skipBlanks_suffix tail
            · obtain ⟨⟨members, after⟩, hmembers, heq⟩ := Option.map_eq_some_iff.1 h
              cases heq
              exact (readMembers_suffix fuel hmembers).trans (skipBlanks_suffix tail)
          obtain ⟨inner, hinner⟩ := hclosed
          exact ⟨inner, congrArg _ hinner.symm⟩
        · split at h
          · cases h
          · cases h
          · cases h
          · obtain ⟨_, _, heq⟩ := Option.map_eq_some_iff.1 h
            cases heq

/-- The text of an object stands between braces, with blanks around them. -/
theorem exists_braces_of_readChars? {members : List (List Nat × Source)}
    (h : readChars? cs = some (.object members)) :
    ∃ lead inner trail, (∀ c ∈ lead, isBlank c = true) ∧ (∀ c ∈ trail, isBlank c = true) ∧
      cs = lead ++ ('\x7b' :: (inner ++ ['\x7d'])) ++ trail := by
  unfold readChars? at h
  split at h
  · cases h
  · rename_i source rest hvalue
    split at h
    · rename_i hrest
      cases h
      obtain ⟨inner, hinner⟩ := exists_braces_of_readValue hvalue
      refine ⟨cs.takeWhile isBlank, inner, rest, List.all_eq_true.1 List.all_takeWhile, ?_, ?_⟩
      · have htrail : rest.takeWhile isBlank = rest := by
          have hsplit := List.takeWhile_append_dropWhile (p := isBlank) (l := rest)
          rwa [← skipBlanks, List.isEmpty_iff.1 hrest, List.append_nil] at hsplit
        exact htrail ▸ List.all_eq_true.1 List.all_takeWhile
      · have hsplit := List.takeWhile_append_dropWhile (p := isBlank) (l := cs)
        rw [← skipBlanks, hinner] at hsplit
        simpa using hsplit.symm
    · cases h

end Source
end Json
end DocAnalytics
