import DocAnalytics.Proofs.Unicode.Lowercase
import DocAnalytics.Text.Split

/-!
# DocAnalytics.Proofs.Unicode.Caseless

Texts with letter case left aside, and how far lower-casing finds one inside another. The caseless
form of a text is its lower case, letter by letter, with one small sigma for both: what
lower-casing keeps in any surroundings (`exists_lowercaseFrom_append`). A text that is found in
another one when both are in lower case stands in it, letter case left aside
(`holdsCaseless_of_contains`). The converse holds of texts without a sigma
(`contains_lowercase_iff`) and of no others (`exists_missed_of_sigma`), for a capital sigma has
another lower case at the end of a word than inside it.
-/

namespace DocAnalytics

/-! ## Looking for a text -/

namespace Text

theorem containsChars_iff {needle hay : List Char} :
    containsChars needle hay = true ↔ needle <:+: hay := by
  induction hay with
  | nil => simp [containsChars]
  | cons c hay ih =>
    rw [containsChars, Bool.or_eq_true, List.isPrefixOf_iff_prefix, ih, List.infix_cons_iff]

end Text

namespace Unicode

open CaseRun (mapAll)

/-! ## Letters without case -/

/-- The three forms of the sigma: the capital, the small one and the one at the end of words. -/
def sigmas : List Char := ['Σ', 'σ', 'ς']

def SigmaFree (s : String) : Prop := ∀ c ∈ s.toList, c ∉ sigmas

instance (s : String) : Decidable (SigmaFree s) :=
  decidable_of_iff (s.toList.all (fun c => !sigmas.contains c) = true) (by simp [SigmaFree])

/-- One small sigma for both. -/
def unifySigma (c : Char) : Char := if c = 'ς' then 'σ' else c

/-- A text with letter case left aside. A capital sigma has two lower cases, of which lower-casing
takes now one and now the other, so they count as one letter. -/
def caseless (cs : List Char) : List Char :=
  cs.flatMap fun c => (lowercaseChar c).map unifySigma

/-- A text holds another one, letter case left aside. -/
def HoldsCaseless (hay needle : String) : Prop :=
  caseless needle.toList <:+: caseless hay.toList

instance (hay needle : String) : Decidable (HoldsCaseless hay needle) :=
  decidable_of_iff (Text.containsChars (caseless needle.toList) (caseless hay.toList) = true)
    Text.containsChars_iff

theorem unifySigma_of_ne {c : Char} (h : c ≠ 'ς') : unifySigma c = c := if_neg h

theorem unifySigma_eq_sigma_iff {c : Char} : unifySigma c = 'σ' ↔ c = 'σ' ∨ c = 'ς' := by
  unfold unifySigma
  split <;> simp_all

theorem caseless_cons (c : Char) (cs : List Char) :
    caseless (c :: cs) = (lowercaseChar c).map unifySigma ++ caseless cs := rfl

theorem caseless_append (cs ds : List Char) : caseless (cs ++ ds) = caseless cs ++ caseless ds :=
  List.flatMap_append

theorem lowercaseChar_sigma {c : Char} (h : c ∈ sigmas) :
    (lowercaseChar c).map unifySigma = ['σ'] := by
  have hform : c = 'Σ' ∨ c = 'σ' ∨ c = 'ς' := by simpa [sigmas] using h
  rcases hform with rfl | rfl | rfl <;> decide +kernel

/-- One character in lower case. What becomes of a capital sigma is up to its surroundings, but it
is a small sigma. -/
theorem exists_lowercaseFrom_cons (before : List Char) (c : Char) (cs : List Char) :
    ∃ image, image.map unifySigma = (lowercaseChar c).map unifySigma ∧
      lowercaseFrom before (c :: cs) = image ++ lowercaseFrom (c :: before) cs := by
  refine ⟨_, ?_, rfl⟩
  by_cases hc : c = 'Σ'
  · rw [if_pos hc, hc, lowercaseChar_sigma (.head _)]
    split <;> rfl
  · rw [if_neg hc]

theorem exists_lowercaseFrom_append (before cs rest : List Char) :
    ∃ image, image.map unifySigma = caseless cs ∧
      lowercaseFrom before (cs ++ rest) = image ++ lowercaseFrom (cs.reverse ++ before) rest := by
  induction cs generalizing before with
  | nil => exact ⟨[], rfl, rfl⟩
  | cons c cs ih =>
    obtain ⟨first, hfirst, hcons⟩ := exists_lowercaseFrom_cons before c (cs ++ rest)
    obtain ⟨image, himage, happend⟩ := ih (c :: before)
    refine ⟨first ++ image, ?_, ?_⟩
    · rw [List.map_append, hfirst, himage, caseless_cons]
    · rw [List.cons_append, hcons, happend, List.append_assoc, List.reverse_cons,
        List.append_assoc]
      rfl

theorem map_unifySigma_lowercaseFrom (before cs : List Char) :
    (lowercaseFrom before cs).map unifySigma = caseless cs := by
  obtain ⟨image, himage, happend⟩ := exists_lowercaseFrom_append before cs []
  rw [List.append_nil] at happend
  rw [happend, lowercaseFrom, List.append_nil, himage]

/-! ## Sigmas come from sigmas -/

/-- A run of the table that reaches a small sigma reaches it from the capital. -/
theorem covers_lowercaseRuns_sigma :
    ∀ r ∈ lowercaseRuns, ∀ m ∈ ['σ'.toNat, 'ς'.toNat],
      r.covers ((m : Int) - r.delta).toNat = true → (m : Int) - r.delta = 'Σ'.toNat := by
  decide +kernel

theorem toLower_ascii_ne_sigma : ∀ n < 0x80, (Char.ofNat n).toLower ∉ sigmas := by
  decide +kernel

theorem mapAll_lowercaseRuns_sigma {n m : Nat} (hm : m ∈ ['σ'.toNat, 'ς'.toNat])
    (h : mapAll lowercaseRuns n = m) : n = m ∨ n = 'Σ'.toNat := by
  rcases mapAll_eq_or lowercaseRuns n with hn | ⟨r, hr, hmap⟩
  · exact .inl (hn.symm.trans h)
  · rw [h] at hmap
    obtain ⟨hcovers, himage⟩ := map?_eq_some_iff.1 hmap
    have hpositive : ∀ m ∈ ['σ'.toNat, 'ς'.toNat], 0 < m := by decide
    have hpos := hpositive m hm
    have hsource : (n : Int) = m - r.delta := by omega
    have hcode := covers_lowercaseRuns_sigma r hr m hm (by rwa [← hsource, Int.toNat_natCast])
    omega

theorem mem_sigmas_of_mem_lowercaseChar {c d : Char} (h : d ∈ lowercaseChar c)
    (hd : d = 'σ' ∨ d = 'ς') : c ∈ sigmas := by
  unfold lowercaseChar at h
  split at h
  · rename_i hascii
    have hnot := toLower_ascii_ne_sigma c.toNat hascii
    rw [Char.ofNat_toNat, ← List.mem_singleton.1 h] at hnot
    rcases hd with rfl | rfl <;> exact absurd (by decide) hnot
  · split at h
    · rcases hd with rfl | rfl <;> exact absurd h (by decide)
    · have hcode : mapAll lowercaseRuns c.toNat = d.toNat :=
        toNat_of_ofNat_eq (List.mem_singleton.1 h).symm (by rcases hd with rfl | rfl <;> decide)
      have hsource := mapAll_lowercaseRuns_sigma (by rcases hd with rfl | rfl <;> decide) hcode
      rcases hsource with heq | heq
      · rw [Char.toNat_inj.1 heq]
        rcases hd with rfl | rfl <;> decide
      · rw [Char.toNat_inj.1 heq]
        decide

theorem sigma_not_mem_caseless {cs : List Char} (h : ∀ c ∈ cs, c ∉ sigmas) :
    'σ' ∉ caseless cs := by
  intro hmem
  obtain ⟨c, hc, hmap⟩ := List.mem_flatMap.1 hmem
  obtain ⟨d, hd, hsigma⟩ := List.mem_map.1 hmap
  exact h c hc (mem_sigmas_of_mem_lowercaseChar hd (unifySigma_eq_sigma_iff.1 hsigma))

/-- A text of which no sigma is left had no final sigma. -/
theorem eq_of_map_unifySigma {cs ds : List Char} (h : cs.map unifySigma = ds) (hds : 'σ' ∉ ds) :
    cs = ds := by
  rw [← h]
  have hne : ∀ c ∈ cs, c ≠ 'ς' := by
    rintro c hc rfl
    exact hds (h ▸ List.mem_map_of_mem hc)
  calc cs = cs.map id := (List.map_id cs).symm
    _ = cs.map unifySigma := List.map_congr_left fun c hc => (unifySigma_of_ne (hne c hc)).symm

/-! ## What is found in lower case -/

variable {hay needle : String}

theorem contains_lowercase :
    Text.contains (lowercase hay) (lowercase needle) = true ↔
      lowercaseFrom [] needle.toList <:+: lowercaseFrom [] hay.toList := by
  rw [Text.contains, Text.containsChars_iff, lowercase, lowercase, String.toList_ofList,
    String.toList_ofList]

theorem holdsCaseless_of_contains
    (h : Text.contains (lowercase hay) (lowercase needle) = true) : HoldsCaseless hay needle := by
  have hmap := (contains_lowercase.1 h).map unifySigma
  rwa [map_unifySigma_lowercaseFrom, map_unifySigma_lowercaseFrom] at hmap

theorem contains_lowercase_iff (h : SigmaFree needle) :
    Text.contains (lowercase hay) (lowercase needle) = true ↔ HoldsCaseless hay needle := by
  refine ⟨holdsCaseless_of_contains, fun hholds => contains_lowercase.2 ?_⟩
  have hnone := sigma_not_mem_caseless h
  have hneedle : lowercaseFrom [] needle.toList = caseless needle.toList :=
    eq_of_map_unifySigma (map_unifySigma_lowercaseFrom [] _) hnone
  obtain ⟨lead, trail, hplace⟩ := hholds
  rw [← map_unifySigma_lowercaseFrom [] hay.toList] at hplace
  obtain ⟨front, back, hsplit, hfront, -⟩ := List.map_eq_append_iff.1 hplace.symm
  obtain ⟨start, piece, rfl, -, hpiece⟩ := List.map_eq_append_iff.1 hfront
  rw [hneedle, ← eq_of_map_unifySigma hpiece hnone]
  exact ⟨start, back, hsplit.symm⟩

/-! ## What is missed -/

theorem lowercaseFrom_small_sigma {d : Char} (hd : d = 'σ' ∨ d = 'ς') (before cs : List Char) :
    lowercaseFrom before (d :: cs) = d :: lowercaseFrom (d :: before) cs := by
  have hself : lowercaseChar d = [d] := by
    rcases hd with rfl | rfl <;> decide +kernel
  have hne : d ≠ 'Σ' := by
    rcases hd with rfl | rfl <;> decide
  rw [lowercaseFrom, if_neg hne, hself]
  rfl

theorem exists_lowercaseFrom_sigma {c : Char} (hc : c ∈ sigmas) (before cs : List Char) :
    ∃ d, (d = 'σ' ∨ d = 'ς') ∧
      lowercaseFrom before (c :: cs) = d :: lowercaseFrom (c :: before) cs := by
  obtain ⟨image, himage, hcons⟩ := exists_lowercaseFrom_cons before c cs
  rw [lowercaseChar_sigma hc] at himage
  obtain ⟨d, rfl, hd⟩ := List.map_eq_singleton_iff.1 himage
  exact ⟨d, unifySigma_eq_sigma_iff.1 hd, hcons⟩

theorem caseless_sigma {c : Char} (hc : c ∈ sigmas) (lead trail : List Char) :
    caseless (lead ++ c :: trail) = caseless lead ++ 'σ' :: caseless trail := by
  rw [caseless_append, caseless_cons, lowercaseChar_sigma hc]
  rfl

/-- Texts that differ in a sigma, which lower-casing makes a different one in each, are not found in
each other. -/
theorem not_infix_lowercaseFrom {c d other : Char} (hc : c ∈ sigmas) (hother : other ∈ sigmas)
    {lead trail rest rest' : List Char}
    (hd : lowercaseFrom (lead.reverse ++ []) (c :: trail) = d :: rest)
    (ho : lowercaseFrom (lead.reverse ++ []) (other :: trail) = other :: rest') (hne : other ≠ d) :
    ¬ lowercaseFrom [] (lead ++ c :: trail) <:+: lowercaseFrom [] (lead ++ other :: trail) := by
  intro hinfix
  have hlength : (lowercaseFrom [] (lead ++ c :: trail)).length =
      (lowercaseFrom [] (lead ++ other :: trail)).length := by
    have hneedle := congrArg List.length (map_unifySigma_lowercaseFrom [] (lead ++ c :: trail))
    have hhay := congrArg List.length (map_unifySigma_lowercaseFrom [] (lead ++ other :: trail))
    rw [List.length_map, caseless_sigma hc] at hneedle
    rw [List.length_map, caseless_sigma hother] at hhay
    exact hneedle.trans hhay.symm
  have heq := hinfix.eq_of_length hlength
  obtain ⟨image, himage, hneedle⟩ := exists_lowercaseFrom_append [] lead (c :: trail)
  obtain ⟨image', himage', hhay⟩ := exists_lowercaseFrom_append [] lead (other :: trail)
  rw [hneedle, hhay, hd, ho] at heq
  have hlead : image.length = image'.length := by
    rw [← List.length_map unifySigma, himage, ← himage', List.length_map]
  exact hne (List.cons.inj (List.append_inj heq hlead).2).1.symm

/-- A text with a sigma is missed in the same text with the other small sigma in that place. -/
theorem exists_missed_of_sigma (h : ¬ SigmaFree needle) :
    ∃ hay, hay ≠ needle ∧ HoldsCaseless hay needle ∧
      Text.contains (lowercase hay) (lowercase needle) = false := by
  obtain ⟨c, hmem, hc⟩ : ∃ c ∈ needle.toList, c ∈ sigmas := by simpa [SigmaFree] using h
  obtain ⟨lead, trail, hneedle⟩ := List.append_of_mem hmem
  obtain ⟨d, hd, hlower⟩ := exists_lowercaseFrom_sigma hc (lead.reverse ++ []) trail
  obtain ⟨other, hsmall, hne⟩ : ∃ other, (other = 'σ' ∨ other = 'ς') ∧ other ≠ d := by
    rcases hd with rfl | rfl
    · exact ⟨'ς', .inr rfl, by decide⟩
    · exact ⟨'σ', .inl rfl, by decide⟩
  have hother : other ∈ sigmas := by
    rcases hsmall with rfl | rfl <;> decide
  have hkeeps := lowercaseFrom_small_sigma hsmall (lead.reverse ++ []) trail
  refine ⟨String.ofList (lead ++ other :: trail), ?_, ?_, ?_⟩
  · intro heq
    rw [← String.toList_inj, String.toList_ofList, hneedle] at heq
    have hsame : other = c := (List.cons.inj (List.append_cancel_left heq)).1
    rw [← hsame, hkeeps] at hlower
    exact hne (List.cons.inj hlower).1
  · simp only [HoldsCaseless, String.toList_ofList, hneedle, caseless_sigma hc,
      caseless_sigma hother, List.infix_rfl]
  · rw [Bool.eq_false_iff, ne_eq, contains_lowercase, String.toList_ofList, hneedle]
    exact not_infix_lowercaseFrom hc hother hlower hkeeps hne

end Unicode
end DocAnalytics
