import DocAnalytics.Analyst.Digest
import DocAnalytics.Proofs.Json.Texts

/-!
# DocAnalytics.Proofs.Analyst.Thousands

Integers with commas between groups of three digits (`thousands_grouped`). Commas are placed from
the front while groups are counted from the end; that each group but the first has three digits
holds of the rest of the digits before it holds of all (`exists_inThrees`). Without its commas the
text is the decimal text of the integer, so no two integers have one text.
-/

namespace DocAnalytics
namespace Digest

open Binary64 (intChars)

/-- Digits in a lead of one to three and groups of three. -/
structure InThrees (digits lead : List Char) (groups : List (List Char)) : Prop where
  together : lead ++ groups.flatten = digits
  lead_pos : 1 ≤ lead.length
  lead_le : lead.length ≤ 3
  three : ∀ group ∈ groups, group.length = 3

/-- The text of a lead and groups, each group behind a comma. -/
def separated (lead : List Char) (groups : List (List Char)) : List Char :=
  lead ++ groups.flatMap fun group => ',' :: group

variable {digits lead : List Char} {groups : List (List Char)}

/-! ## Places of commas -/

theorem InThrees.length_eq (h : InThrees digits lead groups) :
    digits.length = lead.length + 3 * groups.length := by
  have hgroups : groups.flatten.length = 3 * groups.length := by
    have hlengths : groups.map List.length = groups.map fun _ => 3 := List.map_congr_left h.three
    rw [List.length_flatten, hlengths, List.map_const', List.sum_replicate_nat, Nat.mul_comm]
  rw [← h.together, List.length_append, hgroups]

theorem exists_inThrees (h : digits ≠ []) :
    ∃ lead groups, InThrees digits lead groups ∧ withCommas digits = separated lead groups := by
  induction digits with
  | nil => exact absurd rfl h
  | cons d rest ih =>
    cases rest with
    | nil => exact ⟨[d], [], ⟨rfl, by simp, by simp, by simp⟩, rfl⟩
    | cons e rest =>
      obtain ⟨lead, groups, hthrees, hcommas⟩ := ih (by simp)
      have hlength := hthrees.length_eq
      have hpos := hthrees.lead_pos
      have hle := hthrees.lead_le
      rw [withCommas, hcommas]
      · split
        -- three divides the number of digits behind `d`: the lead is full and becomes a group
        · have hfull : lead.length = 3 := by omega
          refine ⟨[d], lead :: groups, ⟨?_, by simp, by simp, ?_⟩, ?_⟩
          · simp [← hthrees.together]
          · exact List.forall_mem_cons.2 ⟨hfull, hthrees.three⟩
          · simp [separated]
        -- otherwise the lead takes one more digit
        · have hroom : lead.length ≤ 2 := by omega
          refine ⟨d :: lead, groups, ⟨?_, by simp, Nat.succ_le_succ hroom, hthrees.three⟩, rfl⟩
          simp [← hthrees.together]
      · simp

/-! ## Texts without commas -/

theorem filter_of_isDigit (h : ∀ c ∈ digits, c.isDigit = true) :
    digits.filter (· ≠ ',') = digits := by
  refine List.filter_eq_self.2 fun c hc => decide_eq_true ?_
  rintro rfl
  cases h ',' hc

theorem filter_separated (h : ∀ c ∈ lead ++ groups.flatten, c.isDigit = true) :
    (separated lead groups).filter (· ≠ ',') = lead ++ groups.flatten := by
  have hlead := filter_of_isDigit fun c hc => h c (List.mem_append_left _ hc)
  have hgroups := filter_of_isDigit fun c hc => h c (List.mem_append_right lead hc)
  have hcommas : (groups.flatMap fun group => ',' :: group).filter (· ≠ ',') =
      groups.flatten.filter (· ≠ ',') := by
    rw [List.flatMap_def, List.filter_flatten, List.filter_flatten, List.map_map]
    rfl
  rw [separated, List.filter_append, hlead, hcommas, hgroups]

theorem exists_thousands (n : Int) : ∃ lead groups,
    InThrees (Nat.toDigits 10 n.natAbs) lead groups ∧
      (∀ c ∈ lead ++ groups.flatten, c.isDigit = true) ∧
      (thousands n).toList = (if n < 0 then ['-'] else []) ++ separated lead groups := by
  obtain ⟨lead, groups, hthrees, hcommas⟩ :=
    exists_inThrees (Nat.toDigits_ne_nil (n := n.natAbs) (b := 10))
  refine ⟨lead, groups, hthrees, ?_, ?_⟩
  · rw [hthrees.together]
    exact fun c => Text.isDigit_of_mem_toDigits
  · rw [thousands, String.toList_ofList, hcommas]
    split <;> rfl

theorem toList_toString (n : Int) : (toString n).toList = intChars n := by
  cases n with
  | ofNat n =>
    have htext : toString (Int.ofNat n) = String.ofList (Nat.toDigits 10 n) := rfl
    have hsign : ¬ Int.ofNat n < 0 := Int.not_lt.2 (Int.natCast_nonneg n)
    rw [htext, String.toList_ofList, intChars, if_neg hsign]
    rfl
  | negSucc n =>
    have htext : toString (Int.negSucc n) = "-" ++ String.ofList (Nat.toDigits 10 (n + 1)) := rfl
    have hminus : "-".toList = ['-'] := rfl
    rw [htext, String.toList_append, hminus, String.toList_ofList, intChars,
      if_pos (Int.negSucc_lt_zero n)]
    rfl

theorem filter_thousands (n : Int) : (thousands n).toList.filter (· ≠ ',') = intChars n := by
  obtain ⟨lead, groups, hthrees, hdigits, htext⟩ := exists_thousands n
  rw [htext, List.filter_append, filter_separated hdigits, hthrees.together, intChars]
  split <;> rfl

/-- An integer is written with a minus sign if it is negative, then a lead of one to three digits,
then groups of exactly three digits, each behind a comma. The text without its commas is the decimal
text of the integer, and no other integer has the same text. -/
theorem thousands_grouped (n : Int) :
    (∃ (lead : List Char) (groups : List (List Char)),
      (thousands n).toList = (if n < 0 then ['-'] else []) ++
        (lead ++ groups.flatMap fun group => ',' :: group) ∧
      1 ≤ lead.length ∧ lead.length ≤ 3 ∧ (∀ group ∈ groups, group.length = 3) ∧
      ∀ c ∈ lead ++ groups.flatten, c.isDigit = true) ∧
    (thousands n).toList.filter (· ≠ ',') = (toString n).toList ∧
    ∀ m, thousands m = thousands n ↔ m = n := by
  refine ⟨?_, ?_, fun m => ⟨fun h => ?_, fun h => h ▸ rfl⟩⟩
  · obtain ⟨lead, groups, hthrees, hdigits, htext⟩ := exists_thousands n
    exact ⟨lead, groups, htext, hthrees.lead_pos, hthrees.lead_le, hthrees.three, hdigits⟩
  · rw [filter_thousands, toList_toString]
  · have hm := filter_thousands m
    rw [h, filter_thousands] at hm
    exact (Json.Number.intChars_inj hm).symm

example : thousands (-9223372036854775808) = "-9,223,372,036,854,775,808" := by decide +kernel

end Digest
end DocAnalytics
