import DocAnalytics.Proofs.Binary64.Numerals
import DocAnalytics.Proofs.Text.Trim
import DocAnalytics.Value.Numeric

/-!
# DocAnalytics.Proofs.Value.Coercion

How the three ways to read a value as a number agree. A number has no blank in it, so a text that
reads as one with its ends trimmed is a single word between blanks, and its first word and what is
left of it without blanks are that word too (`coerce?_trimmed_iff`). Charts that read one field in
different ways so have the same numbers wherever the strictest of them has one.
-/

namespace DocAnalytics
namespace Json

open Binary64 (Finite)
open Unicode (isBlank)

/-- The text of a value has blanks at its ends only, commas left out. -/
def InOnePiece : Json → Prop
  | .string s => ∀ c ∈ Text.trimChars (s.toList.filter (· ≠ ',')), isBlank c = false
  | _ => True

variable {mode : Coercion} {s : String} {x : Finite}

theorem numberOfText?_of_select? {cs : List Char}
    (h : mode.select? (s.toList.filter (· ≠ ',')) = some cs) :
    numberOfText? mode s = (Binary64.ofText? cs).bind Binary64.finite? := by
  rw [numberOfText?, h]

theorem numberOfText?_of_inOnePiece (h : InOnePiece (.string s))
    (hne : Text.trimChars (s.toList.filter (· ≠ ',')) ≠ []) (mode : Coercion) :
    numberOfText? mode s = numberOfText? .trimmed s := by
  have htrimmed : numberOfText? .trimmed s = _ := numberOfText?_of_select? rfl
  rw [htrimmed]
  cases mode with
  | leadingToken => exact numberOfText?_of_select? (Text.firstWord?_of_core h hne)
  | compact => exact numberOfText?_of_select? (congrArg some (Text.dropBlanks_of_core h))
  | trimmed => exact htrimmed

theorem inOnePiece_of_numberOfText? (h : numberOfText? .trimmed s = some x) :
    InOnePiece (.string s) ∧ Text.trimChars (s.toList.filter (· ≠ ',')) ≠ [] := by
  rw [numberOfText?_of_select? rfl] at h
  obtain ⟨y, hy, -⟩ := Option.bind_eq_some_iff.1 h
  exact ⟨Binary64.isBlank_of_ofText? hy, Binary64.ne_nil_of_ofText? hy⟩

/-- With its ends trimmed a value reads as a number exactly if its first word and what is left of it
without blanks both read as that number, and it is in one piece. -/
theorem coerce?_trimmed_iff (v : Json) (x : Finite) :
    v.coerce? .trimmed = some x ↔
      v.coerce? .leadingToken = some x ∧ v.coerce? .compact = some x ∧ v.InOnePiece := by
  cases v with
  | string s =>
    constructor
    · intro h
      obtain ⟨hpiece, hne⟩ := inOnePiece_of_numberOfText? h
      have hall := numberOfText?_of_inOnePiece hpiece hne
      exact ⟨(hall .leadingToken).trans h, (hall .compact).trans h, hpiece⟩
    · rintro ⟨-, hcompact, hpiece⟩
      by_cases hne : Text.trimChars (s.toList.filter (· ≠ ',')) = []
      · -- nothing but blanks and commas: nothing is left to read
        have hnothing : Coercion.compact.select? (s.toList.filter (· ≠ ',')) = some [] :=
          congrArg some ((Text.dropBlanks_of_core hpiece).trans hne)
        rw [coerce?, numberOfText?_of_select? hnothing] at hcompact
        cases hcompact
      · rw [coerce?, ← numberOfText?_of_inOnePiece hpiece hne .compact]
        exact hcompact
  | null | bool b | number n | array items | object members => simp [coerce?, InOnePiece]

end Json
end DocAnalytics
