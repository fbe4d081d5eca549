import DocAnalytics.Text.Trim

/-!
# DocAnalytics.Proofs.Text.Trim

Trimming splits a text into blanks, a core without blanks at its ends, and blanks again, and there
is one such core (`trimChars_eq_iff`). If the core has no blanks inside either, it is the first
word of the text and all that is not blank in it (`firstWord?_of_core`, `dropBlanks_of_core`).
-/

namespace DocAnalytics
namespace Text

open Unicode (isBlank)

def Blank (cs : List Char) : Prop := ∀ c ∈ cs, isBlank c = true

structure Trimmed (cs : List Char) : Prop where
  head : ∀ c ∈ cs.head?, isBlank c = false
  last : ∀ c ∈ cs.getLast?, isBlank c = false

theorem blank_nil : Blank [] := fun _ h => by cases h

theorem blank_singleton {c : Char} (h : isBlank c = true) : Blank [c] :=
  fun _ hd => List.mem_singleton.1 hd ▸ h

variable {cs lead trail : List Char}

theorem Blank.append (hlead : Blank lead) (htrail : Blank trail) : Blank (lead ++ trail) :=
  fun c hc => (List.mem_append.1 hc).elim (hlead c) (htrail c)

theorem trimmed_append {ds : List Char} (hcs : cs ≠ []) (hds : ds ≠ [])
    (hhead : ∀ c ∈ cs.head?, isBlank c = false) (hlast : ∀ c ∈ ds.getLast?, isBlank c = false) :
    Trimmed (cs ++ ds) := by
  obtain ⟨c, cs, rfl⟩ := List.exists_cons_of_ne_nil hcs
  obtain ⟨init, d, rfl⟩ := (List.eq_nil_or_concat ds).resolve_left hds
  constructor
  · simpa using hhead
  · rw [List.concat_eq_append, ← List.append_assoc, List.getLast?_concat]
    simpa using hlast

/-! ## One end -/

theorem trimStart_append (h : Blank lead) (cs : List Char) :
    trimStart (lead ++ cs) = trimStart cs := List.dropWhile_append_of_pos h

theorem trimStart_of_head (h : ∀ c ∈ cs.head?, isBlank c = false) : trimStart cs = cs := by
  cases cs with
  | nil => rfl
  | cons c cs => exact List.dropWhile_cons_of_neg (by simp [h c rfl])

theorem exists_trimStart (cs : List Char) :
    ∃ lead, Blank lead ∧ cs = lead ++ trimStart cs ∧
      ∀ c ∈ (trimStart cs).head?, isBlank c = false := by
  refine ⟨cs.takeWhile isBlank, ?_, ?_, ?_⟩
  · exact List.all_eq_true.1 List.all_takeWhile
  · exact List.takeWhile_append_dropWhile.symm
  · intro c hc
    have hnot := List.head?_dropWhile_not isBlank cs
    rw [trimStart] at hc
    rw [hc] at hnot
    exact hnot

theorem trimEnd_eq (cs : List Char) : trimEnd cs = (trimStart cs.reverse).reverse := rfl

theorem trimEnd_append (h : Blank trail) (cs : List Char) : trimEnd (cs ++ trail) = trimEnd cs := by
  have hreverse : Blank trail.reverse := fun c hc => h c (List.mem_reverse.1 hc)
  rw [trimEnd_eq, List.reverse_append, trimStart_append hreverse, trimEnd_eq]

theorem trimEnd_of_last (h : ∀ c ∈ cs.getLast?, isBlank c = false) : trimEnd cs = cs := by
  have hhead : ∀ c ∈ cs.reverse.head?, isBlank c = false := by simpa using h
  rw [trimEnd_eq, trimStart_of_head hhead, List.reverse_reverse]

theorem exists_trimEnd (cs : List Char) :
    ∃ trail, Blank trail ∧ cs = trimEnd cs ++ trail ∧
      ∀ c ∈ (trimEnd cs).getLast?, isBlank c = false := by
  obtain ⟨lead, hlead, hcs, hhead⟩ := exists_trimStart cs.reverse
  refine ⟨lead.reverse, fun c hc => hlead c (List.mem_reverse.1 hc), ?_, ?_⟩
  · rw [trimEnd_eq, ← List.reverse_append, ← hcs, List.reverse_reverse]
  · simpa [trimEnd_eq] using hhead

/-! ## Both ends -/

theorem trimChars_of_trimmed (h : Trimmed cs) : trimChars cs = cs := by
  rw [trimChars, trimStart_of_head h.head, trimEnd_of_last h.last]

/-- Blanks around a text do not count. -/
theorem trimChars_append (hlead : Blank lead) (htrail : Blank trail) (cs : List Char) :
    trimChars (lead ++ cs ++ trail) = trimChars cs := by
  rw [List.append_assoc, trimChars, trimStart_append hlead, trimChars]
  by_cases h : trimStart cs = []
  · have hall : trimStart (cs ++ trail) = [] := by
      obtain ⟨blanks, hblanks, hcs, -⟩ := exists_trimStart cs
      rw [hcs, h, List.append_nil, trimStart_append hblanks, ← List.append_nil trail,
        trimStart_append htrail]
      rfl
    rw [hall, h]
  · have hrest : trimStart (cs ++ trail) = trimStart cs ++ trail := by
      rw [trimStart, List.dropWhile_append, if_neg (by simpa [trimStart] using h)]
      rfl
    rw [hrest, trimEnd_append htrail]

theorem exists_trimChars (cs : List Char) :
    ∃ lead trail, Blank lead ∧ Blank trail ∧ cs = lead ++ trimChars cs ++ trail := by
  obtain ⟨lead, hlead, hcs, -⟩ := exists_trimStart cs
  obtain ⟨trail, htrail, hrest, -⟩ := exists_trimEnd (trimStart cs)
  refine ⟨lead, trail, hlead, htrail, ?_⟩
  rw [trimChars, List.append_assoc, ← hrest, ← hcs]

theorem trimmed_trimChars (cs : List Char) : Trimmed (trimChars cs) := by
  obtain ⟨lead, -, -, hhead⟩ := exists_trimStart cs
  obtain ⟨trail, -, hrest, hlast⟩ := exists_trimEnd (trimStart cs)
  refine ⟨fun c hc => hhead c ?_, hlast⟩
  have hkept : (trimEnd (trimStart cs)).head? = some c := hc
  rw [hrest, List.head?_append, hkept]
  rfl

/-- The core of a text: what is left of it between blanks, with no blank at either end. -/
theorem trimChars_eq_iff {core : List Char} :
    trimChars cs = core ↔
      Trimmed core ∧ ∃ lead trail, Blank lead ∧ Blank trail ∧ cs = lead ++ core ++ trail := by
  constructor
  · rintro rfl
    exact ⟨trimmed_trimChars cs, exists_trimChars cs⟩
  · rintro ⟨hcore, lead, trail, hlead, htrail, rfl⟩
    rw [trimChars_append hlead htrail, trimChars_of_trimmed hcore]

/-! ## One word -/

theorem firstWord?_append (hlead : Blank lead) (htrail : Blank trail)
    (hword : ∀ c ∈ cs, isBlank c = false) (hne : cs ≠ []) :
    firstWord? (lead ++ cs ++ trail) = some cs := by
  obtain ⟨first, cs, rfl⟩ := List.exists_cons_of_ne_nil hne
  have hstart : trimStart (lead ++ (first :: cs) ++ trail) = first :: cs ++ trail := by
    rw [List.append_assoc, trimStart_append hlead]
    refine trimStart_of_head fun c hc => ?_
    cases hc
    exact hword first (.head cs)
  have hend : trail.takeWhile (fun c => !isBlank c) = [] := by
    cases trail with
    | nil => rfl
    | cons c trail => exact List.takeWhile_cons_of_neg (by simp [htrail c (.head trail)])
  have htake : (first :: cs ++ trail).takeWhile (fun c => !isBlank c) = first :: cs := by
    rw [List.takeWhile_append_of_pos (fun c hc => by simp [hword c hc]), hend, List.append_nil]
  rw [firstWord?, hstart, htake]

theorem dropBlanks_append (hlead : Blank lead) (htrail : Blank trail)
    (hword : ∀ c ∈ cs, isBlank c = false) : dropBlanks (lead ++ cs ++ trail) = cs := by
  have hnone : ∀ {blanks : List Char}, Blank blanks → dropBlanks blanks = [] := fun h =>
    List.filter_eq_nil_iff.2 fun c hc => by simp [h c hc]
  have hall : dropBlanks cs = cs := List.filter_eq_self.2 fun c hc => by simp [hword c hc]
  calc dropBlanks (lead ++ cs ++ trail) = dropBlanks lead ++ dropBlanks cs ++ dropBlanks trail := by
        simp only [dropBlanks, List.filter_append]
    _ = cs := by rw [hnone hlead, hall, hnone htrail, List.nil_append, List.append_nil]

theorem firstWord?_of_core (h : ∀ c ∈ trimChars cs, isBlank c = false) (hne : trimChars cs ≠ []) :
    firstWord? cs = some (trimChars cs) := by
  obtain ⟨lead, trail, hlead, htrail, hcs⟩ := exists_trimChars cs
  have hfirst := firstWord?_append hlead htrail h hne
  rwa [← hcs] at hfirst

theorem dropBlanks_of_core (h : ∀ c ∈ trimChars cs, isBlank c = false) :
    dropBlanks cs = trimChars cs := by
  obtain ⟨lead, trail, hlead, htrail, hcs⟩ := exists_trimChars cs
  have hdrop := dropBlanks_append hlead htrail h
  rwa [← hcs] at hdrop

/-! ## What is not blank -/

/-- What is left of a text that is not blank. -/
theorem nonBlank?_eq_some_iff {s core : String} :
    nonBlank? s = some core ↔ core.toList = trimChars s.toList ∧ core.toList ≠ [] := by
  unfold nonBlank?
  split
  · rename_i h
    simp [h]
  · rename_i h
    rw [Option.some.injEq]
    constructor
    · rintro rfl
      exact ⟨String.toList_ofList, by simpa using h⟩
    · rintro ⟨hcore, -⟩
      rw [← hcore, String.ofList_toList]

theorem nonBlank?_of_trimmed {s : String} (h : Trimmed s.toList) (hne : s.toList ≠ []) :
    nonBlank? s = some s :=
  nonBlank?_eq_some_iff.2 ⟨(trimChars_of_trimmed h).symm, hne⟩

end Text
end DocAnalytics
