import DocAnalytics.Aggregate.Expression
import DocAnalytics.Proofs.Text.Trim
import DocAnalytics.Proofs.Unicode.Lowercase
import Mathlib.Data.List.Basic

/-!
# DocAnalytics.Proofs.Aggregate.Grammar

The grammar of aggregation expressions (`Spells`): which texts are read, and as what
(`ofText_iff`). Between any blanks stand the name of a function, an opening parenthesis, a field
(`IsField`) and the parenthesis that closes it. The name is in ASCII letters of either case,
although letters are compared by their folding first: those that only fold to the letters of a name
do not lower-case to them.
-/

namespace DocAnalytics
namespace Expression

open Text (Blank Trimmed trimStart trimChars)
open Unicode (isBlank fold)

/-- A field as an expression holds it: not empty, with no parentheses and no blanks at its ends. -/
structure IsField (cs : List Char) : Prop where
  ne_nil : cs ≠ []
  trimmed : Trimmed cs
  noOpening : '(' ∉ cs
  noClosing : ')' ∉ cs

/-- The letters of a function's name, each in either case. -/
def Names (f : Aggregate) (cs : List Char) : Prop := cs.map Char.toLower = f.name.toList

/-- A text that spells an expression, with blanks in all places where they may stand. -/
def Spells (e : Expression) (cs : List Char) : Prop :=
  ∃ lead name gap left right trail,
    Blank lead ∧ Blank gap ∧ Blank left ∧ Blank right ∧ Blank trail ∧
    Names e.function name ∧ IsField e.field.toList ∧
    cs = lead ++ (name ++ (gap ++ '(' :: (left ++ e.field.toList ++ right ++ [')']))) ++ trail

/-! ## Names of functions -/

section Names

variable {f : Aggregate} {cs : List Char}

theorem names_name (f : Aggregate) : Names f f.name.toList := by cases f <;> rfl

theorem isLower_of_mem_name (f : Aggregate) : ∀ c ∈ f.name.toList, c.isLower = true ∧ c ≠ 'k' := by
  have hall : f.name.toList.all (fun c => c.isLower && c != 'k') = true := by cases f <;> decide
  simpa using hall

/-- The letters of a name are neither blanks nor parentheses. -/
theorem Names.letter (h : Names f cs) :
    ∀ c ∈ cs, c.toNat < 0x80 ∧ isBlank c = false ∧ c ≠ '(' := by
  intro c hc
  have hmem : c.toLower ∈ f.name.toList := h ▸ List.mem_map_of_mem hc
  have hbounds := Unicode.bounds_of_isLower_toLower (isLower_of_mem_name f _ hmem).1
  refine ⟨by omega, ?_, ?_⟩
  · simp only [isBlank, Bool.or_eq_false_iff, Bool.and_eq_false_iff, beq_eq_false_iff_ne,
      decide_eq_false_iff_not]
    omega
  · rintro rfl
    exact absurd hbounds.1 (by decide)

theorem Names.ne_nil (h : Names f cs) : cs ≠ [] := by
  rintro rfl
  cases f <;> cases h

theorem Names.isFunctionName (h : Names f cs) : isFunctionName cs = true := by
  have hfold : cs.map fold = cs.map Char.toLower :=
    List.map_congr_left fun c hc => if_pos (h.letter c hc).1
  refine List.any_eq_true.2 ⟨f, by cases f <;> decide, ?_⟩
  rw [hfold, h, beq_self_eq_true]

theorem eq_name_of_ofName? {name : String} (h : Aggregate.ofName? name = some f) :
    name = f.name := by
  unfold Aggregate.ofName? at h
  split at h <;> cases h <;> rfl

/-- A text without blanks names a function exactly if it is the name in letters of ASCII. -/
theorem ofText?_eq_some_iff (hcs : ∀ c ∈ cs, isBlank c = false) :
    Aggregate.ofText? (String.ofList cs) = some f ↔ Names f cs := by
  have htrim : trimChars cs = cs := Text.trimChars_of_trimmed
    ⟨fun c hc => hcs c (List.mem_of_head? hc), fun c hc => hcs c (List.mem_of_getLast? hc)⟩
  have hlower : Aggregate.ofText? (String.ofList cs) =
      Aggregate.ofName? (String.ofList (Unicode.lowercaseFrom [] cs)) := by
    rw [Aggregate.ofText?, Text.trim, Unicode.lowercase, String.toList_ofList, String.toList_ofList,
      htrim]
  rw [hlower]
  constructor
  · intro h
    have hname : Unicode.lowercaseFrom [] cs = f.name.toList := by
      rw [← eq_name_of_ofName? h, String.toList_ofList]
    have hletters : ∀ c ∈ Unicode.lowercaseFrom [] cs, c.isLower = true ∧ c ≠ 'k' :=
      hname ▸ isLower_of_mem_name f
    exact (Unicode.map_toLower_of_lowercaseFrom hletters).trans hname
  · intro h
    rw [Unicode.lowercaseFrom_of_ascii fun c hc => (h.letter c hc).1, h, String.ofList_toList]
    exact Aggregate.ofName?_name f

end Names

/-! ## Fields in parentheses -/

theorem fieldOf?_eq_some_iff {cs : List Char} {field : String} :
    fieldOf? cs = some field ↔ ∃ left right, Blank left ∧ Blank right ∧ IsField field.toList ∧
      cs = '(' :: (left ++ field.toList ++ right ++ [')']) := by
  constructor
  · intro h
    unfold fieldOf? at h
    split at h
    · rename_i rest
      split at h
      · rename_i hlast
        obtain ⟨body, rfl⟩ := List.getLast?_eq_some_iff.1 hlast
        simp only [List.dropLast_concat, Option.ite_none_left_eq_some, Bool.or_eq_true,
          List.contains_iff_mem, not_or] at h
        obtain ⟨⟨hopening, hclosing⟩, hfield⟩ := h
        obtain ⟨hcore, hne⟩ := Text.nonBlank?_eq_some_iff.1 hfield
        rw [String.toList_ofList] at hcore
        obtain ⟨htrimmed, left, right, hleft, hright, rfl⟩ := Text.trimChars_eq_iff.1 hcore.symm
        simp only [List.mem_append, not_or] at hopening hclosing
        exact ⟨left, right, hleft, hright, ⟨hne, htrimmed, hopening.1.2, hclosing.1.2⟩, rfl⟩
      · cases h
    · cases h
  · rintro ⟨left, right, hleft, hright, hfield, rfl⟩
    have hnone : ∀ c, isBlank c = false → c ∉ field.toList → c ∉ left ++ field.toList ++ right := by
      intro c hc hnot
      have hblank : ∀ cs, Blank cs → c ∉ cs := by
        intro cs hcs hmem
        rw [hcs c hmem] at hc
        cases hc
      simp only [List.mem_append, not_or]
      exact ⟨⟨hblank left hleft, hnot⟩, hblank right hright⟩
    have hopening := hnone '(' (by decide) hfield.noOpening
    have hclosing := hnone ')' (by decide) hfield.noClosing
    have hcore : trimChars (left ++ field.toList ++ right) = field.toList :=
      Text.trimChars_eq_iff.2 ⟨hfield.trimmed, left, right, hleft, hright, rfl⟩
    have hparens : ((left ++ field.toList ++ right).contains '(' ||
        (left ++ field.toList ++ right).contains ')') = false := by
      simp only [Bool.or_eq_false_iff, List.contains_eq_mem, decide_eq_false_iff_not]
      exact ⟨hopening, hclosing⟩
    rw [fieldOf?, List.getLast?_concat, if_pos rfl, List.dropLast_concat]
    simp only [hparens, Bool.false_eq_true, if_false]
    refine Text.nonBlank?_eq_some_iff.2 ⟨?_, hfield.ne_nil⟩
    rw [String.toList_ofList, hcore]

/-! ## Names and fields together -/

theorem exists_of_parts? {cs : List Char} {name field : String}
    (h : parts? cs = some (name, field)) :
    ∃ letters gap rest, name = String.ofList letters ∧ (∀ c ∈ letters, isBlank c = false) ∧
      Blank gap ∧ fieldOf? rest = some field ∧ cs = letters ++ (gap ++ rest) := by
  simp only [parts?, Option.ite_none_right_eq_some, Option.map_eq_some_iff, Prod.mk.injEq] at h
  obtain ⟨-, _, hfield, hname, rfl⟩ := h
  let isNamePart (c : Char) : Bool := !isBlank c && c != '('
  obtain ⟨gap, hgap, hrest, -⟩ := Text.exists_trimStart (cs.dropWhile isNamePart)
  refine ⟨cs.takeWhile isNamePart, gap, _, hname.symm, ?_, hgap, hfield, ?_⟩
  · intro c hc
    have hpart : isNamePart c = true := List.all_eq_true.1 List.all_takeWhile c hc
    simp only [isNamePart, Bool.and_eq_true, Bool.not_eq_true'] at hpart
    exact hpart.1
  · exact (List.takeWhile_append_dropWhile (p := isNamePart)).symm.trans (congrArg _ hrest)

theorem parts?_eq_some {f : Aggregate} {name gap rest : List Char} {field : String}
    (hname : Names f name) (hgap : Blank gap) (hfield : fieldOf? ('(' :: rest) = some field) :
    parts? (name ++ (gap ++ '(' :: rest)) = some (String.ofList name, field) := by
  let isNamePart (c : Char) : Bool := !isBlank c && c != '('
  have hletters : ∀ c ∈ name, isNamePart c = true := by
    intro c hc
    obtain ⟨-, hblank, hparen⟩ := hname.letter c hc
    simp [isNamePart, hblank, hparen]
  -- the name ends at the first blank or at the parenthesis
  have hends : (gap ++ '(' :: rest).takeWhile isNamePart = [] ∧
      (gap ++ '(' :: rest).dropWhile isNamePart = gap ++ '(' :: rest := by
    cases gap with
    | nil => exact ⟨rfl, rfl⟩
    | cons c gap =>
      have hc : isNamePart c = false := by simp [isNamePart, hgap c (.head gap)]
      simp [hc]
  have htake : (name ++ (gap ++ '(' :: rest)).takeWhile isNamePart = name := by
    rw [List.takeWhile_append_of_pos hletters, hends.1, List.append_nil]
  have hdrop : (name ++ (gap ++ '(' :: rest)).dropWhile isNamePart = gap ++ '(' :: rest := by
    rw [List.dropWhile_append_of_pos hletters, hends.2]
  have hparen : trimStart (gap ++ '(' :: rest) = '(' :: rest := by
    rw [Text.trimStart_append hgap]
    exact Text.trimStart_of_head fun c hc => by cases hc; decide
  simp only [parts?, isNamePart] at htake hdrop ⊢
  rw [htake, hdrop, hparen, hfield, if_pos hname.isFunctionName]
  rfl

/-! ## Expressions -/

theorem spells_of_ofText {text : String} {e : Expression} (h : ofText text = .ok e) :
    Spells e text.toList := by
  unfold ofText at h
  split at h
  · cases h
  · rename_i name field hparts
    split at h
    · cases h
    · rename_i f hf
      cases h
      obtain ⟨letters, gap, rest, rfl, hletters, hgap, hrest, hcore⟩ := exists_of_parts? hparts
      obtain ⟨left, right, hleft, hright, hfield, rfl⟩ := fieldOf?_eq_some_iff.1 hrest
      obtain ⟨-, lead, trail, hlead, htrail, htext⟩ := Text.trimChars_eq_iff.1 hcore
      exact ⟨lead, letters, gap, left, right, trail, hlead, hgap, hleft, hright, htrail,
        (ofText?_eq_some_iff hletters).1 hf, hfield, htext⟩

theorem ofText_of_spells {text : String} {e : Expression} (h : Spells e text.toList) :
    ofText text = .ok e := by
  obtain ⟨lead, name, gap, left, right, trail, hlead, hgap, hleft, hright, htrail, hname, hfield,
    htext⟩ := h
  have hinner := fieldOf?_eq_some_iff.2 ⟨left, right, hleft, hright, hfield, rfl⟩
  have hparts := parts?_eq_some hname hgap hinner
  have htrimmed : Trimmed
      (name ++ (gap ++ '(' :: (left ++ e.field.toList ++ right ++ [')']))) := by
    refine Text.trimmed_append hname.ne_nil (by simp) ?_ ?_
    · exact fun c hc => (hname.letter c (List.mem_of_head? hc)).2.1
    · intro c hc
      rw [← List.cons_append, ← List.append_assoc, List.getLast?_concat] at hc
      cases hc
      decide
  have htrim := Text.trimChars_eq_iff.2 ⟨htrimmed, lead, trail, hlead, htrail, htext⟩
  have hfunction : Aggregate.ofText? (String.ofList name) = some e.function :=
    (ofText?_eq_some_iff fun c hc => (hname.letter c hc).2.1).2 hname
  simp only [ofText, htrim, hparts, hfunction]

theorem spells_display {e : Expression} (h : IsField e.field.toList) :
    Spells e e.display.toList := by
  refine ⟨[], e.function.name.toList, [], [], [], [], Text.blank_nil, Text.blank_nil,
    Text.blank_nil, Text.blank_nil, Text.blank_nil, names_name _, h, ?_⟩
  simp [display, String.toList_append]

/-- A text is read as an expression exactly if it spells it, and what is read is read again from the
text that shows it. -/
theorem ofText_iff (text : String) (e : Expression) :
    (ofText text = .ok e ↔ Spells e text.toList) ∧
      (ofText text = .ok e → ofText e.display = .ok e) := by
  refine ⟨⟨spells_of_ofText, ofText_of_spells⟩, fun h => ?_⟩
  obtain ⟨_, _, _, _, _, _, _, _, _, _, _, _, hfield, _⟩ := spells_of_ofText h
  exact ofText_of_spells (spells_display hfield)

/-- Letter case and blanks of the name do not count, those of the field do. -/
theorem ofText_iff_total_sales :
    let e : Expression := ⟨.avg, "Total  Sales"⟩
    ofText "\u00a0aVG (\tTotal  Sales )\n" = .ok e ∧ e.display = "avg(Total  Sales)" ∧
      ofText e.display = .ok e := by
  intro e
  have h : ofText "\u00a0aVG (\tTotal  Sales )\n" = .ok e := by decide +kernel
  exact ⟨h, by decide, (ofText_iff _ e).2 h⟩

/-- The long `s` folds to the letter of a name, but it is not its lower case. -/
example : ofText "ſum(x)" = .error ⟨"ſum"⟩ := by decide +kernel

end Expression
end DocAnalytics
