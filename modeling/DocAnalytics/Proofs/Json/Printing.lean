import DocAnalytics.Json.Printer
import DocAnalytics.Json.Reader
import DocAnalytics.Proofs.Json.Locality

/-!
# DocAnalytics.Proofs.Json.Printing

What is printed is read back. A text is quoted so that its characters come back
(`readString_quote`, `text?_units`). Of an array or object the printer puts the texts of the items
in a row, and `Spells` says that each of them is read whatever follows it, so the row is read as the
row of the values (`spells_array`, `spells_object`).
-/

namespace DocAnalytics
namespace Json

open Source

/-! ## Quoted texts -/

def units (s : String) : List Nat := s.toList.map Char.toNat

/-- The digits of a control character are those of its code point. -/
theorem controlEscape_eq {c : Char} (hc : c.toNat < 0x20) :
    controlEscape c =
        ['\\', 'u', '0', '0', (c.toNat / 16).digitChar, (c.toNat % 16).digitChar] ∧
      hexUnit? '0' '0' (c.toNat / 16).digitChar (c.toNat % 16).digitChar = some c.toNat := by
  have hall : ∀ n : Fin 0x20,
      controlEscape (Char.ofNat n) =
          ['\\', 'u', '0', '0', (n.val / 16).digitChar, (n.val % 16).digitChar] ∧
        hexUnit? '0' '0' (n.val / 16).digitChar (n.val % 16).digitChar = some n.val := by
    decide +kernel
  simpa only [Char.ofNat_toNat] using hall ⟨c.toNat, hc⟩

/-- An escaped character is read as the character. -/
theorem readString_escapeChar (taken : List Nat) (c : Char) (cs : List Char) :
    readString taken (escapeChar c ++ cs) = readString (c.toNat :: taken) cs := by
  unfold escapeChar
  split
  · rename_i hc
    subst hc
    rfl
  · rename_i hquote
    split
    · rename_i hc
      subst hc
      rfl
    · rename_i hbackslash
      iterate 5
        split
        · rename_i hc
          subst hc
          rfl
      split
      · rename_i hc
        obtain ⟨htext, hunit⟩ := controlEscape_eq hc
        simp [htext, readString, hunit]
      · rename_i hprinted
        rw [List.singleton_append, readString, if_neg (by simp [hbackslash, hprinted])]
        · exact hquote
        · exact fun _ _ _ _ _ hc => absurd hc hbackslash
        · exact fun _ _ hc => absurd hc hbackslash

theorem readString_flatMap_escapeChar (taken : List Nat) (text rest : List Char) :
    readString taken (text.flatMap escapeChar ++ '"' :: rest) =
      some (taken.reverse ++ text.map Char.toNat, rest) := by
  induction text generalizing taken with
  | nil => simp [readString]
  | cons c text ih => simp [readString_escapeChar, ih]

/-- The inside of a quoted text and its closing quote. -/
theorem readString_quoted (s : String) (rest : List Char) :
    readString [] (s.toList.flatMap escapeChar ++ '"' :: rest) = some (units s, rest) :=
  readString_flatMap_escapeChar [] s.toList rest

/-- A character is no surrogate, so it stands for itself. -/
theorem decodeUnits_map_toNat (cs : List Char) : decodeUnits (cs.map Char.toNat) = some cs := by
  have hscalar (c : Char) : c.toNat < 0xD800 ∨ 0xDFFF < c.toNat := c.valid.imp id And.left
  induction cs with
  | nil => rfl
  | cons c cs ih =>
    have hc := hscalar c
    cases cs with
    | nil =>
      rw [List.map_singleton, decodeUnits, if_neg (by omega), Char.ofNat_toNat]
    | cons d cs =>
      rw [List.map_cons] at ih
      rw [List.map_cons, List.map_cons, decodeUnits, if_neg (by omega), if_neg (by omega), ih,
        Option.map_some, Char.ofNat_toNat]

@[simp] theorem text?_units (s : String) : text? (units s) = some s := by
  simp [text?, units, decodeUnits_map_toNat]

/-! ## Texts that spell a value -/

/-- The text is read as the value, whatever follows it, in two steps for each character. -/
def Spells (text : List Char) (value : Source) : Prop :=
  ∀ fuel more, 2 * text.length + 2 ≤ fuel → readValue fuel (text ++ more) = some (value, more)

/-- `Spells` for the items of an array up to and with the closing bracket. -/
def SpellsItems (text : List Char) (values : List Source) : Prop :=
  ∀ fuel more, 2 * text.length + 1 ≤ fuel → readItems fuel (text ++ more) = some (values, more)

/-- `Spells` for the members of an object up to and with the closing brace. -/
def SpellsMembers (text : List Char) (values : List (List Nat × Source)) : Prop :=
  ∀ fuel more, 2 * text.length + 1 ≤ fuel → readMembers fuel (text ++ more) = some (values, more)

variable {text tail : List Char} {value : Source} {values : List Source}
  {members : List (List Nat × Source)} {level : Nat}

theorem isBlank_of_mem_lineStart {c : Char} (h : c ∈ lineStart level) : isBlank c = true := by
  rcases List.mem_cons.1 h with rfl | h
  · rfl
  · rw [List.eq_of_mem_replicate h]
    rfl

@[simp] theorem skipBlanks_lineStart_append (level : Nat) (cs : List Char) :
    skipBlanks (lineStart level ++ cs) = skipBlanks cs :=
  List.dropWhile_append_of_pos fun _ => isBlank_of_mem_lineStart

/-- No value begins with a blank. -/
theorem isBlank_of_readValue {fuel : Nat} {c : Char} {cs rest : List Char}
    (h : readValue fuel (c :: cs) = some (value, rest)) : isBlank c = false := by
  cases fuel with
  | zero => cases h
  | succ fuel =>
    rw [Bool.eq_false_iff]
    intro hc
    simp only [isBlank, Bool.or_eq_true, decide_eq_true_iff] at hc
    rcases hc with ((rfl | rfl) | rfl) | rfl <;> cases h

theorem Spells.skipBlanks_append (h : Spells text value) (more : List Char) :
    skipBlanks (text ++ more) = text ++ more := by
  have hread := h _ more (Nat.le_refl _)
  cases text with
  | nil => exact absurd rfl (ne_nil_of_readValue (h _ [] (Nat.le_refl _)))
  | cons c cs => exact List.dropWhile_cons_of_neg (by simp [isBlank_of_readValue hread])

theorem spells_string (level : Nat) (s : String) :
    Spells (prettyChars level (.string s)) (.string (units s)) := by
  intro fuel more hfuel
  obtain ⟨fuel, rfl⟩ := Nat.exists_eq_add_one.2 (show 0 < fuel by omega)
  simpa [prettyChars, quote] using readValue_string (readString_quoted s more)

/-! ## Arrays -/

/-- The value at the start of a line. -/
theorem Spells.behind_lineStart (h : Spells text value) {fuel : Nat}
    (hfuel : 2 * text.length + 2 ≤ fuel) (level : Nat) (more : List Char) :
    readValue fuel (skipBlanks (lineStart level ++ (text ++ more))) = some (value, more) := by
  rw [skipBlanks_lineStart_append, h.skipBlanks_append, h fuel more hfuel]

theorem spellsItems_last (h : Spells text value) :
    SpellsItems (lineStart (level + 1) ++ text ++ lineStart level ++ [']']) [value] := by
  intro fuel more hfuel
  simp only [List.length_append, List.length_singleton] at hfuel
  obtain ⟨fuel, rfl⟩ := Nat.exists_eq_add_one.2 (show 0 < fuel by omega)
  simp only [List.append_assoc]
  refine readItems_last (h.behind_lineStart (by omega) _ _) ?_
  rw [skipBlanks_lineStart_append]
  rfl

theorem spellsItems_cons (h : Spells text value) (htail : SpellsItems tail values) :
    SpellsItems (lineStart (level + 1) ++ text ++ ',' :: tail) (value :: values) := by
  intro fuel more hfuel
  simp only [List.length_append, List.length_cons] at hfuel
  obtain ⟨fuel, rfl⟩ := Nat.exists_eq_add_one.2 (show 0 < fuel by omega)
  simp only [List.append_assoc]
  exact readItems_cons (h.behind_lineStart (by omega) _ _) rfl (htail fuel more (by omega))

/-- The first item does not begin with the bracket that would close an empty array. -/
theorem skipBlanks_ne_of_readItems {fuel : Nat} {cs rest : List Char}
    (h : readItems fuel cs = some (values, rest)) (tail : List Char) :
    skipBlanks cs ≠ ']' :: tail := by
  intro hclose
  cases fuel with
  | zero => cases h
  | succ fuel =>
    rw [readItems, hclose] at h
    cases fuel <;> cases h

theorem readItems_skipBlanks (fuel : Nat) (cs : List Char) :
    readItems fuel (skipBlanks cs) = readItems fuel cs := by
  cases fuel with
  | zero => rfl
  | succ fuel => rw [readItems, readItems, skipBlanks_skipBlanks]

theorem SpellsItems.spells (h : SpellsItems text values) :
    Spells ('[' :: text) (.array values) := by
  intro fuel more hfuel
  simp only [List.length_cons] at hfuel
  obtain ⟨fuel, rfl⟩ := Nat.exists_eq_add_one.2 (show 0 < fuel by omega)
  have hitems := h fuel more (by omega)
  refine readValue_array (skipBlanks_ne_of_readItems hitems) ?_
  exact (readItems_skipBlanks fuel _).trans hitems

abbrev SpellsEach (level : Nat) : List Json → List Source → Prop :=
  List.Forall₂ fun item value => Spells (prettyChars level item) value

theorem spellsItems_prettyItems {item : Json} {items : List Json}
    (h : SpellsEach (level + 1) (item :: items) (value :: values)) :
    SpellsItems (prettyItems level (item :: items)) (value :: values) := by
  induction items generalizing item value values with
  | nil =>
    obtain ⟨hitem, hnil⟩ := List.forall₂_cons.1 h
    cases hnil
    exact spellsItems_last hitem
  | cons next items ih =>
    obtain ⟨hitem, hitems⟩ := List.forall₂_cons.1 h
    cases hitems with
    | cons hnext hitems => exact spellsItems_cons hitem (ih (.cons hnext hitems))

theorem spells_array {items : List Json} (h : SpellsEach (level + 1) items values) :
    Spells (prettyChars level (.array items)) (.array values) := by
  cases h with
  | nil =>
    intro fuel more hfuel
    obtain ⟨fuel, rfl⟩ := Nat.exists_eq_add_one.2 (show 0 < fuel by omega)
    exact readValue_array_nil rfl
  | cons hitem hitems => exact (spellsItems_prettyItems (.cons hitem hitems)).spells

/-! ## Objects -/

theorem skipBlanks_quote (key : String) (cs : List Char) :
    skipBlanks (lineStart level ++ (quote key ++ cs)) =
      '"' :: (key.toList.flatMap escapeChar ++ '"' :: cs) := by
  rw [skipBlanks_lineStart_append]
  simp [quote, skipBlanks, isBlank]

/-- The value behind the colon. -/
theorem Spells.behind_colon (h : Spells text value) {fuel : Nat}
    (hfuel : 2 * text.length + 2 ≤ fuel) (more : List Char) :
    readValue fuel (skipBlanks (' ' :: (text ++ more))) = some (value, more) := by
  have hskip : skipBlanks (' ' :: (text ++ more)) = skipBlanks (text ++ more) :=
    List.dropWhile_cons_of_pos rfl
  rw [hskip, h.skipBlanks_append, h fuel more hfuel]

theorem spellsMembers_last (key : String) (h : Spells text value) :
    SpellsMembers
      (lineStart (level + 1) ++ quote key ++ ':' :: ' ' :: text ++ lineStart level ++ ['\x7d'])
      [(units key, value)] := by
  intro fuel more hfuel
  simp only [List.length_append, List.length_cons, List.length_nil] at hfuel
  obtain ⟨fuel, rfl⟩ := Nat.exists_eq_add_one.2 (show 0 < fuel by omega)
  simp only [List.append_assoc, List.cons_append]
  refine readMembers_last (skipBlanks_quote key _) (readString_quoted key _) rfl
    (h.behind_colon (by omega) _) ?_
  rw [skipBlanks_lineStart_append]
  rfl

theorem spellsMembers_cons (key : String) (h : Spells text value)
    (htail : SpellsMembers tail members) :
    SpellsMembers (lineStart (level + 1) ++ quote key ++ ':' :: ' ' :: text ++ ',' :: tail)
      ((units key, value) :: members) := by
  intro fuel more hfuel
  simp only [List.length_append, List.length_cons] at hfuel
  obtain ⟨fuel, rfl⟩ := Nat.exists_eq_add_one.2 (show 0 < fuel by omega)
  simp only [List.append_assoc, List.cons_append]
  exact readMembers_cons (skipBlanks_quote key _) (readString_quoted key _) rfl
    (h.behind_colon (by omega) _) rfl (htail fuel more (by omega))

/-- The first member does not begin with the brace that would close an empty object. -/
theorem skipBlanks_ne_of_readMembers {fuel : Nat} {cs rest : List Char}
    (h : readMembers fuel cs = some (members, rest)) (tail : List Char) :
    skipBlanks cs ≠ '\x7d' :: tail := by
  intro hclose
  cases fuel with
  | zero => cases h
  | succ fuel =>
    rw [readMembers, hclose] at h
    cases h

theorem readMembers_skipBlanks (fuel : Nat) (cs : List Char) :
    readMembers fuel (skipBlanks cs) = readMembers fuel cs := by
  cases fuel with
  | zero => rfl
  | succ fuel => rw [readMembers, readMembers, skipBlanks_skipBlanks]

theorem SpellsMembers.spells (h : SpellsMembers text members) :
    Spells ('\x7b' :: text) (.object members) := by
  intro fuel more hfuel
  simp only [List.length_cons] at hfuel
  obtain ⟨fuel, rfl⟩ := Nat.exists_eq_add_one.2 (show 0 < fuel by omega)
  have hmembers := h fuel more (by omega)
  refine readValue_object (skipBlanks_ne_of_readMembers hmembers) ?_
  exact (readMembers_skipBlanks fuel _).trans hmembers

abbrev SpellsEachMember (level : Nat) :
    List (String × Json) → List (List Nat × Source) → Prop :=
  List.Forall₂ fun member value =>
    value.1 = units member.1 ∧ Spells (prettyChars level member.2) value.2

theorem spellsMembers_prettyMembers {member : String × Json} {others : List (String × Json)}
    {first : List Nat × Source}
    (h : SpellsEachMember (level + 1) (member :: others) (first :: members)) :
    SpellsMembers (prettyMembers level (member :: others)) (first :: members) := by
  induction others generalizing member first members with
  | nil =>
    obtain ⟨⟨hkey, hvalue⟩, hnil⟩ := List.forall₂_cons.1 h
    cases hnil
    obtain ⟨key, value⟩ := first
    cases hkey
    exact spellsMembers_last member.1 hvalue
  | cons next others ih =>
    obtain ⟨⟨hkey, hvalue⟩, hmembers⟩ := List.forall₂_cons.1 h
    cases hmembers with
    | cons hnext hmembers =>
      obtain ⟨key, value⟩ := first
      cases hkey
      exact spellsMembers_cons member.1 hvalue (ih (.cons hnext hmembers))

theorem spells_object {others : List (String × Json)}
    (h : SpellsEachMember (level + 1) others members) :
    Spells (prettyChars level (.object others)) (.object members) := by
  cases h with
  | nil =>
    intro fuel more hfuel
    obtain ⟨fuel, rfl⟩ := Nat.exists_eq_add_one.2 (show 0 < fuel by omega)
    exact readValue_object_nil rfl
  | cons hmember hmembers =>
    exact (spellsMembers_prettyMembers (.cons hmember hmembers)).spells

/-! ## Whole texts -/

theorem Spells.readChars? (h : Spells text value) : readChars? text = some value := by
  have hskip := h.skipBlanks_append []
  have hread := h _ [] (Nat.le_refl _)
  rw [List.append_nil] at hskip hread
  rw [Source.readChars?, hskip, hread]
  rfl

theorem exists_prettyMembers (level : Nat) (others : List (String × Json)) :
    ∃ inner, prettyMembers level others = inner ++ ['\x7d'] := by
  induction others with
  | nil => exact ⟨lineStart level, rfl⟩
  | cons member others ih =>
    cases others with
    | nil => exact ⟨_, rfl⟩
    | cons next others =>
      obtain ⟨inner, hinner⟩ := ih
      rw [prettyMembers, hinner]
      · exact ⟨_, (List.append_assoc _ (',' :: inner) _).symm⟩
      · exact List.cons_ne_nil _ _

theorem exists_prettyChars_object (level : Nat) (document : Document) :
    ∃ inner, prettyChars level (.object document) = '\x7b' :: (inner ++ ['\x7d']) := by
  cases document with
  | nil => exact ⟨[], rfl⟩
  | cons member others =>
    obtain ⟨inner, hinner⟩ := exists_prettyMembers level (member :: others)
    exact ⟨inner, congrArg _ hinner⟩

/-- The text of an object ends with its brace, so it may stand anywhere. -/
theorem spells_of_readChars? {document : Document}
    (h : Source.readChars? (prettyChars level (.object document)) = some (.object members)) :
    Spells (prettyChars level (.object document)) (.object members) := by
  obtain ⟨inner, htext⟩ := exists_prettyChars_object level document
  rw [htext] at h ⊢
  unfold Source.readChars? at h
  split at h
  · cases h
  · rename_i source rest hread
    split at h
    · rename_i hblank
      cases h
      have hnil : rest = [] := by
        rcases List.eq_nil_or_concat rest with hnil | ⟨init, c, rfl⟩
        · exact hnil
        · -- What is left over would end with the brace, which is no blank.
          obtain ⟨before, hbefore⟩ :=
            (readValue_suffix _ hread).trans (skipBlanks_suffix _)
          have hc : c = '\x7d' := by
            simpa [List.getLast?_cons] using congrArg List.getLast? hbefore
          have hall := List.dropWhile_eq_nil_iff.1 (List.isEmpty_iff.1 hblank)
          cases hc ▸ hall c (by simp)
      subst hnil
      intro fuel more hfuel
      obtain ⟨extra, rfl⟩ := Nat.exists_eq_add_of_le hfuel
      exact readValue_append _ hread (fun hnumber => Bool.noConfusion hnumber) extra more
    · cases h

end Json
end DocAnalytics
