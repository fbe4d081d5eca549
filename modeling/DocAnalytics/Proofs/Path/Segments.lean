import DocAnalytics.Document.Path

/-!
# DocAnalytics.Proofs.Path.Segments

The segments of a path. There is always one (`segments_ne_nil`), different paths have different
segments (`segments_injective`), and a text without a dot that is put behind a path goes to its last
segment (`segments_append`).
-/

namespace DocAnalytics
namespace Text

theorem splitAt_of_not_mem {sep : Char} {cs : List Char} (h : sep ∉ cs) :
    splitAt sep cs = [cs] := by
  induction cs with
  | nil => rfl
  | cons c cs ih =>
    have hne : c ≠ sep := fun he => h (he ▸ List.mem_cons_self)
    have hcs : sep ∉ cs := fun hm => h (List.mem_cons_of_mem c hm)
    simp only [splitAt, if_neg hne, ih hcs]

theorem splitAt_sep_cons (sep : Char) (cs : List Char) :
    splitAt sep (sep :: cs) = [] :: splitAt sep cs := by
  simp [splitAt]

theorem splitAt_cons_of_ne {sep c : Char} (h : c ≠ sep) {cs piece : List Char}
    {pieces : List (List Char)} (hcs : splitAt sep cs = piece :: pieces) :
    splitAt sep (c :: cs) = (c :: piece) :: pieces := by
  simp [splitAt, h, hcs]

/-- The last piece takes in what follows, if no separator is in it. -/
theorem splitAt_append {sep : Char} (cs : List Char) {tail : List Char} (h : sep ∉ tail) :
    ∃ pieces last, splitAt sep cs = pieces ++ [last] ∧
      splitAt sep (cs ++ tail) = pieces ++ [last ++ tail] := by
  induction cs with
  | nil => exact ⟨[], [], rfl, splitAt_of_not_mem h⟩
  | cons c cs ih =>
    obtain ⟨pieces, last, h1, h2⟩ := ih
    by_cases hc : c = sep
    · subst hc
      refine ⟨[] :: pieces, last, ?_, ?_⟩
      · rw [splitAt_sep_cons, h1]; rfl
      · rw [List.cons_append, splitAt_sep_cons, h2]; rfl
    · cases pieces with
      | nil =>
        refine ⟨[], c :: last, splitAt_cons_of_ne hc h1, ?_⟩
        exact splitAt_cons_of_ne hc h2
      | cons piece pieces =>
        refine ⟨(c :: piece) :: pieces, last, splitAt_cons_of_ne hc h1, ?_⟩
        exact splitAt_cons_of_ne hc h2

theorem splitAt_injective (sep : Char) {cs ds : List Char} (h : splitAt sep cs = splitAt sep ds) :
    cs = ds := by
  induction cs generalizing ds with
  | nil =>
    cases ds with
    | nil => rfl
    | cons d ds =>
      obtain ⟨piece, pieces, hp⟩ := List.exists_cons_of_ne_nil (splitAt_ne_nil sep ds)
      by_cases hd : d = sep
      · subst hd
        rw [splitAt_sep_cons, hp] at h
        simp [splitAt] at h
      · rw [splitAt_cons_of_ne hd hp] at h
        simp [splitAt] at h
  | cons c cs ih =>
    obtain ⟨piece, pieces, hp⟩ := List.exists_cons_of_ne_nil (splitAt_ne_nil sep cs)
    cases ds with
    | nil =>
      by_cases hc : c = sep
      · subst hc
        rw [splitAt_sep_cons, hp] at h
        simp [splitAt] at h
      · rw [splitAt_cons_of_ne hc hp] at h
        simp [splitAt] at h
    | cons d ds =>
      obtain ⟨piece', pieces', hp'⟩ := List.exists_cons_of_ne_nil (splitAt_ne_nil sep ds)
      by_cases hc : c = sep <;> by_cases hd : d = sep
      · subst hc
        subst hd
        rw [splitAt_sep_cons, splitAt_sep_cons] at h
        rw [ih (List.cons.inj h).2]
      · subst hc
        rw [splitAt_sep_cons, splitAt_cons_of_ne hd hp'] at h
        simp at h
      · subst hd
        rw [splitAt_sep_cons, splitAt_cons_of_ne hc hp] at h
        simp at h
      · rw [splitAt_cons_of_ne hc hp, splitAt_cons_of_ne hd hp'] at h
        simp only [List.cons.injEq] at h
        have hpieces : splitAt sep cs = splitAt sep ds := by rw [hp, hp', h.1.2, h.2]
        rw [h.1.1, ih hpieces]

end Text

namespace Path

theorem segments_ne_nil (path : String) : segments path ≠ [] := by
  simp [segments, Text.splitAt_ne_nil]

theorem segments_injective {path other : String} (h : segments path = segments other) :
    path = other := by
  have hpieces : Text.splitAt '.' path.toList = Text.splitAt '.' other.toList :=
    (List.map_inj_right fun _ _ h => String.ofList_injective h).1 h
  exact String.toList_inj.1 (Text.splitAt_injective '.' hpieces)

/-- A text without a dot goes to the last segment. -/
theorem segments_append (path : String) {tail : String} (h : '.' ∉ tail.toList) :
    ∃ init last, segments path = init ++ [last] ∧
      segments (path ++ tail) = init ++ [last ++ tail] := by
  obtain ⟨pieces, last, h1, h2⟩ := Text.splitAt_append path.toList h
  refine ⟨pieces.map String.ofList, String.ofList last, ?_, ?_⟩
  · simp [segments, h1]
  · simp [segments, String.toList_append, h2, String.ofList_append]

end Path
end DocAnalytics
