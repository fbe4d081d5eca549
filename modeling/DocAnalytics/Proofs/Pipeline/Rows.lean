import DocAnalytics.Pipeline.Run

/-!
# DocAnalytics.Proofs.Pipeline.Rows

Pipelines stage by stage. A selection whose test is decided on every row is a `filter`
(`keep_eq_filter`), and the first row in error ends it (`keep_of_error`). A stage that succeeds
hands its rows on (`runPipeline_cons`), and a pipeline in two parts runs the second one on the rows
of the first, unless the first one is in error (`runPipeline_append`,
`runPipeline_append_of_error`).
-/

namespace DocAnalytics

namespace Predicate

theorem keep_eq_filter {p : Predicate} {test : Document → Bool} {rows : List Document}
    (h : ∀ row ∈ rows, p.passes row = .ok (test row)) : p.keep rows = .ok (rows.filter test) := by
  induction rows with
  | nil => rfl
  | cons row rows ih =>
    have hrow : p.passes row = .ok (test row) := h row List.mem_cons_self
    have hrows := ih fun r hr => h r (List.mem_cons_of_mem row hr)
    simp only [keep, hrow, hrows, List.filter_cons]

/-- The first row in error ends the run. -/
theorem keep_of_error {p : Predicate} {before after : List Document} {row : Document}
    {e : StorageError} (hbefore : ∀ r ∈ before, ∃ b, p.passes r = .ok b)
    (hrow : p.passes row = .error e) : p.keep (before ++ row :: after) = .error e := by
  induction before with
  | nil => simp only [List.nil_append, keep, hrow]
  | cons first before ih =>
    obtain ⟨b, hb⟩ := hbefore first (.head before)
    have hrest := ih fun r hr => hbefore r (.tail first hr)
    simp only [List.cons_append, keep, hb, hrest]

theorem keep_present (fields : List String) (rejectEmpty : Bool) (rows : List Document) :
    (Predicate.present fields rejectEmpty).keep rows =
      .ok (rows.filter fun row => fields.all (fieldPresent row rejectEmpty)) :=
  keep_eq_filter fun _ _ => rfl

end Predicate

theorem runPipeline_cons {stage : Stage} {rows next : List Document} (stages : List Stage)
    (h : stage.run rows = .ok next) :
    runPipeline (stage :: stages) rows = runPipeline stages next := by
  simp only [runPipeline, h]

theorem runPipeline_append {first : List Stage} {rows next : List Document} (second : List Stage)
    (h : runPipeline first rows = .ok next) :
    runPipeline (first ++ second) rows = runPipeline second next := by
  induction first generalizing rows with
  | nil => cases h; rfl
  | cons stage first ih =>
    simp only [List.cons_append, runPipeline] at h ⊢
    split
    · rename_i e he
      rw [he] at h
      cases h
    · rename_i mid hmid
      rw [hmid] at h
      exact ih h

theorem runPipeline_append_of_error {first : List Stage} {rows : List Document} {e : StorageError}
    (second : List Stage) (h : runPipeline first rows = .error e) :
    runPipeline (first ++ second) rows = .error e := by
  induction first generalizing rows with
  | nil => cases h
  | cons stage first ih =>
    simp only [List.cons_append, runPipeline] at h ⊢
    split
    · rename_i e' he
      rw [he] at h
      exact h
    · rename_i mid hmid
      rw [hmid] at h
      exact ih h

end DocAnalytics
