import DocAnalytics.Proofs.Filter.Faults
import DocAnalytics.Proofs.Pipeline.Rows

/-!
# DocAnalytics.Proofs.Filter.Partition

A well-formed filter has an answer for every document, and it is the meaning of the filter
(`matchesFilter_of_wellFormed`); so the filter and its negation part every collection in two.
-/

namespace DocAnalytics
namespace Filter

theorem matchesFilter_answers (d : Document) (f : Json) (h : WellFormed f) :
    Answers (matchesFilter d f) (Means d f) :=
  (matchesFilter_decides d f).answers fun hfaulty => hfaulty.not_wellFormed h

/-- The filter of the documents that do not satisfy a filter. -/
def negation (f : Json) : Json := .object [("$nor", .array [f])]

theorem wellFormed_negation {f : Json} (h : WellFormed f) : WellFormed (negation f) := by
  have hnor : "$nor" ∈ combinations := by decide
  refine .object fun m hm => ?_
  cases List.mem_singleton.1 hm
  refine .combination hnor fun g hg => ?_
  cases List.mem_singleton.1 hg
  exact h

theorem means_negation (d : Document) (f : Json) : Means d (negation f) ↔ ¬ Means d f := by
  have hmember : MemberMeans d "$nor" (.array [f]) ↔ ¬ Means d f := by
    rw [memberMeans_noneOf]
    simp
  rw [negation, Means]
  constructor
  · intro h
    exact hmember.1 (h _ (List.mem_singleton.2 rfl))
  · intro h m hm
    cases List.mem_singleton.1 hm
    exact hmember.2 h

/-- The answers to a well-formed filter, as a test. -/
theorem exists_test {f : Json} (h : WellFormed f) : ∃ test : Document → Bool,
    (∀ d, matchesFilter d f = .ok (test d)) ∧ ∀ d, test d = true ↔ Means d f :=
  have hanswers := fun d => matchesFilter_answers d f h
  ⟨fun d => (hanswers d).choose, fun d => (hanswers d).choose_spec.1,
    fun d => (hanswers d).choose_spec.2⟩

theorem keep_of_test {f : Json} {test : Document → Bool}
    (h : ∀ d, matchesFilter d f = .ok (test d)) (docs : List Document) :
    (Predicate.filter f).keep docs = .ok (docs.filter test) :=
  Predicate.keep_eq_filter fun d _ => by simp only [Predicate.passes, h d]

/-- A well-formed filter has an answer for every document, its meaning. Together with its negation
it parts every list of documents in those that satisfy it and those that do not. -/
theorem matchesFilter_of_wellFormed {f : Json} (h : WellFormed f) :
    (∀ d, ∃ b, matchesFilter d f = .ok b ∧ (b = true ↔ Means d f)) ∧
      ∀ docs : List Document, ∃ chosen rest, (Predicate.filter f).keep docs = .ok chosen ∧
        (Predicate.filter (.object [("$nor", .array [f])])).keep docs = .ok rest ∧
        chosen.Sublist docs ∧ rest.Sublist docs ∧ (chosen ++ rest).Perm docs ∧
        (∀ d ∈ chosen, Means d f) ∧ ∀ d ∈ rest, ¬ Means d f := by
  refine ⟨fun d => matchesFilter_answers d f h, fun docs => ?_⟩
  obtain ⟨test, htest, hmeans⟩ := exists_test h
  obtain ⟨testNor, htestNor, hmeansNor⟩ := exists_test (wellFormed_negation h)
  have hopposite : testNor = fun d => !test d := by
    funext d
    rw [Bool.eq_iff_iff, hmeansNor, means_negation, ← hmeans, Bool.not_eq_true,
      Bool.not_eq_true']
  subst hopposite
  refine ⟨_, _, keep_of_test htest docs, keep_of_test htestNor docs, List.filter_sublist,
    List.filter_sublist, List.filter_append_perm test docs, ?_, ?_⟩
  · intro d hd
    exact (hmeans d).1 (List.mem_filter.1 hd).2
  · intro d hd hd'
    have hnot := (List.mem_filter.1 hd).2
    rw [(hmeans d).2 hd'] at hnot
    cases hnot

/-- Alternatives, a pattern and a range. The first shop has no city, which counts as null. Of the
others two fail at the range, one at the alternatives and one at the pattern. -/
theorem matchesFilter_shops :
    let shop (place : String × Json) (name : String) (units : Json) : Document :=
      Document.ofList [place, ("name", .string name), ("units", units)]
    let kahvila := shop ("open", .bool false) "kahvila" (Json.ofNat 12)
    let others := [shop ("city", .string "Oslo") "kauppa" (.string "12"),
      shop ("open", .bool true) "katu" (Json.ofNat 10),
      shop ("city", .string "Bergen") "kafe" (Json.ofNat 11),
      shop ("open", .bool true) "kiosk" (Json.ofNat 99)]
    let f : Json := .object [
      ("$or", .array [.object [("open", .bool true)],
        .object [("city", .object [("$in", .array [.string "Oslo", .null])])]]),
      ("name", .object [("$regex", .string "^ka")]),
      ("units", .object [("$exists", .bool true), ("$gt", Json.ofNat 10)])]
    WellFormed f ∧ (Predicate.filter f).keep (kahvila :: others) = .ok [kahvila] ∧
      (Predicate.filter (.object [("$nor", .array [f])])).keep (kahvila :: others) = .ok others ∧
      Means kahvila f ∧ ∀ d ∈ others, ¬ Means d f := by
  intro shop kahvila others f
  have hcities : WellFormedCondition (.object [("$in", .array [.string "Oslo", .null])]) :=
    wellFormedCondition_operators (by simp [Takes])
  have hname : WellFormedCondition (.object [("$regex", .string "^ka")]) := by
    have hpattern : (Regex.Pattern.ofText? "^ka").isSome = true := by decide +kernel
    exact wellFormedCondition_operators (List.forall_mem_singleton.2 ⟨"^ka", rfl, hpattern⟩)
  have hunits : WellFormedCondition (.object [("$exists", .bool true), ("$gt", Json.ofNat 10)]) :=
    wellFormedCondition_operators (by simp [Takes])
  have hopen : WellFormedCondition (.bool true) := fun _ h => by cases h
  have hshops : WellFormed f := by
    refine .object (List.forall_mem_cons.2 ⟨.combination (by decide) ?_, ?_⟩)
    · refine List.forall_mem_cons.2 ⟨.object ?_, List.forall_mem_singleton.2 (.object ?_)⟩
      · exact List.forall_mem_singleton.2 (.field (by decide) hopen)
      · exact List.forall_mem_singleton.2 (.field (by decide) hcities)
    · refine List.forall_mem_cons.2 ⟨.field (by decide) hname, List.forall_mem_singleton.2 ?_⟩
      exact .field (by decide) hunits
  obtain ⟨chosen, rest, hchosen, hrest, -, -, -, hmeans, hnot⟩ :=
    (matchesFilter_of_wellFormed hshops).2 (kahvila :: others)
  have hkept : ((Predicate.filter f).keep (kahvila :: others)).toOption = some [kahvila] := by
    decide +kernel
  have hothers : ((Predicate.filter (.object [("$nor", .array [f])])).keep
      (kahvila :: others)).toOption = some others := by
    decide +kernel
  rw [hchosen] at hkept
  rw [hrest] at hothers
  cases hkept
  cases hothers
  exact ⟨hshops, hchosen, hrest, hmeans kahvila (.head _), hnot⟩

end Filter
end DocAnalytics
