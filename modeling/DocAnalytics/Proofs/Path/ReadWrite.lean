import DocAnalytics.Document.Path

/-!
# DocAnalytics.Proofs.Path.ReadWrite

Reading a document after writing to it.

* `at?_setSegments_self`, `at?_setSegments_append`: at the end of the written path, and beyond it,
  stands the written value.
* `at?_setSegments_prefix`: on the way to the written value there are objects only.
* `at?_setSegments_of_clear`: a path that forks off the written one reads as before, if there was
  nothing but objects on the part that the two share.
* `at?_setSegments_of_blocked`: it reads nothing, if there was something else on that part. The
  write has put an object in its place.
-/

namespace DocAnalytics

/-- Two paths that fork: neither is the beginning of the other. -/
def Path.Fork (ps qs : List String) : Prop := ¬ ps <+: qs ∧ ¬ qs <+: ps

theorem Path.Fork.symm {ps qs : List String} (h : Path.Fork ps qs) : Path.Fork qs ps := ⟨h.2, h.1⟩

theorem Path.Fork.ne_nil {ps qs : List String} (h : Path.Fork ps qs) : ps ≠ [] :=
  fun hps => h.1 (hps ▸ List.nil_prefix)

/-- Paths that fork do so behind a first segment that they share. -/
theorem Path.Fork.tail {k : String} {ps qs : List String} (h : Path.Fork (k :: ps) (k :: qs)) :
    Path.Fork ps qs :=
  ⟨fun hpq => h.1 (List.cons_prefix_cons.2 ⟨rfl, hpq⟩),
    fun hqp => h.2 (List.cons_prefix_cons.2 ⟨rfl, hqp⟩)⟩

/-- A path that leads on to another one, short of it. -/
theorem Path.exists_rest {ps qs : List String} (h : ps <+: qs) (hne : ps ≠ qs) :
    ∃ rest, rest ≠ [] ∧ ps ++ rest = qs := by
  obtain ⟨rest, hrest⟩ := h
  refine ⟨rest, ?_, hrest⟩
  rintro rfl
  exact hne (by simpa using hrest)

/-- What leads to one of two paths that differ in their last segments, short of it, leads on to the
other. -/
theorem Path.exists_rest_of_sibling {c init : List String} {last other : String}
    (h : c <+: init ++ [last]) (hne : c ≠ init ++ [last]) :
    ∃ rest, rest ≠ [] ∧ init ++ [other] = c ++ rest := by
  rcases List.prefix_concat_iff.1 h with h | ⟨t, rfl⟩
  · exact absurd h hne
  · exact ⟨t ++ [other], by simp, List.append_assoc c t [other]⟩

/-- Nothing but objects stands on the part that two paths share. -/
def Document.ClearWay (ps qs : List String) (d : Document) : Prop :=
  ∀ c, c ≠ [] → c <+: ps → c <+: qs → ∀ v, Json.at? c (.object d) = some v → ∃ m, v = .object m

theorem Document.ClearWay.symm {ps qs : List String} {d : Document} (h : ClearWay ps qs d) :
    ClearWay qs ps d :=
  fun c hc hq hp => h c hc hp hq

namespace Json

theorem at?_append (ps qs : List String) (j : Json) :
    at? (ps ++ qs) j = (at? ps j).bind (at? qs) := by
  induction ps generalizing j with
  | nil => rfl
  | cons k ps ih =>
    simp only [List.cons_append, at?]
    cases j.child? k with
    | none => rfl
    | some next => exact ih next

/-- A value that a path goes on from is an object or an array. -/
theorem object_or_array_of_at? {qs : List String} {j v : Json} (hq : qs ≠ [])
    (h : at? qs j = some v) : (∃ m, j = .object m) ∨ ∃ items, j = .array items := by
  cases qs with
  | nil => exact absurd rfl hq
  | cons k qs => cases j <;> simp_all [at?, child?]

theorem at?_cons_object (k : String) (ps : List String) (d : Document) :
    at? (k :: ps) (.object d) = (d.get? k).bind (at? ps) := by
  simp only [at?, child?]
  cases d.get? k <;> rfl

theorem at?_empty_object {ps : List String} (hp : ps ≠ []) : at? ps (.object []) = none := by
  cases ps with
  | nil => exact absurd rfl hp
  | cons k ps => rw [at?_cons_object]; rfl

end Json

namespace Document

theorem objectAt_of_object {d m : Document} {k : String} (h : d.get? k = some (.object m)) :
    d.objectAt k = m := by
  simp [objectAt, h]

theorem objectAt_of_not_object {d : Document} {k : String}
    (h : ∀ m, d.get? k ≠ some (.object m)) : d.objectAt k = [] := by
  unfold objectAt
  split
  · rename_i m hm
    exact absurd hm (h m)
  · rfl

theorem setSegments_cons (value : Json) (k : String) {ps : List String} (hp : ps ≠ [])
    (d : Document) :
    setSegments value (k :: ps) d = insert k (.object (setSegments value ps (d.objectAt k))) d := by
  cases ps with
  | nil => exact absurd rfl hp
  | cons next rest => rfl

/-- A path below the first written key. -/
theorem at?_setSegments_cons (value : Json) (k : String) {ps : List String} (hp : ps ≠ [])
    (qs : List String) (d : Document) :
    Json.at? (k :: qs) (.object (setSegments value (k :: ps) d)) =
      Json.at? qs (.object (setSegments value ps (d.objectAt k))) := by
  rw [setSegments_cons value k hp, Json.at?_cons_object, get?, Keyed.get?_insert_self]
  rfl

/-- A path that begins with another key. -/
theorem at?_setSegments_of_ne (value : Json) {k l : String} (h : l ≠ k) (ps qs : List String)
    (d : Document) :
    Json.at? (l :: qs) (.object (setSegments value (k :: ps) d)) =
      Json.at? (l :: qs) (.object d) := by
  rw [Json.at?_cons_object, Json.at?_cons_object]
  cases ps with
  | nil => rw [setSegments, get?, Keyed.get?_insert_of_ne h]
  | cons next rest => rw [setSegments, get?, Keyed.get?_insert_of_ne h]

theorem at?_setSegments_self (value : Json) {ps : List String} (hp : ps ≠ []) (d : Document) :
    Json.at? ps (.object (setSegments value ps d)) = some value := by
  induction ps generalizing d with
  | nil => exact absurd rfl hp
  | cons k ps ih =>
    by_cases hps : ps = []
    · subst hps
      rw [setSegments, Json.at?_cons_object, get?, Keyed.get?_insert_self]
      rfl
    · rw [at?_setSegments_cons value k hps]
      exact ih hps _

theorem at?_setSegments_append (value : Json) {ps : List String} (hp : ps ≠ []) (qs : List String)
    (d : Document) :
    Json.at? (ps ++ qs) (.object (setSegments value ps d)) = Json.at? qs value := by
  rw [Json.at?_append, at?_setSegments_self value hp]
  rfl

theorem at?_setSegments_prefix (value : Json) {ps qs : List String} (hp : ps ≠ []) (hq : qs ≠ [])
    (d : Document) :
    ∃ m, Json.at? ps (.object (setSegments value (ps ++ qs) d)) = some (.object m) := by
  induction ps generalizing d with
  | nil => exact absurd rfl hp
  | cons k ps ih =>
    have hne : ps ++ qs ≠ [] := by simp [hq]
    rw [List.cons_append, at?_setSegments_cons value k hne]
    by_cases hps : ps = []
    · subst hps
      exact ⟨_, rfl⟩
    · exact ih hps _

/-- After a write the way to the written value is clear for every other path. -/
theorem clearWay_setSegments (value : Json) {ps qs : List String} (hf : Path.Fork ps qs)
    (d : Document) : ClearWay ps qs (setSegments value ps d) := by
  intro c hc hcp hcq v hv
  obtain ⟨rest, rfl⟩ := hcp
  have hrest : rest ≠ [] := by
    intro h
    subst h
    exact hf.1 (by simpa using hcq)
  obtain ⟨m, hm⟩ := at?_setSegments_prefix value hc hrest d
  rw [hm] at hv
  cases hv
  exact ⟨m, rfl⟩

theorem at?_setSegments_of_clear (value : Json) {ps qs : List String} (hf : Path.Fork ps qs)
    {d : Document} (hd : ClearWay ps qs d) :
    Json.at? qs (.object (setSegments value ps d)) = Json.at? qs (.object d) := by
  induction ps generalizing qs d with
  | nil => exact absurd rfl hf.ne_nil
  | cons k ps ih =>
    cases qs with
    | nil => exact absurd rfl hf.symm.ne_nil
    | cons l qs =>
      by_cases hkl : l = k
      · subst hkl
        have hf' : Path.Fork ps qs := hf.tail
        rw [at?_setSegments_cons value l hf'.ne_nil, Json.at?_cons_object]
        cases hl : d.get? l with
        | none =>
          have hempty : d.objectAt l = [] := objectAt_of_not_object (by simp [hl])
          rw [hempty, ih hf' (fun c hc _ _ v hv => by simp [Json.at?_empty_object hc] at hv),
            Json.at?_empty_object hf'.symm.ne_nil]
          rfl
        | some v =>
          have hkey : Json.at? [l] (.object d) = some v := by rw [Json.at?_cons_object, hl]; rfl
          obtain ⟨m, rfl⟩ := hd [l] (by simp) (by simp) (by simp) v hkey
          rw [objectAt_of_object hl, ih hf' ?_]
          · rfl
          · intro c hc hcp hcq w hw
            refine hd (l :: c) (by simp) (List.cons_prefix_cons.2 ⟨rfl, hcp⟩)
              (List.cons_prefix_cons.2 ⟨rfl, hcq⟩) w ?_
            rw [Json.at?_cons_object, hl]
            exact hw
      · exact at?_setSegments_of_ne value hkl ps qs d

theorem at?_setSegments_of_blocked (value : Json) {ps qs c : List String} (hf : Path.Fork ps qs)
    (hc : c ≠ []) (hcp : c <+: ps) (hcq : c <+: qs) {d : Document} {v : Json}
    (hv : Json.at? c (.object d) = some v) (ho : ∀ m, v ≠ .object m) :
    Json.at? qs (.object (setSegments value ps d)) = none := by
  induction c generalizing ps qs d with
  | nil => exact absurd rfl hc
  | cons k c ih =>
    obtain ⟨ps, rfl⟩ : ∃ ps', ps = k :: ps' := by
      obtain ⟨rest, rfl⟩ := hcp
      exact ⟨c ++ rest, rfl⟩
    obtain ⟨qs, rfl⟩ : ∃ qs', qs = k :: qs' := by
      obtain ⟨rest, rfl⟩ := hcq
      exact ⟨c ++ rest, rfl⟩
    have hf' : Path.Fork ps qs := hf.tail
    rw [at?_setSegments_cons value k hf'.ne_nil]
    by_cases hobj : ∃ m, d.get? k = some (.object m)
    · obtain ⟨m, hm⟩ := hobj
      rw [Json.at?_cons_object, hm] at hv
      rw [objectAt_of_object hm]
      -- the first value on the shared part is an object, so it is not the one in the way
      have hc' : c ≠ [] := by
        intro h
        subst h
        cases hv
        exact ho m rfl
      exact ih hf' hc' (List.cons_prefix_cons.1 hcp).2 (List.cons_prefix_cons.1 hcq).2 hv
    · have hempty : d.objectAt k = [] := objectAt_of_not_object (fun m hm => hobj ⟨m, hm⟩)
      rw [hempty, at?_setSegments_of_clear value hf'
        (fun c hc _ _ v hv => by simp [Json.at?_empty_object hc] at hv)]
      exact Json.at?_empty_object hf'.symm.ne_nil

end Document
end DocAnalytics
