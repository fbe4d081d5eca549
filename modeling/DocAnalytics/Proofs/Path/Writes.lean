import DocAnalytics.Proofs.Path.ReadWrite
import DocAnalytics.Proofs.Path.Segments

/-!
# DocAnalytics.Proofs.Path.Writes

Writes at dotted paths. What a document reads after a write, at the written path and at every path
that forks off it (`at?_setAt`). Two writes can change places on a document, whatever is written,
exactly if their paths fork (`setAt_comm_iff`).

A write changes one member of a document, to a value that the object under its key decides
(`exists_setSegments_eq_insert`), so writes below different keys have nothing to do with each other,
and of those below one key the later one takes the earlier one in.
-/

namespace DocAnalytics

/-! ## Members -/

namespace Keyed

variable {α : Type} {k l : String}

theorem insert_cons_self (k : String) (v u : α) (m : List (String × α)) :
    insert k v ((k, u) :: m) = (k, v) :: m :=
  if_pos rfl

theorem insert_cons_of_lt (h : k < l) (v u : α) (m : List (String × α)) :
    insert k v ((l, u) :: m) = (k, v) :: (l, u) :: m := by
  rw [insert, if_neg (Std.ne_of_lt h), if_pos h]

theorem insert_cons_of_gt (h : l < k) (v u : α) (m : List (String × α)) :
    insert k v ((l, u) :: m) = (l, u) :: insert k v m := by
  rw [insert, if_neg (Std.ne_of_lt h).symm, if_neg (String.lt_asymm h)]

theorem insert_insert_self (k : String) (v w : α) (m : List (String × α)) :
    insert k w (insert k v m) = insert k w m := by
  induction m with
  | nil => exact insert_cons_self k w v []
  | cons member m ih =>
    obtain ⟨key, u⟩ := member
    rcases Std.lt_trichotomy k key with hlt | rfl | hgt
    · rw [insert_cons_of_lt hlt, insert_cons_self, insert_cons_of_lt hlt]
    · rw [insert_cons_self, insert_cons_self, insert_cons_self]
    · rw [insert_cons_of_gt hgt, insert_cons_of_gt hgt, ih, insert_cons_of_gt hgt]

/-- The table need not be in order for this: at each member both keys go the way that they would go
alone. -/
theorem insert_comm_of_lt (h : k < l) (v w : α) (m : List (String × α)) :
    insert l w (insert k v m) = insert k v (insert l w m) := by
  induction m with
  | nil =>
    have hright : insert k v (insert l w []) = [(k, v), (l, w)] := insert_cons_of_lt h v w []
    rw [hright]
    exact insert_cons_of_gt h w v []
  | cons member m ih =>
    obtain ⟨key, u⟩ := member
    rcases Std.lt_trichotomy l key with hl | rfl | hl
    · have hk := String.lt_trans h hl
      rw [insert_cons_of_lt hk, insert_cons_of_gt h, insert_cons_of_lt hl, insert_cons_of_lt h]
    · rw [insert_cons_of_lt h, insert_cons_of_gt h, insert_cons_self, insert_cons_of_lt h]
    · rw [insert_cons_of_gt hl]
      -- `l` goes behind the member; `k` stops before it, takes its place, or goes on with `l`
      rcases Std.lt_trichotomy k key with hk | rfl | hk
      · rw [insert_cons_of_lt hk, insert_cons_of_gt h, insert_cons_of_gt hl, insert_cons_of_lt hk]
      · rw [insert_cons_self, insert_cons_of_gt h, insert_cons_self]
      · rw [insert_cons_of_gt hk, insert_cons_of_gt hl, ih, insert_cons_of_gt hk]

/-- What is set under two keys can be set in either order. -/
theorem insert_comm (h : k ≠ l) (v w : α) (m : List (String × α)) :
    insert l w (insert k v m) = insert k v (insert l w m) := by
  rcases Std.lt_trichotomy k l with hlt | rfl | hgt
  · exact insert_comm_of_lt hlt v w m
  · exact absurd rfl h
  · exact (insert_comm_of_lt hgt w v m).symm

end Keyed

namespace Document

open DocAnalytics.Path (segments)

variable {ps qs : List String} {d : Document}

instance (ps qs : List String) : Decidable (Path.Fork ps qs) := inferInstanceAs (Decidable (_ ∧ _))

theorem objectAt_insert_self (k : String) (m : Document) (d : Document) :
    (insert k (.object m) d).objectAt k = m :=
  objectAt_of_object (Keyed.get?_insert_self k _ d)

theorem objectAt_insert_of_ne {k l : String} (h : l ≠ k) (v : Json) (d : Document) :
    (insert k v d).objectAt l = d.objectAt l := by
  rw [objectAt, get?, Keyed.get?_insert_of_ne h]
  rfl

/-! ## One write -/

/-- A value that is no object stands on the part that two paths share. -/
def Barred (ps qs : List String) (d : Document) : Prop :=
  ∃ c v, c ≠ [] ∧ c <+: ps ∧ c <+: qs ∧ Json.at? c (.object d) = some v ∧ ∀ m, v ≠ .object m

theorem clearWay_of_not_barred (h : ¬ Barred ps qs d) : ClearWay ps qs d := by
  intro c hc hp hq v hv
  by_cases hobject : ∃ m, v = .object m
  · exact hobject
  · exact absurd ⟨c, v, hc, hp, hq, hv, fun m hm => hobject ⟨m, hm⟩⟩ h

/-- At the written path stands the written value. A path that forks off the written one reads as it
did before, unless something that is no object stood on the part that the two share: the write has
put an object without further members in its place. -/
theorem at?_setAt (d : Document) (p q : String) (v : Json) :
    (d.setAt p v).at? p = some v ∧
    (Path.Fork (segments p) (segments q) →
      (Barred (segments p) (segments q) d → (d.setAt p v).at? q = none) ∧
      (¬ Barred (segments p) (segments q) d → (d.setAt p v).at? q = d.at? q)) := by
  refine ⟨at?_setSegments_self v (Path.segments_ne_nil p) d, fun hfork => ⟨?_, ?_⟩⟩
  · rintro ⟨c, w, hc, hp, hq, hw, hobject⟩
    exact at?_setSegments_of_blocked v hfork hc hp hq hw hobject
  · intro hfree
    exact at?_setSegments_of_clear v hfork (clearWay_of_not_barred hfree)

/-- A write beside another member of an object, and one below a list of which a position is read. -/
theorem at?_setAt_tags :
    let d : Document := [("a", .object [("", .string "x")]), ("tags", .array [.string "y"])]
    (d.setAt "a.b" .null).at? "a." = some (.string "x") ∧
      (d.setAt "tags.n" .null).at? "tags.0" = none := by
  intro d
  have hbeside : Path.Fork (segments "a.b") (segments "a.") := by decide +kernel
  have hfree : ¬ Barred (segments "a.b") (segments "a.") d := by
    have hpaths : segments "a.b" = ["a", "b"] ∧ segments "a." = ["a", ""] := by decide +kernel
    rw [hpaths.1, hpaths.2]
    rintro ⟨c, v, hc, hp, hq, hv, hobject⟩
    simp only [List.prefix_cons_iff, List.prefix_nil] at hp hq
    obtain rfl | ⟨t, rfl, rfl | ⟨t, rfl, rfl⟩⟩ := hp
    · exact hc rfl
    · cases hv
      exact hobject _ rfl
    · simp at hq
  have hbelow : Path.Fork (segments "tags.n") (segments "tags.0") := by decide +kernel
  have hbarred : Barred (segments "tags.n") (segments "tags.0") d :=
    ⟨["tags"], .array [.string "y"], by decide, by decide +kernel, by decide +kernel,
      by decide +kernel, by simp⟩
  have hread : d.at? "a." = some (.string "x") := by decide +kernel
  exact ⟨(((at?_setAt d "a.b" "a." .null).2 hbeside).2 hfree).trans hread,
    ((at?_setAt d "tags.n" "tags.0" .null).2 hbelow).1 hbarred⟩

/-! ## Two writes -/

theorem exists_setSegments_eq_insert (v : Json) (k : String) (ps : List String) :
    ∃ f : Document → Json, ∀ d, setSegments v (k :: ps) d = insert k (f (d.objectAt k)) d := by
  cases ps with
  | nil => exact ⟨fun _ => v, fun _ => rfl⟩
  | cons next rest => exact ⟨fun m => .object (setSegments v (next :: rest) m), fun _ => rfl⟩

theorem setSegments_comm (hfork : Path.Fork ps qs) (v w : Json) (d : Document) :
    setSegments w qs (setSegments v ps d) = setSegments v ps (setSegments w qs d) := by
  induction ps generalizing qs d with
  | nil => exact absurd rfl hfork.ne_nil
  | cons k ps ih =>
    cases qs with
    | nil => exact absurd rfl hfork.symm.ne_nil
    | cons l qs =>
      by_cases hkl : k = l
      · -- both writes go into the object under the one key
        subst hkl
        have hrest : Path.Fork ps qs := hfork.tail
        simp only [setSegments_cons _ k hrest.ne_nil, setSegments_cons _ k hrest.symm.ne_nil,
          objectAt_insert_self, Keyed.insert_insert_self, ih hrest]
      · obtain ⟨f, hf⟩ := exists_setSegments_eq_insert v k ps
        obtain ⟨g, hg⟩ := exists_setSegments_eq_insert w l qs
        rw [hf, hg, hg, hf, objectAt_insert_of_ne (Ne.symm hkl), objectAt_insert_of_ne hkl]
        exact Keyed.insert_comm hkl _ _ d

/-- A write on the way to another one, or at its end, shows which of the two came last. -/
theorem setSegments_ne_of_prefix (hps : ps ≠ []) (h : ps <+: qs) (d : Document) :
    setSegments (.bool true) qs (setSegments .null ps d) ≠
      setSegments .null ps (setSegments (.bool true) qs d) := by
  obtain ⟨rest, rfl⟩ := h
  intro heq
  have hlast := at?_setSegments_self .null hps (setSegments (.bool true) (ps ++ rest) d)
  rw [← heq] at hlast
  by_cases hrest : rest = []
  · subst hrest
    rw [List.append_nil, at?_setSegments_self _ hps] at hlast
    cases hlast
  · obtain ⟨m, hm⟩ := at?_setSegments_prefix (.bool true) hps hrest (setSegments .null ps d)
    rw [hm] at hlast
    cases hlast

/-- Whatever the document holds on the part that two paths share, two writes at them can change
places for all values exactly if the paths fork. -/
theorem setAt_comm_iff (d : Document) (p q : String) :
    (∀ v w, (d.setAt p v).setAt q w = (d.setAt q w).setAt p v) ↔
      Path.Fork (segments p) (segments q) := by
  constructor
  · intro hcomm
    refine ⟨fun hprefix => ?_, fun hprefix => ?_⟩
    · exact setSegments_ne_of_prefix (Path.segments_ne_nil p) hprefix d (hcomm .null (.bool true))
    · exact setSegments_ne_of_prefix (Path.segments_ne_nil q) hprefix d
        (hcomm (.bool true) .null).symm
  · intro hfork v w
    exact setSegments_comm hfork v w d

end Document
end DocAnalytics
