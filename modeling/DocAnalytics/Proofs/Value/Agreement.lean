import DocAnalytics.Proofs.Json.Texts
import DocAnalytics.Proofs.Value.Preorder

/-!
# DocAnalytics.Proofs.Value.Agreement

When equality and the order agree on which values are the same. Both go through two values side by
side and differ only in which numbers they let stand for each other, in arrays and in objects
(`Alike`):

* equality takes numbers of one kind and value, in arrays and in objects (`same_iff_alike`);
* the order takes numbers of one value in arrays, and only identical ones in objects, whose texts it
  compares (`compare_eq_iff_alike`).

So they agree exactly where these numbers are the same (`equal_compare_agree_iff`).
-/

namespace DocAnalytics
namespace Json

mutual

/-- Values of one shape, with numbers outside objects that are related by `R` and numbers inside
objects that are related by `S`. -/
def Alike (R S : Number → Number → Prop) : Json → Json → Prop
  | .null, .null => True
  | .bool a, .bool b => a = b
  | .number m, .number n => R m n
  | .string a, .string b => a = b
  | .array as, .array bs => AlikeItems R S as bs
  | .object as, .object bs => AlikeMembers S as bs
  | _, _ => False

def AlikeItems (R S : Number → Number → Prop) : List Json → List Json → Prop
  | [], [] => True
  | a :: as, b :: bs => Alike R S a b ∧ AlikeItems R S as bs
  | _, _ => False

def AlikeMembers (S : Number → Number → Prop) :
    List (String × Json) → List (String × Json) → Prop
  | [], [] => True
  | (k, a) :: as, (l, b) :: bs => (k = l ∧ Alike S S a b) ∧ AlikeMembers S as bs
  | _, _ => False

end

/-- Numbers of one kind and value. -/
def SameNumber (m n : Number) : Prop := m.same n = true

/-- Numbers of one value. -/
def EquivNumber (m n : Number) : Prop := m.compare n = .eq

/-- The same values, with numbers of one value taken for the same wherever they occur. -/
def Normalized (a b : Json) : Prop := Alike EquivNumber EquivNumber a b

mutual

theorem same_iff_alike : ∀ a b : Json, same a b = true ↔ Alike SameNumber SameNumber a b
  | .null, b => by cases b <;> simp [same, Alike]
  | .bool _, b => by cases b <;> simp [same, Alike]
  | .number _, b => by cases b <;> simp [same, Alike, SameNumber]
  | .string _, b => by cases b <;> simp [same, Alike]
  | .array as, b => by cases b <;> simp [same, Alike, sameItems_iff_alike as]
  | .object as, b => by cases b <;> simp [same, Alike, sameMembers_iff_alike as]

theorem sameItems_iff_alike : ∀ as bs : List Json,
    sameItems as bs = true ↔ AlikeItems SameNumber SameNumber as bs
  | [], bs => by cases bs <;> simp [sameItems, AlikeItems]
  | a :: as, bs => by
    cases bs with
    | nil => simp [sameItems, AlikeItems]
    | cons b bs => simp [sameItems, AlikeItems, same_iff_alike a b, sameItems_iff_alike as bs]

theorem sameMembers_iff_alike : ∀ as bs : List (String × Json),
    sameMembers as bs = true ↔ AlikeMembers SameNumber as bs
  | [], bs => by cases bs <;> simp [sameMembers, AlikeMembers]
  | (k, a) :: as, bs => by
    cases bs with
    | nil => simp [sameMembers, AlikeMembers]
    | cons b bs =>
      obtain ⟨l, b⟩ := b
      simp [sameMembers, AlikeMembers, same_iff_alike a b, sameMembers_iff_alike as bs]

end

mutual

theorem eq_iff_alike : ∀ a b : Json, a = b ↔ Alike Eq Eq a b
  | .null, b => by cases b <;> simp [Alike]
  | .bool _, b => by cases b <;> simp [Alike]
  | .number _, b => by cases b <;> simp [Alike]
  | .string _, b => by cases b <;> simp [Alike]
  | .array as, b => by cases b <;> simp [Alike, eq_iff_alikeItems as]
  | .object as, b => by cases b <;> simp [Alike, eq_iff_alikeMembers as]

theorem eq_iff_alikeItems : ∀ as bs : List Json, as = bs ↔ AlikeItems Eq Eq as bs
  | [], bs => by cases bs <;> simp [AlikeItems]
  | a :: as, bs => by
    cases bs with
    | nil => simp [AlikeItems]
    | cons b bs => simp [AlikeItems, eq_iff_alike a b, eq_iff_alikeItems as bs]

theorem eq_iff_alikeMembers : ∀ as bs : List (String × Json), as = bs ↔ AlikeMembers Eq as bs
  | [], bs => by cases bs <;> simp [AlikeMembers]
  | (k, a) :: as, bs => by
    cases bs with
    | nil => simp [AlikeMembers]
    | cons b bs =>
      obtain ⟨l, b⟩ := b
      simp [AlikeMembers, eq_iff_alike a b, eq_iff_alikeMembers as bs]

end

/-- Objects are compared as texts, and a text is the text of one value only. -/
theorem compare_object_eq_iff (as bs : List (String × Json)) :
    compare (.object as) (.object bs) = .eq ↔ AlikeMembers Eq as bs := by
  rw [compare, Std.LawfulEqOrd.compare_eq_iff_eq, ← eq_iff_alikeMembers]
  constructor
  · intro h
    exact object.inj (compact_inj h)
  · rintro rfl
    rfl

mutual

theorem compare_eq_iff_alike : ∀ a b : Json, compare a b = .eq ↔ Alike EquivNumber Eq a b
  | .null, b => by cases b <;> simp [compare, Alike, kindRank]
  | .bool _, b => by cases b <;> simp [compare, Alike, kindRank]
  | .number _, b => by cases b <;> simp [compare, Alike, kindRank, EquivNumber]
  | .string _, b => by cases b <;> simp [compare, Alike, kindRank]
  | .array as, b => by cases b <;> simp [compare, Alike, kindRank, compareItems_eq_iff_alike as]
  | .object as, b => by
    cases b
    case object bs => exact compare_object_eq_iff as bs
    all_goals simp [compare, Alike, kindRank]

theorem compareItems_eq_iff_alike : ∀ as bs : List Json,
    compareItems as bs = .eq ↔ AlikeItems EquivNumber Eq as bs
  | [], bs => by cases bs <;> simp [compareItems, AlikeItems]
  | a :: as, bs => by
    cases bs with
    | nil => simp [compareItems, AlikeItems]
    | cons b bs =>
      rw [compareItems, AlikeItems, ← compare_eq_iff_alike a b, ← compareItems_eq_iff_alike as bs]
      cases a.compare b <;> simp

end

/-! ## Numbers that decide -/

theorem Number.same_self (n : Number) : n.same n = true := by
  cases n <;> simp [same, Binary64.Finite.sameValue]

theorem Number.compare_eq_of_same {m n : Number} (h : m.same n = true) : m.compare n = .eq := by
  cases m with
  | integer k hk =>
    cases n with
    | integer l hl =>
      have hkl : k = l := by simpa [same] using h
      subst hkl
      exact compare_self _
    | float y => simp [same] at h
  | float x =>
    cases n with
    | integer l hl => simp [same] at h
    | float y =>
      rw [compare_of_left rfl, Int.compare_eq_eq]
      change x.key = y.key
      simpa [same, Binary64.Finite.sameValue] using h

mutual

/-- The numbers of a value are in `N` where they stand outside objects, and in `M` inside. -/
def Within (N M : Number → Prop) : Json → Prop
  | .number n => N n
  | .array items => WithinItems N M items
  | .object members => WithinMembers M members
  | _ => True

def WithinItems (N M : Number → Prop) : List Json → Prop
  | [] => True
  | item :: items => Within N M item ∧ WithinItems N M items

def WithinMembers (M : Number → Prop) : List (String × Json) → Prop
  | [] => True
  | (_, value) :: members => Within M M value ∧ WithinMembers M members

end

/-- `Within` for a value that is compared on its own: a number on its own may be any. -/
def Nested (N M : Number → Prop) : Json → Prop
  | .number _ => True
  | a => Within N M a

section Congruence

variable {M : Number → Prop} {S S' : Number → Number → Prop}

mutual

theorem alike_congr (hS : ∀ m n, M m → M n → (S m n ↔ S' m n)) :
    ∀ (a b : Json) {N : Number → Prop} {R R' : Number → Number → Prop},
      (∀ m n, N m → N n → (R m n ↔ R' m n)) → a.Within N M → b.Within N M →
        (Alike R S a b ↔ Alike R' S' a b)
  | .null, b => by cases b <;> simp [Alike]
  | .bool _, b => by cases b <;> simp [Alike]
  | .string _, b => by cases b <;> simp [Alike]
  | .number m, b => by
    intro hR ha hb
    cases b
    case number n => exact hR m n ha hb
    all_goals simp [Alike]
  | .array as, b => by
    intro hR ha hb
    cases b
    case array bs => exact alikeItems_congr hS as bs hR ha hb
    all_goals simp [Alike]
  | .object as, b => by
    intro _ ha hb
    cases b
    case object bs => exact alikeMembers_congr hS as bs ha hb
    all_goals simp [Alike]

theorem alikeItems_congr (hS : ∀ m n, M m → M n → (S m n ↔ S' m n)) :
    ∀ (as bs : List Json) {N : Number → Prop} {R R' : Number → Number → Prop},
      (∀ m n, N m → N n → (R m n ↔ R' m n)) → WithinItems N M as → WithinItems N M bs →
        (AlikeItems R S as bs ↔ AlikeItems R' S' as bs)
  | [], bs => by cases bs <;> simp [AlikeItems]
  | a :: as, bs => by
    intro hR ha hb
    cases bs with
    | nil => simp [AlikeItems]
    | cons b bs =>
      exact and_congr (alike_congr hS a b hR ha.1 hb.1) (alikeItems_congr hS as bs hR ha.2 hb.2)

theorem alikeMembers_congr (hS : ∀ m n, M m → M n → (S m n ↔ S' m n)) :
    ∀ as bs : List (String × Json), WithinMembers M as → WithinMembers M bs →
      (AlikeMembers S as bs ↔ AlikeMembers S' as bs)
  | [], bs => by cases bs <;> simp [AlikeMembers]
  | (k, a) :: as, bs => by
    intro ha hb
    cases bs with
    | nil => simp [AlikeMembers]
    | cons b bs =>
      have hvalue := alike_congr hS a b.2 hS ha.1 hb.1
      exact and_congr (and_congr Iff.rfl hvalue) (alikeMembers_congr hS as bs ha.2 hb.2)

end

end Congruence

theorem same_iff_compare_eq {N M : Number → Prop}
    (hN : ∀ m n, N m → N n → m.compare n = .eq → m.same n = true)
    (hM : ∀ m n, M m → M n → m.same n = true → m = n) {a b : Json} (ha : a.Within N M)
    (hb : b.Within N M) : a.same b = true ↔ a.compare b = .eq := by
  have hR (m n : Number) (hm : N m) (hn : N n) : SameNumber m n ↔ EquivNumber m n :=
    ⟨Number.compare_eq_of_same, hN m n hm hn⟩
  have hS (m n : Number) (hm : M m) (hn : M n) : SameNumber m n ↔ m = n :=
    ⟨hM m n hm hn, fun h => h ▸ n.same_self⟩
  rw [same_iff_alike, compare_eq_iff_alike]
  exact alike_congr hS a b hR ha hb

theorem compare_eq_iff_normalized {N M : Number → Prop}
    (hM : ∀ m n, M m → M n → m.compare n = .eq → m = n) {a b : Json} (ha : a.Nested N M)
    (hb : b.Nested N M) : a.compare b = .eq ↔ a.Normalized b := by
  have hS (m n : Number) (hm : M m) (hn : M n) : m = n ↔ EquivNumber m n :=
    ⟨fun h => h ▸ n.compare_self, hM m n hm hn⟩
  have hR (m n : Number) (_ : N m) (_ : N n) : EquivNumber m n ↔ EquivNumber m n := Iff.rfl
  rw [compare_eq_iff_alike, Normalized]
  cases a
  case number m => cases b <;> simp [Alike]
  all_goals
    cases b
    case number n => simp [Alike]
    all_goals exact alike_congr hS _ _ hR ha hb

theorem equal_iff_compare_eq {N M : Number → Prop}
    (hN : ∀ m n, N m → N n → m.compare n = .eq → m.same n = true)
    (hM : ∀ m n, M m → M n → m.same n = true → m = n) {a b : Json} (ha : a.Nested N M)
    (hb : b.Nested N M) : a.equal b = true ↔ a.compare b = .eq := by
  cases a
  case number m => cases b <;> simp [equal, same, compare, kindRank]
  all_goals
    cases b
    case number n => simp [equal, same, compare, kindRank]
    all_goals exact same_iff_compare_eq hN hM ha hb

/-- An array of one number tells what arrays take for the same. -/
theorem same_of_agree {m n : Number}
    (h : equal (.array [.number m]) (.array [.number n]) = true ↔
      compare (.array [.number m]) (.array [.number n]) = .eq)
    (heq : m.compare n = .eq) : m.same n = true := by
  have hequal := h.2 ((compare_eq_iff_alike _ _).2 ⟨heq, trivial⟩)
  exact ((same_iff_alike _ _).1 hequal).1

/-- An object of one number tells what objects take for the same. -/
theorem eq_of_compare_object {m n : Number}
    (h : compare (.object [("", .number m)]) (.object [("", .number n)]) = .eq) : m = n :=
  ((compare_eq_iff_alike _ _).1 h).1.2

/-- Equality and the order agree on the values over some numbers in arrays and some in objects
exactly if those in arrays that compare equal are of one kind and value, and those in objects that
are of one kind and value are identical. Both take numbers of one value for the same wherever they
occur exactly if, of the numbers in objects, those that compare equal are identical too. -/
theorem equal_compare_agree_iff (N M : Number → Prop) :
    ((∀ a b : Json, a.Nested N M → b.Nested N M → (a.equal b = true ↔ a.compare b = .eq)) ↔
      (∀ m n, N m → N n → m.compare n = .eq → m.same n = true) ∧
        (∀ m n, M m → M n → m.same n = true → m = n)) ∧
    ((∀ a b : Json, a.Nested N M → b.Nested N M →
        (a.equal b = true ↔ a.Normalized b) ∧ (a.compare b = .eq ↔ a.Normalized b)) ↔
      (∀ m n, N m → N n → m.compare n = .eq → m.same n = true) ∧
        (∀ m n, M m → M n → m.compare n = .eq → m = n)) := by
  have hitem {n : Number} (hn : N n) : Nested N M (.array [.number n]) := ⟨hn, trivial⟩
  have hmember {n : Number} (hn : M n) : Nested N M (.object [("", .number n)]) := ⟨hn, trivial⟩
  refine ⟨⟨fun h => ⟨?_, ?_⟩, ?_⟩, ⟨fun h => ⟨?_, ?_⟩, ?_⟩⟩
  · intro m n hm hn
    exact same_of_agree (h _ _ (hitem hm) (hitem hn))
  · intro m n hm hn hsame
    have hequal : equal (.object [("", .number m)]) (.object [("", .number n)]) = true :=
      (same_iff_alike _ _).2 ⟨⟨rfl, hsame⟩, trivial⟩
    exact eq_of_compare_object ((h _ _ (hmember hm) (hmember hn)).1 hequal)
  · rintro ⟨hN, hM⟩ a b ha hb
    exact equal_iff_compare_eq hN hM ha hb
  · intro m n hm hn
    have hagree := h _ _ (hitem hm) (hitem hn)
    exact same_of_agree (hagree.1.trans hagree.2.symm)
  · intro m n hm hn heq
    have hnormalized : Normalized (.object [("", .number m)]) (.object [("", .number n)]) :=
      ⟨⟨rfl, heq⟩, trivial⟩
    exact eq_of_compare_object ((h _ _ (hmember hm) (hmember hn)).2.2 hnormalized)
  · rintro ⟨hN, hM⟩ a b ha hb
    have hsame (m n : Number) (hm : M m) (hn : M n) (h : m.same n = true) : m = n :=
      hM m n hm hn (Number.compare_eq_of_same h)
    have hcompare := compare_eq_iff_normalized hM ha hb
    exact ⟨(equal_iff_compare_eq hN hsame ha hb).trans hcompare, hcompare⟩

/-- Below the top, equality tells `1` and `1.0` apart in arrays and the order does not; in objects
both tell them apart, and the order also the two zeros, which equality does not. -/
theorem equal_compare_disagree :
    let one := Json.ofNat 1
    let double := Json.number (.float (Binary64.Finite.nearestInt 1))
    let zero (negative : Bool) := Json.number (.float (Binary64.Finite.zero negative))
    (compare (.array [one]) (.array [double]) = .eq ∧
        equal (.array [one]) (.array [double]) = false) ∧
      (compare (.object [("x", one)]) (.object [("x", double)]) = .gt ∧
        equal (.object [("x", one)]) (.object [("x", double)]) = false) ∧
      (compare (.object [("x", zero false)]) (.object [("x", zero true)]) = .gt ∧
        equal (.object [("x", zero false)]) (.object [("x", zero true)]) = true) := by
  decide +kernel

end Json
end DocAnalytics
