import DocAnalytics.Proofs.Binary64.Monotone
import DocAnalytics.Value.Order

/-!
# DocAnalytics.Proofs.Value.Preorder

How far the comparison of values is an order. Every value is equal to itself, and comparing the
other way round gives the opposite answer (`compare_self`, `compare_swap`). It is transitive as long
as no number of another kind stands between two signed integers that are different: those two are
compared exactly, and each of them with the other number as doubles (`Unambiguous`).

Two facts about three values carry transitivity through arrays, and are proved of numbers first:

* `compare_congr`: values that are equal compare alike with every other value.
* `compare_lt_of_lt`: what is less than a value is less than everything that is not less than it.
-/

namespace DocAnalytics
namespace Json
namespace Number

/-- No number of `N` that is not a signed integer is equal to two different ones that are. -/
def Unambiguous (N : Number → Prop) : Prop :=
  ∀ a b x m n, N a → N b → N x → a.toSigned? = some m → b.toSigned? = some n →
    x.toSigned? = none → a.compare x = .eq → x.compare b = .eq → m = n

/-! ## Comparing two numbers -/

theorem compare_of_signed {a b : Number} {m n : Int} (ha : a.toSigned? = some m)
    (hb : b.toSigned? = some n) : a.compare b = Ord.compare m n := by
  rw [compare, ha, hb]

theorem compare_of_left {a : Number} (ha : a.toSigned? = none) (b : Number) :
    a.compare b = Ord.compare a.toDouble.key b.toDouble.key := by
  rw [compare, ha]
  rfl

theorem compare_of_right (a : Number) {b : Number} (hb : b.toSigned? = none) :
    a.compare b = Ord.compare a.toDouble.key b.toDouble.key := by
  rw [compare, hb]
  cases a.toSigned? <;> rfl

theorem toDouble_of_signed {a : Number} {m : Int} (ha : a.toSigned? = some m) :
    a.toDouble = Binary64.Finite.nearestInt m := by
  cases a with
  | integer n h =>
    simp only [toSigned?] at ha
    split at ha
    · cases ha
      rfl
    · cases ha
  | float x => cases ha

theorem compare_self (a : Number) : a.compare a = .eq := by
  cases ha : a.toSigned? with
  | none => rw [compare_of_left ha, Int.compare_eq_eq]
  | some m => rw [compare_of_signed ha ha, Int.compare_eq_eq]

theorem compare_swap (a b : Number) : b.compare a = (a.compare b).swap := by
  cases ha : a.toSigned? with
  | none => rw [compare_of_left ha, compare_of_right b ha, Int.compare_swap]
  | some m =>
    cases hb : b.toSigned? with
    | none => rw [compare_of_left hb, compare_of_right a hb, Int.compare_swap]
    | some n => rw [compare_of_signed ha hb, compare_of_signed hb ha, Int.compare_swap]

/-- The doubles of two numbers are never in the opposite order. -/
theorem key_le_of_compare {a b : Number} (h : a.compare b ≠ .gt) :
    a.toDouble.key ≤ b.toDouble.key := by
  cases ha : a.toSigned? with
  | none =>
    rw [compare_of_left ha] at h
    exact Int.compare_ne_gt.1 h
  | some m =>
    cases hb : b.toSigned? with
    | none =>
      rw [compare_of_right a hb] at h
      exact Int.compare_ne_gt.1 h
    | some n =>
      rw [compare_of_signed ha hb] at h
      rw [toDouble_of_signed ha, toDouble_of_signed hb]
      exact Binary64.Finite.key_nearestInt_mono (Int.compare_ne_gt.1 h)

theorem compare_of_key_lt {a b : Number} (h : a.toDouble.key < b.toDouble.key) :
    a.compare b = .lt := by
  rw [compare_swap b a]
  cases hba : b.compare a with
  | gt => rfl
  | lt =>
    have hle := key_le_of_compare (a := b) (b := a) (by simp [hba])
    omega
  | eq =>
    have hle := key_le_of_compare (a := b) (b := a) (by simp [hba])
    omega

theorem key_eq_of_compare {a b : Number} (h : a.compare b = .eq) :
    a.toDouble.key = b.toDouble.key := by
  have hba : b.compare a = .eq := by rw [compare_swap a b, h]; rfl
  have hle := key_le_of_compare (a := a) (b := b) (by simp [h])
  have hge := key_le_of_compare (a := b) (b := a) (by simp [hba])
  omega

/-- Numbers compare as their doubles do, if they are equal whenever those are. -/
theorem compare_eq_compare_key {a b : Number}
    (h : a.toDouble.key = b.toDouble.key → a.compare b = .eq) :
    a.compare b = Ord.compare a.toDouble.key b.toDouble.key := by
  rcases Int.lt_trichotomy a.toDouble.key b.toDouble.key with hlt | heq | hgt
  · rw [compare_of_key_lt hlt, Int.compare_eq_lt.2 hlt]
  · rw [h heq, Int.compare_eq_eq.2 heq]
  · rw [compare_swap b a, compare_of_key_lt hgt, Int.compare_eq_gt.2 hgt]
    rfl

/-! ## Comparing three numbers -/

section Three

variable {N : Number → Prop} {a b c : Number}

/-- A signed integer that is equal to a number of another kind compares as that number does. -/
theorem compare_congr_of_mixed (hN : Unambiguous N) (ha : N a) (hb : N b) (hc : N c) {m : Int}
    (hm : a.toSigned? = some m) (hb' : b.toSigned? = none) (h : a.compare b = .eq) :
    a.compare c = b.compare c := by
  have hkey := key_eq_of_compare h
  rw [compare_of_left hb', ← hkey]
  cases hc' : c.toSigned? with
  | none => exact compare_of_right a hc'
  | some n =>
    refine compare_eq_compare_key fun hac => ?_
    have hbc : b.compare c = .eq := by
      rw [compare_of_left hb', Int.compare_eq_eq]
      omega
    rw [compare_of_signed hm hc', Int.compare_eq_eq]
    exact hN a c b m n ha hc hb hm hc' hb' h hbc

theorem compare_congr (hN : Unambiguous N) (ha : N a) (hb : N b) (hc : N c)
    (h : a.compare b = .eq) : a.compare c = b.compare c := by
  cases ha' : a.toSigned? with
  | none =>
    cases hb' : b.toSigned? with
    | none => rw [compare_of_left ha', compare_of_left hb', key_eq_of_compare h]
    | some n =>
      have hba : b.compare a = .eq := by rw [compare_swap a b, h]; rfl
      exact (compare_congr_of_mixed hN hb ha hc hb' ha' hba).symm
  | some m =>
    cases hb' : b.toSigned? with
    | none => exact compare_congr_of_mixed hN ha hb hc ha' hb' h
    | some n =>
      rw [compare_of_signed ha' hb', Int.compare_eq_eq] at h
      subst h
      simp only [compare, ha', hb', toDouble_of_signed ha', toDouble_of_signed hb']

theorem compare_lt_of_lt (hN : Unambiguous N) (ha : N a) (hb : N b) (hc : N c)
    (hab : a.compare b = .lt) (hbc : b.compare c ≠ .gt) : a.compare c = .lt := by
  have hkab := key_le_of_compare (a := a) (b := b) (by simp [hab])
  have hkbc := key_le_of_compare hbc
  by_cases hlt : a.toDouble.key < c.toDouble.key
  · exact compare_of_key_lt hlt
  · -- all three doubles are the same, so the first two numbers were compared as integers
    have hkeys : a.toDouble.key = b.toDouble.key := by omega
    cases ha' : a.toSigned? with
    | none =>
      rw [compare_of_left ha', Int.compare_eq_lt] at hab
      omega
    | some m =>
      cases hb' : b.toSigned? with
      | none =>
        rw [compare_of_right a hb', Int.compare_eq_lt] at hab
        omega
      | some n =>
        rw [compare_of_signed ha' hb', Int.compare_eq_lt] at hab
        cases hc' : c.toSigned? with
        | none =>
          have hac : a.compare c = .eq := by
            rw [compare_of_right a hc', Int.compare_eq_eq]
            omega
          have hcb : c.compare b = .eq := by
            rw [compare_of_left hc', Int.compare_eq_eq]
            omega
          have hmn := hN a b c m n ha hb hc ha' hb' hc' hac hcb
          omega
        | some k =>
          rw [compare_of_signed hb' hc', Int.compare_ne_gt] at hbc
          rw [compare_of_signed ha' hc', Int.compare_eq_lt]
          omega

end Three

end Number

mutual

/-- The numbers of a value are in `N`, those in arrays included. Objects are compared as texts, so
the numbers in them do not count. -/
def Over (N : Number → Prop) : Json → Prop
  | .number n => N n
  | .array items => OverItems N items
  | _ => True

def OverItems (N : Number → Prop) : List Json → Prop
  | [] => True
  | item :: items => Over N item ∧ OverItems N items

end

/-! ## Values of different kinds -/

theorem compare_of_kindRank_ne {a b : Json} (h : a.kindRank ≠ b.kindRank) :
    a.compare b = Ord.compare a.kindRank b.kindRank := by
  cases a <;> cases b <;> first | rfl | exact absurd rfl h

theorem kindRank_le_of_compare {a b : Json} (h : a.compare b ≠ .gt) :
    a.kindRank ≤ b.kindRank := by
  by_cases hkind : a.kindRank = b.kindRank
  · exact Nat.le_of_eq hkind
  · rw [compare_of_kindRank_ne hkind] at h
    exact Nat.compare_ne_gt.1 h

theorem kindRank_eq_of_compare {a b : Json} (h : a.compare b = .eq) : a.kindRank = b.kindRank := by
  by_cases hkind : a.kindRank = b.kindRank
  · exact hkind
  · rw [compare_of_kindRank_ne hkind, Nat.compare_eq_eq] at h
    exact h

/-! ## Comparing two values -/

theorem ord_swap {α : Type} [Ord α] [Std.OrientedOrd α] (a b : α) :
    Ord.compare b a = (Ord.compare a b).swap :=
  Std.OrientedCmp.eq_swap

mutual

theorem compare_self : ∀ a : Json, a.compare a = .eq
  | .null => rfl
  | .number n => n.compare_self
  | .string s => show Ord.compare s s = .eq from Std.ReflCmp.compare_self
  | .bool b => show Ord.compare b b = .eq from Std.ReflCmp.compare_self
  | .object m => show Ord.compare (compact (.object m)) _ = .eq from Std.ReflCmp.compare_self
  | .array items => compareItems_self items

theorem compareItems_self : ∀ items : List Json, compareItems items items = .eq
  | [] => rfl
  | item :: items => by rw [compareItems, compare_self item]; exact compareItems_self items

end

mutual

theorem compare_swap (a b : Json) : b.compare a = (a.compare b).swap := by
  by_cases hkind : a.kindRank = b.kindRank
  · cases a <;> cases b <;> simp only [kindRank] at hkind <;> try omega
    case null => rfl
    case number m n => exact m.compare_swap n
    case string s t => exact ord_swap s t
    case bool s t => exact ord_swap s t
    case object m n => exact ord_swap (compact (.object m)) (compact (.object n))
    case array as bs => exact compareItems_swap as bs
  · rw [compare_of_kindRank_ne hkind, compare_of_kindRank_ne (Ne.symm hkind)]
    exact ord_swap a.kindRank b.kindRank

theorem compareItems_swap (as bs : List Json) :
    compareItems bs as = (compareItems as bs).swap := by
  match as, bs with
  | [], [] => rfl
  | [], _ :: _ => rfl
  | _ :: _, [] => rfl
  | a :: as, b :: bs =>
    rw [compareItems, compareItems, compare_swap a b]
    cases a.compare b with
    | eq => exact compareItems_swap as bs
    | lt => rfl
    | gt => rfl

end

/-! ## Comparing three values -/

theorem compare_congr_of_ord {α : Type} [Ord α] [Std.TransOrd α] {a b c : α}
    (h : Ord.compare a b = .eq) : Ord.compare a c = Ord.compare b c :=
  Std.TransCmp.congr_left h

theorem compare_lt_of_lt_of_ord {α : Type} [Ord α] [Std.TransOrd α] {a b c : α}
    (hab : Ord.compare a b = .lt) (hbc : Ord.compare b c ≠ .gt) : Ord.compare a c = .lt :=
  Std.TransCmp.lt_of_lt_of_isLE hab (Ordering.ne_gt_iff_isLE.1 hbc)

variable {N : Number → Prop}

mutual

theorem compare_congr (hN : Number.Unambiguous N) {a b c : Json} (ha : a.Over N) (hb : b.Over N)
    (hc : c.Over N) (h : a.compare b = .eq) : a.compare c = b.compare c := by
  have hab := kindRank_eq_of_compare h
  by_cases hkind : b.kindRank = c.kindRank
  · cases a <;> cases b <;> simp only [kindRank] at hab <;> try omega
    all_goals cases c <;> simp only [kindRank] at hkind <;> try omega
    case null => rfl
    case number l m n => exact Number.compare_congr hN ha hb hc h
    case string => exact compare_congr_of_ord h
    case bool => exact compare_congr_of_ord h
    case object => exact compare_congr_of_ord h
    case array as bs cs => exact compareItems_congr hN ha hb hc h
  · rw [compare_of_kindRank_ne hkind, compare_of_kindRank_ne (hab ▸ hkind), hab]

theorem compareItems_congr (hN : Number.Unambiguous N) {as bs cs : List Json}
    (ha : OverItems N as) (hb : OverItems N bs) (hc : OverItems N cs)
    (h : compareItems as bs = .eq) : compareItems as cs = compareItems bs cs := by
  match as, bs, cs with
  | [], [], _ => rfl
  | a :: as, b :: bs, [] => rfl
  | a :: as, b :: bs, c :: cs =>
    rw [compareItems] at h
    cases hab : a.compare b with
    | lt => rw [hab] at h; cases h
    | gt => rw [hab] at h; cases h
    | eq =>
      rw [hab] at h
      have hitem := compare_congr hN ha.1 hb.1 hc.1 hab
      have hrest := compareItems_congr hN ha.2 hb.2 hc.2 h
      rw [compareItems, compareItems, hitem, hrest]

end

mutual

theorem compare_lt_of_lt (hN : Number.Unambiguous N) {a b c : Json} (ha : a.Over N)
    (hb : b.Over N) (hc : c.Over N) (hab : a.compare b = .lt) (hbc : b.compare c ≠ .gt) :
    a.compare c = .lt := by
  have hkab : a.kindRank ≤ b.kindRank := kindRank_le_of_compare (by simp [hab])
  have hkbc : b.kindRank ≤ c.kindRank := kindRank_le_of_compare hbc
  by_cases hkind : a.kindRank = c.kindRank
  · have hkab : a.kindRank = b.kindRank := by omega
    have hkbc : b.kindRank = c.kindRank := by omega
    cases a <;> cases b <;> simp only [kindRank] at hkab <;> try omega
    all_goals cases c <;> simp only [kindRank] at hkbc <;> try omega
    case number => exact Number.compare_lt_of_lt hN ha hb hc hab hbc
    case string s t u => exact compare_lt_of_lt_of_ord (α := String) hab hbc
    case bool s t u => exact compare_lt_of_lt_of_ord (α := Bool) hab hbc
    case object s t u => exact compare_lt_of_lt_of_ord (α := String) hab hbc
    case array as bs cs => exact compareItems_lt_of_lt hN ha hb hc hab hbc
  · rw [compare_of_kindRank_ne hkind, Nat.compare_eq_lt]
    omega

theorem compareItems_lt_of_lt (hN : Number.Unambiguous N) {as bs cs : List Json}
    (ha : OverItems N as) (hb : OverItems N bs) (hc : OverItems N cs)
    (hab : compareItems as bs = .lt) (hbc : compareItems bs cs ≠ .gt) :
    compareItems as cs = .lt := by
  match as, bs, cs with
  | [], _ :: _, [] => exact absurd rfl hbc
  | [], _ :: _, _ :: _ => rfl
  | _ :: _, _ :: _, [] => exact absurd rfl hbc
  | a :: as, b :: bs, c :: cs =>
    rw [compareItems] at hab hbc
    have hbc' : b.compare c ≠ .gt := by
      intro h
      rw [h] at hbc
      exact hbc rfl
    rw [compareItems]
    cases h : a.compare b with
    | gt => rw [h] at hab; cases hab
    | lt => rw [compare_lt_of_lt hN ha.1 hb.1 hc.1 h hbc']
    | eq =>
      rw [h] at hab
      rw [compare_congr hN ha.1 hb.1 hc.1 h]
      cases h' : b.compare c with
      | gt => exact absurd h' hbc'
      | lt => rfl
      | eq =>
        rw [h'] at hbc
        exact compareItems_lt_of_lt hN ha.2 hb.2 hc.2 hab hbc

end

theorem compare_trans (hN : Number.Unambiguous N) {a b c : Json} (ha : a.Over N) (hb : b.Over N)
    (hc : c.Over N) (hab : a.compare b ≠ .gt) (hbc : b.compare c ≠ .gt) : a.compare c ≠ .gt := by
  cases h : a.compare b with
  | gt => exact absurd h hab
  | lt => rw [compare_lt_of_lt hN ha hb hc h hbc]; decide
  | eq => rw [compare_congr hN ha hb hc h]; exact hbc

/-- Comparing values is reflexive and turns around with its arguments. It is transitive on the
values over some numbers exactly if those are unambiguous. -/
theorem compare_preorder_iff (N : Number → Prop) :
    (∀ a : Json, a.compare a = .eq) ∧ (∀ a b : Json, b.compare a = (a.compare b).swap) ∧
    ((∀ a b c : Json, a.Over N → b.Over N → c.Over N →
        a.compare b ≠ .gt → b.compare c ≠ .gt → a.compare c ≠ .gt) ↔ Number.Unambiguous N) := by
  refine ⟨compare_self, compare_swap, ?_, ?_⟩
  · intro htrans a b x m n ha hb hx hm hn hx' hax hxb
    have hab := htrans (.number a) (.number x) (.number b) ha hx hb
      (show a.compare x ≠ .gt by simp [hax]) (show x.compare b ≠ .gt by simp [hxb])
    have hba := htrans (.number b) (.number x) (.number a) hb hx ha
      (show b.compare x ≠ .gt by simp [Number.compare_swap x b, hxb])
      (show x.compare a ≠ .gt by simp [Number.compare_swap a x, hax])
    have hmn : m ≤ n := by
      rw [compare, Number.compare_of_signed hm hn] at hab
      exact Int.compare_ne_gt.1 hab
    have hnm : n ≤ m := by
      rw [compare, Number.compare_of_signed hn hm] at hba
      exact Int.compare_ne_gt.1 hba
    omega
  · intro hN a b c ha hb hc hab hbc
    exact compare_trans hN ha hb hc hab hbc

/-- Two neighbouring integers and the double that is nearest to both. -/
theorem compare_not_transitive :
    let more := Json.ofNat 9007199254740993
    let double := Json.number (.float (Binary64.Finite.nearestInt 9007199254740992))
    let less := Json.ofNat 9007199254740992
    more.compare double = .eq ∧ double.compare less = .eq ∧ more.compare less = .gt := by
  decide +kernel

end Json
end DocAnalytics
