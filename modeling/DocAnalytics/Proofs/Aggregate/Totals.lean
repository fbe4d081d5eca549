import DocAnalytics.Aggregate.Accumulator
import Mathlib.Algebra.BigOperators.Group.List.Basic
import Mathlib.Algebra.Order.BigOperators.Group.List
import Mathlib.Algebra.Ring.Int.Defs

/-!
# DocAnalytics.Proofs.Aggregate.Totals

When a sum of integers is exact. The exact total is given up for good when it leaves the signed
64-bit integers, so it is kept exactly if every total on the way stays among them
(`foldl_addToExact`), and what comes out depends on the order of the values. It does not if the
positive integers alone and the negative ones alone stay in range: between these two totals lies
every total on the way, in any order, and each of the two stands on the way in some order
(`forall_perm_staysSigned_iff`).
-/

namespace DocAnalytics

/-! ## Totals of integers -/

namespace Json

/-- The integers that a signed 64-bit integer can be. -/
def FitsSigned (n : Int) : Prop := -Text.signedLimit ≤ n ∧ n < Text.signedLimit

instance (n : Int) : Decidable (FitsSigned n) := inferInstanceAs (Decidable (_ ∧ _))

def isIntegral : Json → Bool
  | .number n => n.toSigned?.isSome
  | _ => true

/-- What a value counts in a total of integers; only numbers count. -/
def integerValue : Json → Int
  | .number n => n.toSigned?.getD 0
  | _ => 0

/-- The total of the integers among some values. -/
def integerTotal (values : List Json) : Int := (values.map integerValue).sum

/-- The total of the positive integers among some values. -/
def gains (values : List Json) : Int := (values.map fun v => max v.integerValue 0).sum

/-- The total of the negative integers among some values. -/
def losses (values : List Json) : Int := (values.map fun v => min v.integerValue 0).sum

/-- Every total on the way through some values, on top of a start, is a signed 64-bit integer. -/
def StaysSigned (start : Int) (values : List Json) : Prop :=
  ∀ before, before <+: values → FitsSigned (start + integerTotal before)

variable {values before after : List Json} {v : Json} {start : Int}

@[simp] theorem integerTotal_cons (v : Json) (values : List Json) :
    integerTotal (v :: values) = v.integerValue + integerTotal values := by
  simp [integerTotal]

theorem staysSigned_nil : StaysSigned start [] ↔ FitsSigned start := by
  simp [StaysSigned, integerTotal]

theorem staysSigned_cons : StaysSigned start (v :: values) ↔
    FitsSigned start ∧ StaysSigned (start + v.integerValue) values := by
  constructor
  · intro h
    refine ⟨by simpa [integerTotal] using h [] List.nil_prefix, fun before hbefore => ?_⟩
    have hmore := h (v :: before) ((List.prefix_cons_inj v).2 hbefore)
    rwa [integerTotal_cons, ← Int.add_assoc] at hmore
  · rintro ⟨hstart, hrest⟩ before hbefore
    rcases List.prefix_cons_iff.1 hbefore with rfl | ⟨others, rfl, hothers⟩
    · simpa [integerTotal] using hstart
    · rw [integerTotal_cons, ← Int.add_assoc]
      exact hrest others hothers

/-! ## Totals in any order -/

theorem integerTotal_eq (values : List Json) :
    integerTotal values = gains values + losses values := by
  induction values with
  | nil => rfl
  | cons v values ih =>
    simp only [integerTotal, gains, losses, List.map_cons, List.sum_cons] at ih ⊢
    omega

theorem gains_nonneg (values : List Json) : 0 ≤ gains values :=
  List.sum_nonneg (by simp)

theorem losses_nonpos (values : List Json) : losses values ≤ 0 := by
  induction values with
  | nil => exact Int.le_refl 0
  | cons v values ih =>
    simp only [losses, List.map_cons, List.sum_cons] at ih ⊢
    omega

theorem gains_append (before after : List Json) :
    gains (before ++ after) = gains before + gains after := by
  simp [gains]

theorem losses_append (before after : List Json) :
    losses (before ++ after) = losses before + losses after := by
  simp [losses]

/-- Every total on the way lies between the total of the losses and that of the gains. -/
theorem staysSigned_of_fits (hgains : FitsSigned (gains values))
    (hlosses : FitsSigned (losses values)) : StaysSigned 0 values := by
  rintro before ⟨after, rfl⟩
  have htotal := integerTotal_eq before
  rw [gains_append] at hgains
  rw [losses_append] at hlosses
  have hgained := gains_nonneg before
  have hmore := gains_nonneg after
  have hlost := losses_nonpos before
  have hless := losses_nonpos after
  simp only [FitsSigned, Text.signedLimit] at hgains hlosses ⊢
  omega

theorem integerTotal_filter_pos (values : List Json) :
    integerTotal (values.filter fun v => 0 < v.integerValue) = gains values := by
  induction values with
  | nil => rfl
  | cons v values ih =>
    simp only [integerTotal, gains, List.filter_cons, List.map_cons, List.sum_cons] at ih ⊢
    by_cases h : 0 < v.integerValue
    · rw [if_pos (by simpa using h), List.map_cons, List.sum_cons]
      omega
    · rw [if_neg (by simpa using h)]
      omega

theorem integerTotal_filter_neg (values : List Json) :
    integerTotal (values.filter fun v => v.integerValue < 0) = losses values := by
  induction values with
  | nil => rfl
  | cons v values ih =>
    simp only [integerTotal, losses, List.filter_cons, List.map_cons, List.sum_cons] at ih ⊢
    by_cases h : v.integerValue < 0
    · rw [if_pos (by simpa using h), List.map_cons, List.sum_cons]
      omega
    · rw [if_neg (by simpa using h)]
      omega

/-- The values that pass a test may come first. -/
theorem fits_of_forall_perm (h : ∀ order, order.Perm values → StaysSigned 0 order)
    (p : Json → Bool) : FitsSigned (integerTotal (values.filter p)) := by
  have hfirst := h _ (List.filter_append_perm p values) _ (List.prefix_append _ _)
  rwa [Int.zero_add] at hfirst

theorem forall_perm_staysSigned_iff (values : List Json) :
    (∀ order, order.Perm values → StaysSigned 0 order) ↔
      FitsSigned (gains values) ∧ FitsSigned (losses values) := by
  constructor
  · intro h
    rw [← integerTotal_filter_pos, ← integerTotal_filter_neg]
    exact ⟨fits_of_forall_perm h _, fits_of_forall_perm h _⟩
  · rintro ⟨hgains, hlosses⟩ order horder
    refine staysSigned_of_fits ?_ ?_
    · rwa [gains, (horder.map _).sum_eq]
    · rwa [losses, (horder.map _).sum_eq]

end Json

/-! ## The accumulator of sums -/

namespace Accumulator

open Json (FitsSigned StaysSigned integerTotal)

/-- The exact total with one more value. -/
def addToExact (total : Option Int) : Json → Option Int
  | .number n => addExact total n
  | _ => total

def addToDouble (total : Binary64) : Json → Binary64
  | .number n => total + .finite n.toDouble
  | _ => total

/-- The total of some values as doubles, added up in their order. -/
def doubleTotal (values : List Json) : Binary64 :=
  values.foldl addToDouble (.finite (Binary64.Finite.zero false))

variable {values : List Json} {v : Json} {start : Int}

theorem add_sum (exact : Option Int) (total : Binary64) (v : Json) :
    (sum exact total).add v = sum (addToExact exact v) (addToDouble total v) := by
  cases v <;> rfl

/-- The exact total and the one of doubles do not depend on each other. -/
theorem addAll_sum (exact : Option Int) (total : Binary64) (values : List Json) :
    (sum exact total).addAll values =
      sum (values.foldl addToExact exact) (values.foldl addToDouble total) := by
  induction values generalizing exact total with
  | nil => rfl
  | cons v values ih =>
    rw [addAll, List.foldl_cons, add_sum]
    exact ih _ _

theorem foldl_addToExact_none (values : List Json) : values.foldl addToExact none = none := by
  induction values with
  | nil => rfl
  | cons v values ih => cases v <;> exact ih

theorem addToExact_some (hv : v.isIntegral = true) (hstart : FitsSigned start) :
    addToExact (some start) v =
      if FitsSigned (start + v.integerValue) then some (start + v.integerValue) else none := by
  cases v with
  | number n =>
    obtain ⟨i, hi⟩ := Option.isSome_iff_exists.1 hv
    simp only [addToExact, addExact, checkedAdd, Json.integerValue, hi, Option.getD_some]
    rfl
  | null | bool _ | string _ | array _ | object _ =>
    simp [addToExact, Json.integerValue, hstart]

/-- The exact total is kept as long as it is a signed integer, and never taken up again. -/
theorem foldl_addToExact (hvalues : ∀ v ∈ values, v.isIntegral = true) (hstart : FitsSigned start) :
    (StaysSigned start values →
      values.foldl addToExact (some start) = some (start + integerTotal values)) ∧
    (¬ StaysSigned start values → values.foldl addToExact (some start) = none) := by
  induction values generalizing start with
  | nil => simp [Json.staysSigned_nil, hstart, integerTotal]
  | cons v values ih =>
    obtain ⟨hv, hrest⟩ := List.forall_mem_cons.1 hvalues
    rw [Json.staysSigned_cons, List.foldl_cons, addToExact_some hv hstart, Json.integerTotal_cons,
      ← Int.add_assoc]
    by_cases hnext : FitsSigned (start + v.integerValue)
    · simpa [hnext, hstart] using ih hrest hnext
    · rw [if_neg hnext, foldl_addToExact_none]
      refine ⟨fun h => ?_, fun _ => rfl⟩
      have hhead : ¬ FitsSigned (start + v.integerValue + integerTotal []) := by
        simpa [integerTotal] using hnext
      exact absurd (h.2 [] List.nil_prefix) hhead

end Accumulator

namespace Aggregate

open Json (FitsSigned StaysSigned integerTotal gains losses)
open Accumulator (doubleTotal)

variable {values : List Json}

theorem fitsSigned_zero : FitsSigned 0 := by decide

theorem sum_of_staysSigned (hvalues : ∀ v ∈ values, v.isIntegral = true)
    (h : StaysSigned 0 values) :
    Aggregate.sum.of values = Json.ofInt (integerTotal values) := by
  have hexact := (Accumulator.foldl_addToExact hvalues fitsSigned_zero).1 h
  rw [of, start, Accumulator.addAll_sum, hexact, Int.zero_add, Accumulator.result]

theorem sum_of_not_staysSigned (hvalues : ∀ v ∈ values, v.isIntegral = true)
    (h : ¬ StaysSigned 0 values) :
    Aggregate.sum.of values = Json.ofFloat (doubleTotal values) := by
  have hexact := (Accumulator.foldl_addToExact hvalues fitsSigned_zero).2 h
  rw [of, start, Accumulator.addAll_sum, hexact, Accumulator.result, doubleTotal]

/-- A computed double is written as a double also if it is an integer. -/
theorem ofFloat_ne_ofInt {n : Int} (h : FitsSigned n) (x : Binary64) :
    Json.ofFloat x ≠ Json.ofInt n := by
  have hrange : Json.InRange n := by
    simp only [FitsSigned, Json.InRange, Text.signedLimit, Text.unsignedLimit] at h ⊢
    omega
  cases x <;> simp [Json.ofFloat, Json.ofInt, Json.Number.ofInt, hrange]

/-- The sum of values whose numbers are signed 64-bit integers, with such a total: in an order of
the values it is this total exactly if every total on the way is a signed 64-bit integer, and
otherwise the total of the doubles. It is the exact total in every order exactly if the positive
integers have a total in range, and the negative ones too. -/
theorem sum_of_integers (hvalues : ∀ v ∈ values, v.isIntegral = true)
    (htotal : FitsSigned (integerTotal values)) :
    (∀ order, order.Perm values →
      (Aggregate.sum.of order = Json.ofInt (integerTotal values) ↔ StaysSigned 0 order) ∧
      (¬ StaysSigned 0 order → Aggregate.sum.of order = Json.ofFloat (doubleTotal order))) ∧
    ((∀ order, order.Perm values → Aggregate.sum.of order = Json.ofInt (integerTotal values)) ↔
      FitsSigned (gains values) ∧ FitsSigned (losses values)) := by
  have heach : ∀ order, order.Perm values →
      (Aggregate.sum.of order = Json.ofInt (integerTotal values) ↔ StaysSigned 0 order) ∧
      (¬ StaysSigned 0 order → Aggregate.sum.of order = Json.ofFloat (doubleTotal order)) := by
    intro order horder
    have hsame : integerTotal order = integerTotal values := (horder.map _).sum_eq
    have hintegral : ∀ v ∈ order, v.isIntegral = true :=
      fun v hv => hvalues v (horder.mem_iff.1 hv)
    refine ⟨⟨fun hsum => ?_, fun h => hsame ▸ sum_of_staysSigned hintegral h⟩,
      sum_of_not_staysSigned hintegral⟩
    by_contra h
    rw [sum_of_not_staysSigned hintegral h] at hsum
    exact ofFloat_ne_ofInt htotal _ hsum
  refine ⟨heach, ?_⟩
  rw [← Json.forall_perm_staysSigned_iff]
  exact forall_congr' fun order => imp_congr_right fun horder => (heach order horder).1

/-- Three integers among other values. Their total is kept if the last two cancel each other first,
and lost if the larger two come first. -/
theorem sum_of_integers_cancelling :
    let largest := Json.ofInt 9223372036854775807
    let values := [Json.ofInt 1, .string "7", Json.ofInt (-1), .null, largest]
    let kept := [largest, Json.ofInt (-1), .null, Json.ofInt 1, .string "7"]
    let lost := [largest, Json.ofInt 1, Json.ofInt (-1), .string "7", .null]
    Aggregate.sum.of kept = largest ∧ Aggregate.sum.of lost = Json.ofFloat (doubleTotal lost) ∧
      ¬ (FitsSigned (gains values) ∧ FitsSigned (losses values)) := by
  intro largest values kept lost
  have hvalues : ∀ v ∈ values, v.isIntegral = true := by decide
  have htotal : FitsSigned (integerTotal values) := by decide
  obtain ⟨heach, hall⟩ := sum_of_integers hvalues htotal
  have hlost : ¬ StaysSigned 0 lost := by
    intro h
    have hfirst := h [largest, Json.ofInt 1] ⟨[Json.ofInt (-1), .string "7", .null], rfl⟩
    revert hfirst
    decide
  have hkept : StaysSigned 0 kept := by
    simp only [kept, Json.staysSigned_cons, Json.staysSigned_nil]
    decide
  have hperm : lost.Perm values := by decide +kernel
  refine ⟨(heach kept (by decide +kernel)).1.2 hkept, (heach lost hperm).2 hlost, ?_⟩
  rw [← hall]
  exact fun h => hlost ((heach lost hperm).1.1 (h lost hperm))

/-- The largest signed integer, one more and one less: the total is the largest integer again, but
the sum is the next double. -/
theorem sum_loses_exact_total :
    let values := [Json.ofInt 9223372036854775807, Json.ofInt 1, Json.ofInt (-1)]
    (∀ v ∈ values, v.isIntegral = true) ∧ FitsSigned (integerTotal values) ∧
      Aggregate.sum.of values =
        .number (.float (Binary64.Finite.nearestInt 9223372036854775808)) ∧
      Aggregate.sum.of values ≠ Json.ofInt (integerTotal values) := by
  decide +kernel

end Aggregate
end DocAnalytics
