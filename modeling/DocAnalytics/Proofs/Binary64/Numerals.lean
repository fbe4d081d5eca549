import DocAnalytics.Binary64.Decimal
import DocAnalytics.Proofs.Unicode.Lowercase
import DocAnalytics.Unicode.Blank

/-!
# DocAnalytics.Proofs.Binary64.Numerals

The characters of texts that read as numbers. There is at least one (`ne_nil_of_ofText?`), and all
of them lie between the plus sign and the letter `z` (`numeral_of_ofText?`), so none of them is
blank (`isBlank_of_ofText?`).
-/

namespace DocAnalytics
namespace Binary64

open Unicode (isBlank)

/-- Nothing but characters from the plus sign to the letter `z`. -/
def Numeral (cs : List Char) : Prop := ∀ c ∈ cs, '+'.toNat ≤ c.toNat ∧ c.toNat ≤ 'z'.toNat

variable {c : Char} {cs ds : List Char}

theorem Numeral.append (hcs : Numeral cs) (hds : Numeral ds) : Numeral (cs ++ ds) :=
  fun c hc => (List.mem_append.1 hc).elim (hcs c) (hds c)

theorem Numeral.cons (hc : '+'.toNat ≤ c.toNat ∧ c.toNat ≤ 'z'.toNat) (hcs : Numeral cs) :
    Numeral (c :: cs) :=
  fun _ hd => (List.mem_cons.1 hd).elim (fun heq => heq ▸ hc) (hcs _)

theorem numeral_nil : Numeral [] := fun _ hc => by cases hc

theorem numeral_of_isDigit (h : ∀ c ∈ cs, c.isDigit = true) : Numeral cs := by
  intro c hc
  have hdigit := Char.isDigit_iff_toNat.1 (h c hc)
  exact ⟨Nat.le_trans (by decide) hdigit.1, Nat.le_trans hdigit.2 (by decide)⟩

theorem numeral_takeWhile (cs : List Char) : Numeral (cs.takeWhile Char.isDigit) :=
  numeral_of_isDigit (List.all_eq_true.1 List.all_takeWhile)

theorem numeral_of_natural? {n : Nat} (h : Text.natural? cs = some n) : Numeral cs := by
  unfold Text.natural? at h
  split at h
  · cases h
  · rename_i hcs
    have hdigits : cs ≠ [] ∧ ∀ c ∈ cs, c.isDigit = true := by simpa using hcs
    exact numeral_of_isDigit hdigits.2

theorem numeral_of_map_toLower (h : (cs.map Char.toLower).all Char.isLower = true) :
    Numeral cs := by
  intro c hc
  have hlower := List.all_eq_true.1 h c.toLower (List.mem_map_of_mem hc)
  have hbounds := Unicode.bounds_of_isLower_toLower hlower
  exact ⟨Nat.le_trans (by decide) hbounds.1, hbounds.2⟩

/-! ## Parts of a number -/

theorem numeral_of_exponentOf? {e : Int} (h : exponentOf? cs = some e) : Numeral cs := by
  unfold exponentOf? at h
  split at h
  rename_i negative digits hsplit
  have hdigits : Numeral digits := by
    cases hn : Text.natural? digits with
    | none => simp [hn] at h
    | some n => exact numeral_of_natural? hn
  split at hsplit <;> cases hsplit
  · exact hdigits.cons (by decide)
  · exact hdigits.cons (by decide)
  · exact hdigits

/-- What follows the digits: nothing, or an exponent. -/
theorem numeral_of_tail {a x : Binary64} {f : Int → Binary64}
    (h : (match cs with
      | [] => some a
      | c :: more => if c = 'e' ∨ c = 'E' then (exponentOf? more).map f else none) = some x) :
    Numeral cs := by
  cases cs with
  | nil => exact numeral_nil
  | cons c more =>
    simp only at h
    split at h
    · rename_i hc
      obtain ⟨e, he, -⟩ := Option.map_eq_some_iff.1 h
      refine (numeral_of_exponentOf? he).cons ?_
      rcases hc with rfl | rfl <;> decide
    · cases h

theorem numeral_of_unsignedOf? {negative : Bool} {x : Binary64}
    (h : unsignedOf? negative cs = some x) : Numeral cs := by
  rw [← List.takeWhile_append_dropWhile (p := Char.isDigit) (l := cs)]
  refine (numeral_takeWhile cs).append ?_
  simp only [unsignedOf?] at h
  generalize cs.dropWhile Char.isDigit = rest at h ⊢
  split at h
  · -- behind the point there are digits again
    rename_i more
    split at h
    · cases h
    · have htail : Numeral (more.dropWhile Char.isDigit) := numeral_of_tail h
      rw [← List.takeWhile_append_dropWhile (p := Char.isDigit) (l := more)]
      exact ((numeral_takeWhile more).append htail).cons (by decide)
  · split at h
    · cases h
    · exact numeral_of_tail h

/-! ## Numbers -/

theorem numeral_of_ofText? {x : Binary64} (h : ofText? cs = some x) : Numeral cs := by
  unfold ofText? at h
  split at h
  rename_i negative body hsplit
  have hbody : Numeral body := by
    simp only at h
    split at h
    · rename_i hinfinite
      refine numeral_of_map_toLower ?_
      rcases hinfinite with hword | hword <;> rw [hword] <;> decide
    · split at h
      · rename_i hword
        exact numeral_of_map_toLower (by rw [hword]; decide)
      · exact numeral_of_unsignedOf? h
  split at hsplit <;> cases hsplit
  · exact hbody.cons (by decide)
  · exact hbody.cons (by decide)
  · exact hbody

theorem ne_nil_of_ofText? {x : Binary64} (h : ofText? cs = some x) : cs ≠ [] := by
  rintro rfl
  cases h

theorem isBlank_of_ofText? {x : Binary64} (h : ofText? cs = some x) :
    ∀ c ∈ cs, isBlank c = false := by
  intro c hc
  have hbounds : 43 ≤ c.toNat ∧ c.toNat ≤ 122 := numeral_of_ofText? h c hc
  simp [isBlank]
  omega

end Binary64
end DocAnalytics
