/-!
# DocAnalytics.Binary64.Basic

Double-precision numbers as exact data.

The non-negative finite doubles, in ascending order, are numbered from zero: that number is the
`rank` of a double. All of them are whole multiples of the smallest positive one, the *unit*
`2^-1074`, and `units` gives the multiple. So

* the order of doubles is the order of their ranks (`Finite.key`),
* their value is a natural number of units and a sign (`Finite.toUnits`),
* rounding is finding the rank whose value is nearest (`nearestRank`), the even one of two.
-/

namespace DocAnalytics
namespace Binary64

/-- How many units the number one is worth. -/
def unitsPerOne : Nat := Nat.pow 2 1074

/-- How many ranks there are of one spacing, `2^52`; the first spacing has twice as many. -/
def binade : Nat := 4503599627370496

/-- The rank that infinity would have: the first one that no finite double has. -/
def infinityRank : Nat := 2047 * binade

/-- The value of the double with a given rank, in units. The ranks of the first two binades are
spaced by one unit; from there on the spacing doubles with every binade. -/
def units (rank : Nat) : Nat :=
  if rank < 2 * binade then rank
  else (binade + rank % binade) * Nat.pow 2 (rank / binade - 1)

/-- The integer nearest to `num / den`, the even one of two. -/
def roundHalfEven (num den : Nat) : Nat :=
  let quotient := num / den
  let rest := num % den
  if 2 * rest < den then quotient
  else if den < 2 * rest then quotient + 1
  else quotient + quotient % 2

/-- The rank whose value is nearest to `num / den` units, the even one of two. Values past the last
finite double get `infinityRank` or more. -/
def nearestRank (num den : Nat) : Nat :=
  let shift := Nat.log2 (num / den) - 52
  shift * binade + roundHalfEven num (den * Nat.pow 2 shift)

/-- A finite double: a sign, and the rank of its absolute value. Zero has two signs. -/
structure Finite where
  negative : Bool
  rank : Nat
  rank_lt : rank < infinityRank
deriving DecidableEq, Repr

namespace Finite

/-- The position of a double in the order of doubles; both zeros stand at zero. -/
def key (x : Finite) : Int := if x.negative then -(x.rank : Int) else x.rank

def toUnits (x : Finite) : Int := if x.negative then -(units x.rank : Int) else units x.rank

def compare (x y : Finite) : Ordering := Ord.compare x.key y.key

/-- Equality by value: the two zeros are equal. -/
def sameValue (x y : Finite) : Bool := x.key == y.key

def isZero (x : Finite) : Bool := x.rank == 0

def zero (negative : Bool) : Finite := ⟨negative, 0, by decide⟩

instance : Inhabited Finite := ⟨zero false⟩

def isInteger (x : Finite) : Bool := units x.rank % unitsPerOne == 0

/-- The value without its fractional part. -/
def truncate (x : Finite) : Int :=
  let whole : Int := (units x.rank / unitsPerOne : Nat)
  if x.negative then -whole else whole

/-- The finite double nearest to an integer, the one of even rank of two. -/
def nearestInt (n : Int) : Finite :=
  let rank := nearestRank (n.natAbs * unitsPerOne) 1
  if h : rank < infinityRank then ⟨decide (n < 0), rank, h⟩
  else ⟨decide (n < 0), infinityRank - 1, by decide⟩

end Finite
end Binary64

inductive Binary64 where
  | finite (x : Binary64.Finite)
  | infinite (negative : Bool)
  | nan
deriving DecidableEq, Repr

namespace Binary64

instance : Inhabited Binary64 := ⟨.nan⟩

/-- The double with a sign and a rank; a rank beyond the finite ones overflows to infinity. -/
def ofRank (negative : Bool) (rank : Nat) : Binary64 :=
  if h : rank < infinityRank then .finite ⟨negative, rank, h⟩ else .infinite negative

/-- The double nearest to `num / den`; `den` is not zero. -/
def ofRatio (negative : Bool) (num den : Nat) : Binary64 :=
  ofRank negative (nearestRank (num * unitsPerOne) den)

def ofNat (n : Nat) : Binary64 := ofRatio false n 1

def finite? : Binary64 → Option Finite
  | .finite x => some x
  | _ => none

def withSign (negative : Bool) : Binary64 → Binary64
  | .finite x => .finite { x with negative := negative }
  | .infinite _ => .infinite negative
  | .nan => .nan

end Binary64
end DocAnalytics
