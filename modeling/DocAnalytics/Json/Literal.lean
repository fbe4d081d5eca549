import DocAnalytics.Binary64.Decimal
import DocAnalytics.Json.Number

/-!
# DocAnalytics.Json.Literal

Number literals of JSON text and their values. An integer literal that fits 64 bits is an integer;
any other literal is a double, and one beyond the range of doubles has no value.

A double is read with two roundings at most: its leading digits, as many as fit an unsigned 64-bit
integer, are rounded to a double, and that is multiplied or divided by a power of ten.
-/

namespace DocAnalytics
namespace Json

open Binary64 (powerOfTen)
open Text (digitsValue)

/-- A number literal as written: its sign, its digits before and behind the point, its exponent. -/
structure Literal where
  negative : Bool
  whole : List Char
  fraction : Option (List Char)
  exponent : Option Int
deriving DecidableEq, Repr

namespace Literal

/-- Appends digits before the point while the number fits 64 bits; also counts the digits left. -/
def appendWhole (significand : Nat) : List Char → Nat × Nat
  | [] => (significand, 0)
  | c :: cs =>
    let next := digitsValue significand [c]
    if next < Text.unsignedLimit then appendWhole next cs else (significand, cs.length + 1)

/-- Appends digits behind the point while the number fits 64 bits; also counts the digits taken. -/
def appendFraction (significand : Nat) : List Char → Nat × Nat
  | [] => (significand, 0)
  | c :: cs =>
    let next := digitsValue significand [c]
    if next < Text.unsignedLimit then
      let (result, taken) := appendFraction next cs
      (result, taken + 1)
    else (significand, 0)

/-- Scales a rounded significand by a power of ten. A power below `10 ^ -308` is divided out in two
steps, and beyond two such steps nothing is left. -/
def scale (significand : Nat) (exponent : Int) : Binary64 :=
  let start := Binary64.ofNat significand
  if significand = 0 then start
  else if 308 < exponent then .infinite false
  else if 0 ≤ exponent then start * powerOfTen exponent
  else if -308 ≤ exponent then start / powerOfTen (-exponent)
  else if -616 ≤ exponent then start / powerOfTen 308 / powerOfTen (-exponent - 308)
  else .finite (Binary64.Finite.zero false)

def toDouble (l : Literal) : Binary64 :=
  let (leading, left) := appendWhole 0 l.whole
  let (significand, taken) := appendFraction leading (l.fraction.getD [])
  (scale significand ((left : Int) - taken + l.exponent.getD 0)).withSign l.negative

/-- The value of a literal. A negative zero is a double, for integers have none. -/
def number? (l : Literal) : Option Number :=
  let magnitude : Int := digitsValue 0 l.whole
  let n := if l.negative then -magnitude else magnitude
  if h : l.fraction = none ∧ l.exponent = none ∧ ¬(l.negative ∧ magnitude = 0) ∧ InRange n then
    some (.integer n h.2.2.2)
  else l.toDouble.finite?.map .float

end Literal
end Json
end DocAnalytics
