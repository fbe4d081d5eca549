import DocAnalytics.Binary64.Arithmetic
import DocAnalytics.Text.Integer

/-!
# DocAnalytics.Json.Number

Numbers of documents. A number is either an integer of 64 bits (signed or unsigned) or a finite
double; the two kinds stay apart, so `1` and `1.0` are different numbers of equal value.
-/

namespace DocAnalytics
namespace Json

/-- The integers that are kept exactly. -/
def InRange (n : Int) : Prop := -Text.signedLimit ≤ n ∧ n < Text.unsignedLimit

instance (n : Int) : Decidable (InRange n) := inferInstanceAs (Decidable (_ ∧ _))

inductive Number where
  | integer (n : Int) (inRange : InRange n)
  | float (x : Binary64.Finite)
deriving DecidableEq, Repr

namespace Number

open Binary64 (Finite)

/-- An integer; outside the 64-bit range, the double nearest to it. -/
def ofInt (n : Int) : Number :=
  if h : InRange n then .integer n h else .float (Finite.nearestInt n)

def ofNat (n : Nat) : Number := ofInt n

instance : Inhabited Number := ⟨ofInt 0⟩

def toDouble : Number → Finite
  | .integer n _ => Finite.nearestInt n
  | .float x => x

/-- The number as a signed 64-bit integer. Doubles have none, also those of integer value. -/
def toSigned? : Number → Option Int
  | .integer n _ => if n < Text.signedLimit then some n else none
  | .float _ => none

def toUnsigned? : Number → Option Nat
  | .integer n _ => if 0 ≤ n then some n.toNat else none
  | .float _ => none

/-- Equality of numbers of one kind: integers as integers, doubles by value. An integer and a double
are never the same. -/
def same : Number → Number → Bool
  | .integer m _, .integer n _ => m == n
  | .float x, .float y => x.sameValue y
  | _, _ => false

/-- Comparison by value: exact between signed integers, otherwise between the nearest doubles. -/
def compare (a b : Number) : Ordering :=
  match a.toSigned?, b.toSigned? with
  | some m, some n => Ord.compare m n
  | _, _ => a.toDouble.compare b.toDouble

end Number
end Json
end DocAnalytics
