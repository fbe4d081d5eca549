import DocAnalytics.Binary64.Basic

/-!
# DocAnalytics.Binary64.Arithmetic

Sum, product, quotient, integer powers and rounding to an integer. Each operation computes its exact
result in units and rounds once; sums of finite doubles are exact in units before that.
-/

namespace DocAnalytics
namespace Binary64

/-- The double nearest to a number of units. An exact zero takes the sign `zeroSign`. -/
def ofUnits (zeroSign : Bool) (n : Int) : Binary64 :=
  if n = 0 then .finite (Finite.zero zeroSign)
  else ofRank (decide (n < 0)) (nearestRank n.natAbs 1)

/-- Sum. Opposite values add up to positive zero. -/
def add : Binary64 → Binary64 → Binary64
  | .nan, _ => .nan
  | _, .nan => .nan
  | .infinite a, .infinite b => if a = b then .infinite a else .nan
  | .infinite a, .finite _ => .infinite a
  | .finite _, .infinite b => .infinite b
  | .finite x, .finite y => ofUnits (x.negative && y.negative) (x.toUnits + y.toUnits)

def mul : Binary64 → Binary64 → Binary64
  | .nan, _ => .nan
  | _, .nan => .nan
  | .infinite a, .infinite b => .infinite (a != b)
  | .infinite a, .finite y => if y.isZero then .nan else .infinite (a != y.negative)
  | .finite x, .infinite b => if x.isZero then .nan else .infinite (x.negative != b)
  | .finite x, .finite y =>
    ofRank (x.negative != y.negative) (nearestRank (units x.rank * units y.rank) unitsPerOne)

/-- Quotient. A non-zero value divided by zero is infinite; zero by zero is not a number. -/
def div : Binary64 → Binary64 → Binary64
  | .nan, _ => .nan
  | _, .nan => .nan
  | .infinite _, .infinite _ => .nan
  | .infinite a, .finite y => .infinite (a != y.negative)
  | .finite x, .infinite b => .finite (Finite.zero (x.negative != b))
  | .finite x, .finite y =>
    if y.isZero then (if x.isZero then .nan else .infinite (x.negative != y.negative))
    else
      ofRank (x.negative != y.negative) (nearestRank (units x.rank * unitsPerOne) (units y.rank))

instance : Add Binary64 := ⟨add⟩
instance : Mul Binary64 := ⟨mul⟩
instance : Div Binary64 := ⟨div⟩

def one : Binary64 := ofNat 1

/-- Rounds to the nearest integer, a half away from zero. The sign stays, also of a zero. -/
def roundHalfAway : Binary64 → Binary64
  | .finite x =>
    ofRatio x.negative ((2 * units x.rank + unitsPerOne) / (2 * unitsPerOne)) 1
  | x => x

/-- `acc * base ^ n` by squaring, rounded after each product. -/
def powAcc (acc base : Binary64) (n : Nat) : Binary64 :=
  let acc := if n % 2 = 1 then acc * base else acc
  if n / 2 = 0 then acc else powAcc acc (base * base) (n / 2)
termination_by n
decreasing_by omega

/-- An integer power; a negative exponent takes the reciprocal of the positive power. -/
def pow (base : Binary64) (n : Int) : Binary64 :=
  let power := powAcc one base n.natAbs
  if n < 0 then one / power else power

end Binary64
end DocAnalytics
