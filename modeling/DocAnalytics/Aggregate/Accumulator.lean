import DocAnalytics.Aggregate.Function
import DocAnalytics.Value.Numeric
import DocAnalytics.Value.Order

/-!
# DocAnalytics.Aggregate.Accumulator

Aggregates computed value by value. `Aggregate.start` is the accumulator before any value,
`Accumulator.add` takes in one more value, and `Accumulator.result` reads the aggregate off.
-/

namespace DocAnalytics

/-- The state of an aggregate over the values so far. -/
inductive Accumulator where
  /-- How many values there were. -/
  | count (n : Nat)
  /-- The exact total, while all numbers are signed 64-bit integers and so are all totals; beside it
  the total of the numbers as doubles. -/
  | sum (exact : Option Int) (total : Binary64)
  /-- The total of the numbers and how many there were. -/
  | avg (total : Binary64) (n : Nat)
  /-- The first value but null that no later one undercuts, in the sense of `keep`. -/
  | extreme (keep : Ordering) (best : Option Json)
deriving Repr

def Aggregate.start : Aggregate → Accumulator
  | .count => .count 0
  | .sum => .sum (some 0) (.finite (Binary64.Finite.zero false))
  | .avg => .avg (.finite (Binary64.Finite.zero false)) 0
  | .min => .extreme .lt none
  | .max => .extreme .gt none

namespace Accumulator

/-- The sum of two integers, if it is a signed 64-bit integer. -/
def checkedAdd (a b : Int) : Option Int :=
  let s := a + b
  if -Text.signedLimit ≤ s ∧ s < Text.signedLimit then some s else none

def addExact (total : Option Int) (n : Json.Number) : Option Int :=
  match total, n.toSigned? with
  | some t, some i => checkedAdd t i
  | _, _ => none

/-- Whether a value takes the place of the best so far. -/
def replaces (keep : Ordering) (value : Json) : Option Json → Bool
  | none => true
  | some best => value.compare best == keep

def add : Accumulator → Json → Accumulator
  | .count n, _ => .count (n + 1)
  | .sum exact total, .number n => .sum (addExact exact n) (total + .finite n.toDouble)
  | .sum exact total, _ => .sum exact total
  | .avg total seen, .number n => .avg (total + .finite n.toDouble) (seen + 1)
  | .avg total seen, _ => .avg total seen
  | .extreme keep best, .null => .extreme keep best
  | .extreme keep best, value =>
    .extreme keep (if replaces keep value best then some value else best)

def result : Accumulator → Json
  | .count n => Json.ofNat n
  | .sum (some exact) _ => Json.ofInt exact
  | .sum none total => Json.ofFloat total
  | .avg total n => if n = 0 then .null else Json.ofFloat (total / Binary64.ofNat n)
  | .extreme _ best => best.getD .null

def addAll (acc : Accumulator) (values : List Json) : Accumulator := values.foldl add acc

end Accumulator

def Aggregate.of (f : Aggregate) (values : List Json) : Json := (f.start.addAll values).result

end DocAnalytics
