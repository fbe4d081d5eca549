/-!
# DocAnalytics.Unicode.CaseRun

Case tables as runs of code points: a run lists equally spaced code points that all move by the
same distance. `CaseRun.map?` is the partial map of one run, `CaseRun.mapAll` that of a table, and
`CaseRun.pairs` lists a run.
-/

namespace DocAnalytics
namespace Unicode

/-- Code points `first, first + step, …` (`count` of them), each mapped `delta` further. -/
structure CaseRun where
  first : Nat
  count : Nat
  step : Nat
  delta : Int
deriving DecidableEq, Repr

namespace CaseRun

/-- Whether the run lists the code point `n`. -/
def covers (r : CaseRun) (n : Nat) : Bool :=
  r.first ≤ n && n < r.first + r.count * r.step && (n - r.first) % r.step == 0

/-- The image of a code point that the run lists. -/
def map? (r : CaseRun) (n : Nat) : Option Nat :=
  if r.covers n then some ((n : Int) + r.delta).toNat else none

def mapAll (runs : List CaseRun) (n : Nat) : Nat :=
  (runs.findSome? (·.map? n)).getD n

/-- Every code point that the run sends to `n` (there is at most one). -/
def preimage (r : CaseRun) (n : Nat) : List Nat :=
  let source := ((n : Int) - r.delta).toNat
  if r.map? source == some n then [source] else []

/-- The code points that a run lists, each with its image. -/
def pairs (r : CaseRun) : List (Nat × Nat) :=
  (List.range r.count).map fun k =>
    (r.first + k * r.step, (((r.first + k * r.step : Nat) : Int) + r.delta).toNat)

end CaseRun

end Unicode
end DocAnalytics
