import DocAnalytics.Json.Printer

/-!
# DocAnalytics.Value.Order

The order of values that sorting, bucketing and extremes use, and the equality that filters use.

Values of different kinds are ordered by kind: null, numbers, texts, objects, arrays, booleans.
Numbers are ordered by value, texts by code points, arrays item by item and then by length, objects
by their JSON text.
-/

namespace DocAnalytics
namespace Json

def kindRank : Json → Nat
  | .null => 0
  | .number _ => 1
  | .string _ => 2
  | .object _ => 3
  | .array _ => 4
  | .bool _ => 5

mutual

def compare : Json → Json → Ordering
  | .number a, .number b => a.compare b
  | .string a, .string b => Ord.compare a b
  | .bool a, .bool b => Ord.compare a b
  | .array a, .array b => compareItems a b
  | .object a, .object b => Ord.compare (compact (.object a)) (compact (.object b))
  | a, b => Ord.compare a.kindRank b.kindRank

/-- Comparison of arrays: the first items that differ decide, then the lengths. -/
def compareItems : List Json → List Json → Ordering
  | [], [] => .eq
  | [], _ :: _ => .lt
  | _ :: _, [] => .gt
  | a :: as, b :: bs =>
    match compare a b with
    | .eq => compareItems as bs
    | o => o

end

/-- Equality of values: numbers are equal if they compare equal, so `1` equals `1.0`; inside arrays
and objects the two kinds of numbers stay different. -/
def equal : Json → Json → Bool
  | .number a, .number b => a.compare b == .eq
  | a, b => same a b

end Json
end DocAnalytics
