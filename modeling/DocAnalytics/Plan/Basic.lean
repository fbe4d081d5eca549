import DocAnalytics.Aggregate.Function
import DocAnalytics.Json.Basic

/-!
# DocAnalytics.Plan.Basic

Validated plans: an operation with the field that it needs, a filter and a limit.
-/

namespace DocAnalytics

/-- An aggregate of the numbers of one field. -/
inductive NumericOperation where
  | avg
  | sum
  | max
  | min
deriving DecidableEq, Repr

def NumericOperation.function : NumericOperation → Aggregate
  | .avg => .avg
  | .sum => .sum
  | .max => .max
  | .min => .min

inductive Operation where
  | groupByCount (field : String)
  | aggregate (op : NumericOperation) (field : String)
  | count
  | filterOnly (field : String)
deriving DecidableEq, Repr

namespace Operation

/-- The names of all operations, in the order in which they are reported. -/
def supported : List String :=
  ["group_by_count", "avg", "sum", "max", "min", "count", "filter_only"]

def name : Operation → String
  | .groupByCount _ => "group_by_count"
  | .aggregate op _ => op.function.name
  | .count => "count"
  | .filterOnly _ => "filter_only"

/-- The field of an operation; counting has none. -/
def field? : Operation → Option String
  | .groupByCount field => some field
  | .aggregate _ field => some field
  | .count => none
  | .filterOnly field => some field

end Operation

/-- A plan that passed validation. -/
structure Plan where
  operation : Operation
  filter : Option Json
  limit : Option Nat
deriving DecidableEq

def Plan.toJson (p : Plan) : Json :=
  Json.ofMembers [
    ("operation", .string p.operation.name),
    ("field", Json.ofString? p.operation.field?),
    ("filter", p.filter.getD .null),
    ("limit", (p.limit.map Json.ofNat).getD .null)]

end DocAnalytics
