import DocAnalytics.Pipeline.Run
import DocAnalytics.Plan.Basic

/-!
# DocAnalytics.Plan.Compile

The pipeline of a plan: the filter, the stages of the operation, the limit.
-/

namespace DocAnalytics

namespace Operation

def stages : Operation → List Stage
  | .groupByCount field =>
    [.group ⟨some field, .count, none, "count", false⟩, .sort "count" true]
  | .aggregate op field => [.group ⟨none, op.function, some field, "value", false⟩]
  | .count => [.count "total"]
  | .filterOnly _ => []

end Operation

namespace Plan

def filterStages : Option Json → List Stage
  | none => []
  | some filter => [.select (.filter filter)]

def limitStages : Option Nat → List Stage
  | none => []
  | some n => [.limit n]

def compile (p : Plan) : List Stage :=
  filterStages p.filter ++ p.operation.stages ++ limitStages p.limit

end Plan
end DocAnalytics
