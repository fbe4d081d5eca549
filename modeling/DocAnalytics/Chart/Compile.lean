import DocAnalytics.Chart.Spec
import DocAnalytics.Pipeline.Run

/-!
# DocAnalytics.Chart.Compile

The pipelines of charts.
-/

namespace DocAnalytics
namespace ChartSpec

/-- How many points a scatter plot has at most. -/
def maxPoints : Nat := 10000

/-- The field that holds the numbers of a histogram. -/
def histogramField : String := "numeric_value"

/-- How many decimal places the bounds of buckets keep. -/
def boundPlaces : Nat := 2

/-- One aggregate for each value of the key, the largest first. -/
def groupedStages (key : String) (value : Expression) : List Stage :=
  [Stage.nonEmpty [key]] ++
  (match value.source with
    | none => []
    | some source => [Stage.present [source]]) ++
  [.group ⟨some key, value.function, value.source, "value", true⟩,
    .project [.copy key "_id", .copy "value" "value"],
    .sort "value" true]

/-- Buckets of nearly equal counts over a field of numbers or of texts that begin with one. -/
def histogramStages (field : String) (bins : Nat) : List Stage :=
  [Stage.nonEmpty [field],
    .addNumeric ⟨field, histogramField, .leadingToken⟩,
    Stage.present [histogramField],
    .bucketAuto histogramField bins,
    .project [
      ⟨"range", .rangeLabel "_id.min" "_id.max" boundPlaces⟩,
      .round "min" "_id.min" boundPlaces,
      .round "max" "_id.max" boundPlaces,
      .copy "count" "count",
      .copy "value" "count"]]

/-- The field that holds the numbers of an axis. -/
def axisField (field : String) : String := field ++ "_numeric"

/-- The pairs of numbers of two fields. -/
def scatterStages (x y : String) : List Stage :=
  [Stage.nonEmpty [x, y],
    .addNumeric ⟨x, axisField x, .compact⟩,
    .addNumeric ⟨y, axisField y, .compact⟩,
    Stage.present [axisField x, axisField y],
    .project [.copy x (axisField x), .copy y (axisField y)],
    .limit maxPoints]

def compile : ChartSpec → List Stage
  | .grouped _ key value => groupedStages key value
  | .scatter x y => scatterStages x y
  | .histogram field bins => histogramStages field bins

end ChartSpec
end DocAnalytics
