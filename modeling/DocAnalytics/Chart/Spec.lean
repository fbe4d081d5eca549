import DocAnalytics.Aggregate.Expression
import DocAnalytics.Json.Printer
import DocAnalytics.Text.Integer
import DocAnalytics.Text.Split

/-!
# DocAnalytics.Chart.Spec

Chart specifications. The configuration of a chart is a loose object whose required keys depend on
the kind of chart; `ChartSpec.ofConfig` makes a specification of it or says what is wrong.
-/

namespace DocAnalytics

inductive ChartKind where
  | bar
  | pie
  | line
  | geo
  | scatter
  | histogram
deriving DecidableEq, Repr

namespace ChartKind

def name : ChartKind → String
  | .bar => "bar_chart"
  | .pie => "pie_chart"
  | .line => "line_chart"
  | .geo => "geo_map"
  | .scatter => "scatter_plot"
  | .histogram => "histogram"

def ofName? (name : String) : Option ChartKind :=
  match name with
  | "bar_chart" => some .bar
  | "pie_chart" => some .pie
  | "line_chart" => some .line
  | "geo_map" => some .geo
  | "scatter_plot" => some .scatter
  | "histogram" => some .histogram
  | _ => none

/-- The kind of chart that a text names, blanks around it and letter case left aside. -/
def ofText? (text : String) : Option ChartKind := ofName? (Unicode.lowercase (Text.trim text))

/-- The keys of a chart's two settings. -/
def keys : ChartKind → String × String
  | .bar | .line | .scatter => ("x_axis", "y_axis")
  | .pie => ("category", "value")
  | .geo => ("location_field", "value_field")
  | .histogram => ("field", "bins")

end ChartKind

inductive ChartSpec where
  /-- A bar, pie, line or geo chart: one aggregate for each value of the group key. -/
  | grouped (kind : ChartKind) (groupKey : String) (value : Expression)
  | scatter (x y : String)
  | histogram (field : String) (bins : Nat)
deriving DecidableEq, Repr

/-- Why a configuration is no chart. -/
inductive ChartError where
  | unsupportedChart (chartType : String)
  | incompleteConfig (kind : ChartKind) (missing : List String)
  | invalidExpression (e : ExpressionError)
  | invalidBins (value : Json)
deriving DecidableEq

def ChartError.message : ChartError → String
  | .unsupportedChart chartType => "Unsupported chart type: '" ++ chartType ++ "'"
  | .incompleteConfig kind missing =>
    "Chart '" ++ kind.name ++ "' is missing required config keys: " ++ Text.join ", " missing
  | .invalidExpression e => e.message
  | .invalidBins value =>
    "Histogram bins must be a positive integer, got '" ++ value.compact ++ "'"

namespace ChartSpec

/-- How many buckets a histogram has unless it says so. -/
def defaultBins : Nat := 10

def kind : ChartSpec → ChartKind
  | .grouped kind _ _ => kind
  | .scatter _ _ => .scatter
  | .histogram _ _ => .histogram

/-- A text setting without the blanks around it; a blank one is missing. -/
def setting? (config : Document) (key : String) : Option String :=
  match config.get? key with
  | some (.string s) => Text.nonBlank? s
  | _ => none

/-- A number of buckets, at least one, from a signed 64-bit integer. -/
def binsOfInt? (n : Int) : Option Nat := if 1 ≤ n then some n.toNat else none

/-- The number of buckets of a histogram: an integer, or a text that reads as one. -/
def binsOf : Option Json → Except ChartError Nat
  | none => .ok defaultBins
  | some .null => .ok defaultBins
  | some value =>
    let n? : Option Int :=
      match value with
      | .number n => n.toSigned?
      | .string s => Text.signed? (Text.trimChars s.toList)
      | _ => none
    match n?.bind binsOfInt? with
    | some bins => .ok bins
    | none => .error (.invalidBins value)

def histogramOf (config : Document) : Except ChartError ChartSpec :=
  match setting? config ChartKind.histogram.keys.1 with
  | none => .error (.incompleteConfig .histogram [ChartKind.histogram.keys.1])
  | some field =>
    match binsOf (config.get? ChartKind.histogram.keys.2) with
    | .error e => .error e
    | .ok bins => .ok (.histogram field bins)

/-- The two text settings of a chart, both of which it must have. -/
def settingsOf (kind : ChartKind) (config : Document) : Except ChartError (String × String) :=
  let (firstKey, secondKey) := kind.keys
  match setting? config firstKey, setting? config secondKey with
  | some first, some second => .ok (first, second)
  | none, some _ => .error (.incompleteConfig kind [firstKey])
  | some _, none => .error (.incompleteConfig kind [secondKey])
  | none, none => .error (.incompleteConfig kind [firstKey, secondKey])

def ofKind (kind : ChartKind) (config : Document) : Except ChartError ChartSpec :=
  match kind with
  | .histogram => histogramOf config
  | .scatter =>
    match settingsOf kind config with
    | .error e => .error e
    | .ok (x, y) => .ok (.scatter x y)
  | _ =>
    match settingsOf kind config with
    | .error e => .error e
    | .ok (groupKey, expression) =>
      match Expression.ofText expression with
      | .error e => .error (.invalidExpression e)
      | .ok value => .ok (.grouped kind groupKey value)

/-- The specification of a chart from the text of its kind and its configuration. -/
def ofConfig (chartType : String) (config : Document) : Except ChartError ChartSpec :=
  match ChartKind.ofText? chartType with
  | none => .error (.unsupportedChart chartType)
  | some kind => ofKind kind config

end ChartSpec
end DocAnalytics
