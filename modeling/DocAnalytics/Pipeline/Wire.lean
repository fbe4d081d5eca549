import DocAnalytics.Pipeline.Stage

/-!
# DocAnalytics.Pipeline.Wire

Pipelines in the aggregation syntax of document stores: each stage is an object with one key that
begins with a dollar sign, and a text that begins with one refers to a field.
-/

namespace DocAnalytics
namespace Wire

def single (key : String) (value : Json) : Json := .object [(key, value)]

/-- A reference to a field. -/
def ref (field : String) : Json := .string ("$" ++ field)

/-- The types of values that count as numbers. -/
def numericTypes : Json := Json.ofStrings ["int", "double", "long", "decimal"]

/-- The value of a field, if it is of a numeric type, and otherwise another value. -/
def numberOr (source : Json) (otherwise : Json) : Json :=
  single "$cond" (Json.ofMembers [
    ("if", single "$in" (.array [single "$type" source, numericTypes])),
    ("then", source),
    ("else", otherwise)])

/-- A text in which one piece is replaced by another wherever it occurs. -/
def replaceAll (input : Json) (find replacement : String) : Json :=
  single "$replaceAll" (Json.ofMembers [
    ("input", input), ("find", .string find), ("replacement", .string replacement)])

/-- The text of a field without commas. -/
def withoutCommas (source : Json) : Json := replaceAll (single "$toString" source) "," ""

def trimmed (input : Json) : Json := single "$trim" (single "input" input)

/-- A conversion to a double, with a value for what cannot be converted. -/
def toDouble (input fallback : Json) : Json :=
  single "$convert" (Json.ofMembers [
    ("input", input), ("to", .string "double"), ("onError", fallback), ("onNull", fallback)])

/-- The text that is read as a number. -/
def coercedText (source : Json) : Coercion → Json
  | .leadingToken =>
    trimmed (single "$arrayElemAt" (.array [
      single "$split" (.array [withoutCommas source, .string " "]), Json.ofNat 0]))
  | .compact => trimmed (replaceAll (withoutCommas source) " " "")
  | .trimmed => trimmed (withoutCommas source)

/-- The condition that a field is there and not null, and no empty text if those are rejected. -/
def presence (rejectEmpty : Bool) : Json :=
  Json.ofMembers [
    ("$exists", .bool true),
    if rejectEmpty then ("$nin", .array [.null, .string ""]) else ("$ne", .null)]

def predicate : Predicate → Json
  | .filter f => f
  | .present fields rejectEmpty =>
    Json.ofMembers (fields.map fun field => (field, presence rejectEmpty))

/-- The operator of an aggregate; counting adds up ones. -/
def operator : Aggregate → String
  | .count => "$sum"
  | .sum => "$sum"
  | .avg => "$avg"
  | .min => "$min"
  | .max => "$max"

def groupInput (g : Grouping) : Json :=
  match g.function, g.source with
  | .count, _ => Json.ofNat 1
  | _, none => Json.ofNat 1
  | _, some source =>
    if g.coerce then
      numberOr (ref source) (toDouble (trimmed (withoutCommas (ref source))) (Json.ofNat 0))
    else ref source

def rounded (field : String) (places : Nat) : Json :=
  single "$round" (.array [ref field, Json.ofNat places])

def projected : Projected → Json
  | .field source => ref source
  | .rounded source places => rounded source places
  | .rangeLabel min max places =>
    single "$concat" (.array [
      single "$toString" (rounded min places),
      .string " - ",
      single "$toString" (rounded max places)])

def stage : Stage → Json
  | .select p => single "$match" (predicate p)
  | .addNumeric f =>
    single "$addFields" (single f.target
      (toDouble (numberOr (ref f.source) (coercedText (ref f.source) f.coercion)) .null))
  | .group g =>
    single "$group" (Json.ofMembers [
      ("_id", match g.key with
        | none => .null
        | some key => ref key),
      (g.output, single (operator g.function) (groupInput g))])
  | .project ps =>
    single "$project" (Json.ofMembers
      (("_id", Json.ofNat 0) :: ps.map fun p => (p.name, projected p.value)))
  | .sort key descending =>
    single "$sort" (single key (Json.ofInt (if descending then -1 else 1)))
  | .bucketAuto field buckets =>
    single "$bucketAuto" (Json.ofMembers [
      ("groupBy", ref field),
      ("buckets", Json.ofNat buckets),
      ("output", Json.ofMembers [
        ("count", single "$sum" (Json.ofNat 1)),
        ("min", single "$min" (ref field)),
        ("max", single "$max" (ref field))])])
  | .limit n => single "$limit" (Json.ofNat n)
  | .count name => single "$count" (.string name)

def pipeline (stages : List Stage) : Json := .array (stages.map stage)

end Wire
end DocAnalytics
