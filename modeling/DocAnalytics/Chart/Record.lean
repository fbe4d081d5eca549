import DocAnalytics.Chart.Spec
import DocAnalytics.Text.Quoted

/-!
# DocAnalytics.Chart.Record

Charts as they are stored: documents with texts for the identity, the kind and the captions of a
chart, and an object for its configuration.
-/

namespace DocAnalytics

structure ChartRecord where
  id : String
  chartType : String
  title : String
  description : String
  displayMode : String
  config : Document
deriving DecidableEq

/-- What a field of a stored chart has to hold. -/
inductive FieldShape where
  | text
  | object
deriving DecidableEq, Repr

/-- Why a document is no stored chart. -/
inductive RecordError where
  | wrongShape (value : Json) (expected : FieldShape)
  | missingField (field : String)
deriving DecidableEq

namespace RecordError

/-- Doubles in messages always have a point and never an exponent. -/
def doubleLayout : Binary64.Layout where
  tie := .up
  positional := fun _ => true
  keepsPoint := true

/-- What a value is called in messages. -/
def describe : Json → String
  | .null => "null"
  | .bool b => "boolean \x60" ++ (if b then "true" else "false") ++ "\x60"
  | .number (.integer n _) =>
    "integer \x60" ++ String.ofList (Binary64.intChars n) ++ "\x60"
  | .number (.float x) => "floating point \x60" ++ String.ofList (x.render doubleLayout) ++ "\x60"
  | .string s => "string " ++ Text.quoted s
  | .array _ => "sequence"
  | .object _ => "map"

def message : RecordError → String
  | .wrongShape value .text => "invalid type: " ++ describe value ++ ", expected a string"
  | .wrongShape value .object => "invalid type: " ++ describe value ++ ", expected a map"
  | .missingField field => "missing field \x60" ++ field ++ "\x60"

end RecordError

namespace ChartRecord

/-- What the fields of a stored chart have to hold; other fields may hold anything. -/
def shapeOf? (field : String) : Option FieldShape :=
  match field with
  | "_id" | "chart_type" | "title" | "description" | "display_mode" => some .text
  | "config" => some .object
  | _ => none

def hasShape : FieldShape → Json → Bool
  | .text, .string _ => true
  | .object, .object _ => true
  | _, _ => false

/-- The first field, in ascending order of keys, whose value is not what it has to be. -/
def firstFault? : Document → Option RecordError
  | [] => none
  | (field, value) :: rest =>
    match shapeOf? field with
    | none => firstFault? rest
    | some shape =>
      if hasShape shape value then firstFault? rest else some (.wrongShape value shape)

def text? (d : Document) (field : String) : Option String := (d.get? field).bind Json.string?

/-- Reads a stored chart. A wrong value is reported before a missing field. -/
def ofDocument (d : Document) : Except RecordError ChartRecord :=
  match firstFault? d with
  | some e => .error e
  | none =>
    match text? d "_id", text? d "chart_type" with
    | none, _ => .error (.missingField "_id")
    | _, none => .error (.missingField "chart_type")
    | some id, some chartType =>
      .ok {
        id := id
        chartType := chartType
        title := (text? d "title").getD ""
        description := (text? d "description").getD ""
        displayMode := (text? d "display_mode").getD "direct"
        config := ((d.get? "config").bind Json.object?).getD [] }

/-- A chart without a description, shown directly. -/
def make (id chartType title : String) (config : Document) : ChartRecord :=
  { id := id, chartType := chartType, title := title, description := "", displayMode := "direct",
    config := config }

def toDocument (r : ChartRecord) : Document :=
  Document.ofList [
    ("_id", .string r.id),
    ("chart_type", .string r.chartType),
    ("title", .string r.title),
    ("config", .object r.config),
    ("description", .string r.description),
    ("display_mode", .string r.displayMode)]

def spec (r : ChartRecord) : Except ChartError ChartSpec := ChartSpec.ofConfig r.chartType r.config

/-- The document that holds the rows of a chart, and when they were computed. -/
def materialized (r : ChartRecord) (rows : List Document) (now : String) : Document :=
  Document.ofList [
    ("chart_id", .string r.id),
    ("chart_type", .string r.chartType),
    ("title", .string r.title),
    ("description", .string r.description),
    ("display_mode", .string r.displayMode),
    ("config", .object r.config),
    ("rows", .array (rows.map .object)),
    ("materialized_at", .string now)]

end ChartRecord
end DocAnalytics
