import DocAnalytics.Json.Printer
import DocAnalytics.Json.Reader
import DocAnalytics.Text.Split
import DocAnalytics.Text.Trim
import DocAnalytics.Unicode.Lowercase

/-!
# DocAnalytics.Plan.Request

Plan requests: what a plan asks for before it is checked against a catalog. They are read from a
JSON object (`PlanRequest.ofJson`), or from a text that holds one, with or without a code fence
around it (`PlanRequest.ofText`).
-/

namespace DocAnalytics

/-- A plan as asked for. The operation may be any text. A filter is never null nor an empty object,
and a limit is never zero, for these mean that there is none. -/
structure PlanRequest where
  operation : String
  field : Option String
  filter : Option Json
  limit : Option Nat
deriving DecidableEq

/-- Why a text or value is no plan request. -/
inductive PlanError where
  | notJson
  | notAnObject
  | missingKey (key : String)
  | invalidKey (key : String) (value : Json)
  | invalidLimit (value : Json)
deriving DecidableEq

/-- What is reported; where the JSON text is malformed is left out. -/
def PlanError.message : PlanError → String
  | .notJson => "Plan is not valid JSON"
  | .notAnObject => "Plan must be a JSON object"
  | .missingKey key => "Plan is missing required key '" ++ key ++ "'"
  | .invalidKey key value => "Plan key '" ++ key ++ "' has an invalid value: " ++ value.compact
  | .invalidLimit value => "Plan limit must be a positive integer, got " ++ value.compact

namespace PlanRequest

/-- The filter that a value means: null and the empty object mean none. -/
def filterOf : Json → Option Json
  | .null => none
  | .object [] => none
  | filter => some filter

/-- The limit that a number means: zero means none. -/
def limitOf (n : Nat) : Option Nat := if n = 0 then none else some n

/-- Reads the operation, blanks around it and letter case left aside. -/
def operationOf : Option Json → Except PlanError String
  | none => .error (.missingKey "operation")
  | some .null => .error (.missingKey "operation")
  | some (.string s) => .ok (Unicode.lowercase (Text.trim s))
  | some value => .error (.invalidKey "operation" value)

/-- Reads the field, blanks around it left aside; a blank text means none. -/
def fieldOf : Option Json → Except PlanError (Option String)
  | none => .ok none
  | some .null => .ok none
  | some (.string s) => .ok (Text.nonBlank? s)
  | some value => .error (.invalidKey "field" value)

def limitFrom : Option Json → Except PlanError (Option Nat)
  | none => .ok none
  | some .null => .ok none
  | some (.number n) =>
    match n.toUnsigned? with
    | some limit => .ok (limitOf limit)
    | none => .error (.invalidLimit (.number n))
  | some value => .error (.invalidLimit value)

/-- Reads a request. Of several faults the first is reported, in the order operation, field, limit.
-/
def ofJson : Json → Except PlanError PlanRequest
  | .object d =>
    match operationOf (Document.get? d "operation") with
    | .error e => .error e
    | .ok operation =>
      match fieldOf (Document.get? d "field") with
      | .error e => .error e
      | .ok field =>
        match limitFrom (Document.get? d "limit") with
        | .error e => .error e
        | .ok limit => .ok ⟨operation, field, (Document.get? d "filter").bind filterOf, limit⟩
  | _ => .error .notAnObject

def fence : List Char := ['\x60', '\x60', '\x60']

/-- The characters without the fence at their front, with or without the name of the format. -/
def dropOpeningFence (cs : List Char) : List Char :=
  match Text.afterLead? (fence ++ "json".toList) cs with
  | some rest => rest
  | none => (Text.afterLead? fence cs).getD cs

/-- The characters without the fence at their end. -/
def dropClosingFence (cs : List Char) : List Char :=
  match Text.afterLead? fence cs.reverse with
  | some rest => rest.reverse
  | none => cs

/-- A text without the code fence around it and the blanks inside and outside the fence. -/
def stripFence (text : String) : String :=
  String.ofList
    (Text.trimChars (dropClosingFence (dropOpeningFence (Text.trimChars text.toList))))

/-- Reads a request from a text that holds it as a JSON object, perhaps inside a code fence. -/
def ofText (text : String) : Except PlanError PlanRequest :=
  match Json.read? (stripFence text) with
  | none => .error .notJson
  | some value => ofJson value

end PlanRequest
end DocAnalytics
