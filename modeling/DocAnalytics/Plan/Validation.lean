import DocAnalytics.Catalog.Basic
import DocAnalytics.Plan.Basic
import DocAnalytics.Plan.Request

/-!
# DocAnalytics.Plan.Validation

Checking a plan request against a catalog. The operation must be supported; a field, given for
anything but a count, must exist; anything but a count needs a field; a numeric operation needs a
numeric one. The first rule that is broken is reported.
-/

namespace DocAnalytics

/-- Why a request is no plan for a dataset. -/
inductive ValidationError where
  | unsupportedOperation (operation : String)
  /-- A field that is not in the catalog; `similar` says whether the suggestions are fields of
  similar names or just some fields, and `available` how many fields there are. -/
  | unknownField (field : String) (suggestions : List String) (similar : Bool) (available : Nat)
  | missingField (operation : String)
  | typeMismatch (field declared operation : String) (numericFields : List String)
deriving DecidableEq, Repr

def ValidationError.message : ValidationError → String
  | .unsupportedOperation operation =>
    "Operation '" ++ operation ++ "' is not supported. Supported operations: " ++
      Text.join ", " Operation.supported
  | .unknownField field suggestions similar _ =>
    "Field '" ++ field ++ "' does not exist in the dataset. " ++
      (if similar then "Did you mean one of these" else "Available fields") ++ ": " ++
      Text.join ", " suggestions
  | .missingField operation => "Operation '" ++ operation ++ "' requires a field"
  | .typeMismatch field declared operation numericFields =>
    "Field '" ++ field ++ "' is type '" ++ declared ++ "', not numeric. Cannot perform " ++
      operation ++ " operation." ++
      (if numericFields.isEmpty then " No numeric fields found in this dataset."
       else " Try one of these numeric fields instead: " ++ Text.join ", " numericFields)

namespace PlanRequest

/-- How many fields of similar names, or of numeric types, are suggested. -/
def maxSimilar : Nat := 5

/-- How many fields are suggested where none has a similar name. -/
def maxListed : Nat := 10

def unknownField (catalog : Catalog) (field : String) : ValidationError :=
  match catalog.similarTo field with
  | [] => .unknownField field (catalog.names.take maxListed) false catalog.size
  | similar => .unknownField field (similar.take maxSimilar) true catalog.size

inductive OperationName where
  | count
  | groupByCount
  | filterOnly
  | numeric (op : NumericOperation)
deriving DecidableEq, Repr

def operationNamed? (name : String) : Option OperationName :=
  match name with
  | "group_by_count" => some .groupByCount
  | "avg" => some (.numeric .avg)
  | "sum" => some (.numeric .sum)
  | "max" => some (.numeric .max)
  | "min" => some (.numeric .min)
  | "count" => some .count
  | "filter_only" => some .filterOnly
  | _ => none

/-- The field of a request, which must be there and in the catalog. -/
def requiredField (r : PlanRequest) (catalog : Catalog) : Except ValidationError String :=
  match r.field with
  | none => .error (.missingField r.operation)
  | some field =>
    if catalog.contains field then .ok field else .error (unknownField catalog field)

def numericField (r : PlanRequest) (catalog : Catalog) (field : String) :
    Except ValidationError String :=
  match catalog.field? field with
  | some f =>
    if f.declared.isNumeric then .ok field
    else
      .error (.typeMismatch field f.rawType r.operation (catalog.numericFields.take maxSimilar))
  | none =>
    .error (.typeMismatch field "unknown" r.operation (catalog.numericFields.take maxSimilar))

def operationIn (r : PlanRequest) (catalog : Catalog) : Except ValidationError Operation :=
  match operationNamed? r.operation with
  | none => .error (.unsupportedOperation r.operation)
  | some .count => .ok .count
  | some kind =>
    match r.requiredField catalog with
    | .error e => .error e
    | .ok field =>
      match kind with
      | .count => .ok .count
      | .groupByCount => .ok (.groupByCount field)
      | .filterOnly => .ok (.filterOnly field)
      | .numeric op =>
        match r.numericField catalog field with
        | .error e => .error e
        | .ok field => .ok (.aggregate op field)

def validate (r : PlanRequest) (catalog : Catalog) : Except ValidationError Plan :=
  match r.operationIn catalog with
  | .error e => .error e
  | .ok operation => .ok ⟨operation, r.filter, r.limit⟩

end PlanRequest
end DocAnalytics
