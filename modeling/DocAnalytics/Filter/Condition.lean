import DocAnalytics.Document.Path
import DocAnalytics.Filter.Error
import DocAnalytics.Regex.Marked
import DocAnalytics.Regex.Parser
import DocAnalytics.Value.Order

/-!
# DocAnalytics.Filter.Condition

Conditions on the value of one field. A condition is a value to be equal to, or an object whose keys
are all operators; then every operator has to hold. Operators are tried in the order of their keys,
and the first one that fails or is in error decides.
-/

namespace DocAnalytics
namespace Filter

inductive Operator where
  | eq
  | ne
  | gt
  | gte
  | lt
  | lte
  | isIn
  | notIn
  | exist
  | regex
  | options
deriving DecidableEq, Repr

def Operator.ofKey? (key : String) : Option Operator :=
  match key with
  | "$eq" => some .eq
  | "$ne" => some .ne
  | "$gt" => some .gt
  | "$gte" => some .gte
  | "$lt" => some .lt
  | "$lte" => some .lte
  | "$in" => some .isIn
  | "$nin" => some .notIn
  | "$exists" => some .exist
  | "$regex" => some .regex
  | "$options" => some .options
  | _ => none

/-- Whether a key begins with a dollar sign, which no field path does. -/
def isReserved (key : String) : Bool :=
  match key.toList with
  | '$' :: _ => true
  | _ => false

/-- Whether an object is a list of operators: it has keys, and all are reserved. -/
def isOperators (members : Document) : Bool :=
  !members.isEmpty && members.all fun m => isReserved m.1

/-- Equality of a field with a value. Null is equal to a missing field, and an array is equal to
anything but an array if one of its items is. -/
def fieldEquals (expected : Json) : Option Json → Bool
  | none => expected.isNull
  | some (.array items) =>
    if expected.isArray then Json.equal (.array items) expected
    else items.any fun item => item.equal expected
  | some value => value.equal expected

/-- Whether two values can be compared by a range operator: two numbers, two texts, two booleans. -/
def comparable : Json → Json → Bool
  | .number _, .number _ => true
  | .string _, .string _ => true
  | .bool _, .bool _ => true
  | _, _ => false

/-- Comparison of a field with a value; false unless the two can be compared. -/
def fieldCompares (accept : Ordering → Bool) (operand : Json) : Option Json → Bool
  | none => false
  | some value => comparable value operand && accept (value.compare operand)

def fieldIn (actual : Option Json) : Json → Except FilterError Bool
  | .array items => .ok (items.any fun item => fieldEquals item actual)
  | _ => .error .arrayExpected

/-- Whether the options of a pattern say that letter case does not count. -/
def ignoresCase (options : Option Json) : Bool :=
  match options with
  | some (.string s) => s.toList.contains 'i'
  | _ => false

/-- Whether a field is a text in which a pattern matches. The pattern has to be well-formed whatever
the field is. Where letter case does not count, the pattern is read behind the flag that says so. -/
def fieldMatches (actual options : Option Json) : Json → Except FilterError Bool
  | .string pattern =>
    let text := if ignoresCase options then "(?i)" ++ pattern else pattern
    match Regex.Pattern.ofText? text with
    | none => .error .badPattern
    | some p =>
      match actual with
      | some (.string s) => .ok (p.matchesIn s)
      | _ => .ok false
  | _ => .error .patternExpected

/-- The opposite of an answer; an error stays. -/
def negate : Except FilterError Bool → Except FilterError Bool
  | .ok b => .ok !b
  | .error e => .error e

def operatorHolds (actual options : Option Json) (key : String) (operand : Json) :
    Except FilterError Bool :=
  match Operator.ofKey? key with
  | none => .error (.unsupportedOperator key)
  | some .eq => .ok (fieldEquals operand actual)
  | some .ne => .ok !(fieldEquals operand actual)
  | some .gt => .ok (fieldCompares (· == .gt) operand actual)
  | some .gte => .ok (fieldCompares (· != .lt) operand actual)
  | some .lt => .ok (fieldCompares (· == .lt) operand actual)
  | some .lte => .ok (fieldCompares (· != .gt) operand actual)
  | some .isIn => fieldIn actual operand
  | some .notIn => negate (fieldIn actual operand)
  | some .exist =>
    match operand with
    | .bool wanted => .ok (actual.isSome == wanted)
    | _ => .error .booleanExpected
  | some .regex => fieldMatches actual options operand
  | some .options => .ok true

def operatorsHold (actual options : Option Json) : Document → Except FilterError Bool
  | [] => .ok true
  | (key, operand) :: rest =>
    match operatorHolds actual options key operand with
    | .ok true => operatorsHold actual options rest
    | .ok false => .ok false
    | .error e => .error e

def conditionHolds (actual : Option Json) (condition : Json) : Except FilterError Bool :=
  match condition with
  | .object members =>
    if isOperators members then operatorsHold actual (Document.get? members "$options") members
    else .ok (fieldEquals condition actual)
  | _ => .ok (fieldEquals condition actual)

end Filter
end DocAnalytics
