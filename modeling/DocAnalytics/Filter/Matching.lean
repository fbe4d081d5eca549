import DocAnalytics.Filter.Condition

/-!
# DocAnalytics.Filter.Matching

Filters over documents. A filter is an object; each of its keys is the path of a field with a
condition, or one of the combinations `$and`, `$or` and `$nor` with an array of filters, and all
have to hold. Keys are tried in ascending order and clauses in the order written; the first that
decides the answer or is in error ends the evaluation.
-/

namespace DocAnalytics
namespace Filter

inductive Combination where
  | all
  | any
  | noneOf
deriving DecidableEq, Repr

def Combination.ofKey? (key : String) : Option Combination :=
  match key with
  | "$and" => some .all
  | "$or" => some .any
  | "$nor" => some .noneOf
  | _ => none

/-- Whether the condition that a filter has under a key holds, where the key is no combination. -/
def fieldHolds (d : Document) (key : String) (condition : Json) : Except FilterError Bool :=
  if isReserved key then .error (.unsupportedTopLevel key)
  else conditionHolds (d.at? key) condition

mutual

def matchesFilter (d : Document) : Json → Except FilterError Bool
  | .object members => membersHold d members
  | filter => .error (.notAnObject filter)

def membersHold (d : Document) : List (String × Json) → Except FilterError Bool
  | [] => .ok true
  | (key, condition) :: rest =>
    match memberHolds d key condition with
    | .ok true => membersHold d rest
    | .ok false => .ok false
    | .error e => .error e

def memberHolds (d : Document) (key : String) : Json → Except FilterError Bool
  | .array clauses =>
    match Combination.ofKey? key with
    | some .all => allHold d clauses
    | some .any => anyHolds d clauses
    | some .noneOf => negate (anyHolds d clauses)
    | none => fieldHolds d key (.array clauses)
  | condition =>
    match Combination.ofKey? key with
    | some _ => .error .clausesExpected
    | none => fieldHolds d key condition

/-- Whether all clauses hold; the first that does not ends the evaluation. -/
def allHold (d : Document) : List Json → Except FilterError Bool
  | [] => .ok true
  | clause :: rest =>
    match matchesFilter d clause with
    | .ok true => allHold d rest
    | .ok false => .ok false
    | .error e => .error e

/-- Whether some clause holds; the first that does ends the evaluation. -/
def anyHolds (d : Document) : List Json → Except FilterError Bool
  | [] => .ok false
  | clause :: rest =>
    match matchesFilter d clause with
    | .ok false => anyHolds d rest
    | .ok true => .ok true
    | .error e => .error e

end

end Filter
end DocAnalytics
