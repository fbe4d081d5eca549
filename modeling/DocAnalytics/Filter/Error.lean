import DocAnalytics.Json.Printer

/-!
# DocAnalytics.Filter.Error

What can be wrong with a filter.
-/

namespace DocAnalytics

/-- Why a filter cannot be evaluated. -/
inductive FilterError where
  /-- The filter, or a clause of a combination, is not an object. -/
  | notAnObject (filter : Json)
  /-- A key that begins with a dollar sign and is no combination. -/
  | unsupportedTopLevel (key : String)
  /-- A combination whose clauses are not an array. -/
  | clausesExpected
  /-- An operator that does not exist. -/
  | unsupportedOperator (key : String)
  /-- `$exists` with something other than a boolean. -/
  | booleanExpected
  /-- `$in` or `$nin` with something other than an array. -/
  | arrayExpected
  /-- `$regex` with something other than a text. -/
  | patternExpected
  /-- `$regex` with a malformed pattern. -/
  | badPattern
deriving DecidableEq

namespace FilterError

/-- What is reported; how a pattern is malformed is left out. -/
def message : FilterError → String
  | .notAnObject filter => "filter must be an object: " ++ filter.compact
  | .unsupportedTopLevel key => "unsupported top-level operator " ++ key
  | .clausesExpected => "logical operator expects an array"
  | .unsupportedOperator key => "unsupported operator " ++ key
  | .booleanExpected => "$exists expects a boolean"
  | .arrayExpected => "$in/$nin expect an array"
  | .patternExpected => "$regex expects a string"
  | .badPattern => "bad $regex"

end FilterError
end DocAnalytics
