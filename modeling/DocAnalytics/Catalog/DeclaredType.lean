import DocAnalytics.Text.Split
import DocAnalytics.Text.Trim
import DocAnalytics.Unicode.Lowercase

/-!
# DocAnalytics.Catalog.DeclaredType

The types that metadata declares for fields, and the names that stand for them.
-/

namespace DocAnalytics

inductive DeclaredType where
  | string
  | integer
  | float
  | boolean
  | datetime
  | date
  | array
  | object
  | null
  | unknown
deriving DecidableEq, Repr

namespace DeclaredType

def name : DeclaredType → String
  | .string => "string"
  | .integer => "integer"
  | .float => "float"
  | .boolean => "boolean"
  | .datetime => "datetime"
  | .date => "date"
  | .array => "array"
  | .object => "object"
  | .null => "null"
  | .unknown => "unknown"

/-- The type of a lower-case name. Names with `date` or `time` in them are points in time, and names
of storage formats such as `int` and `double` are unknown. -/
def ofName (name : String) : DeclaredType :=
  match name with
  | "string" | "str" | "text" | "category" => .string
  | "integer" => .integer
  | "float" | "number" | "numeric" => .float
  | "boolean" | "bool" => .boolean
  | "date" => .date
  | "datetime" | "timestamp" | "time" => .datetime
  | "array" | "list" => .array
  | "object" | "dict" => .object
  | "null" | "none" => .null
  | _ => if Text.contains name "date" || Text.contains name "time" then .datetime else .unknown

/-- The type that metadata means by a text, blanks around it and letter case left aside. -/
def ofText (text : String) : DeclaredType := ofName (Unicode.lowercase (Text.trim text))

def isNumeric : DeclaredType → Bool
  | .integer | .float => true
  | _ => false

def isCategorical : DeclaredType → Bool
  | .string => true
  | _ => false

def isTemporal : DeclaredType → Bool
  | .date | .datetime => true
  | _ => false

end DeclaredType
end DocAnalytics
