import DocAnalytics.Binary64.Rounding
import DocAnalytics.Json.Basic
import DocAnalytics.Text.Trim

/-!
# DocAnalytics.Value.Numeric

Between values and doubles. Results of computations become integers where that loses nothing
(`Json.ofDouble`); stored values become doubles by `Json.coerce?`, which also reads texts, with one
of three ways to treat the blanks in them.
-/

namespace DocAnalytics

open Binary64 (Finite)

/-- How the blanks of a text are treated before it is read as a number. -/
inductive Coercion where
  /-- Only the first word is read: `12 kg` is 12. -/
  | leadingToken
  /-- All blanks are left out: `1 200` is 1200. -/
  | compact
  /-- Blanks at the ends are left out: ` 1200 ` is 1200 and `1 200` is no number. -/
  | trimmed
deriving DecidableEq, Repr

/-- The characters of a text that are to be read as a number. -/
def Coercion.select? : Coercion → List Char → Option (List Char)
  | .leadingToken, cs => Text.firstWord? cs
  | .compact, cs => some (Text.dropBlanks cs)
  | .trimmed, cs => some (Text.trimChars cs)

namespace Json

/-- Integers from here on stay doubles: `9 * 10^15`, somewhat below the first integer that doubles
skip. -/
def integerLimit : Nat := 9000000000000000

/-- A double as a value: an integer if it is one of absolute value below the limit. -/
def ofFinite (x : Finite) : Json :=
  if x.isInteger && decide (x.truncate.natAbs < integerLimit) then ofInt x.truncate
  else .number (.float x)

/-- A computed double as a value, an integer where that loses nothing; null if it is not finite. -/
def ofDouble : Binary64 → Json
  | .finite x => ofFinite x
  | _ => .null

/-- A computed double as a value that stays a double; null if it is not finite. -/
def ofFloat : Binary64 → Json
  | .finite x => .number (.float x)
  | _ => .null

/-- Reads a text as a finite number, commas left out. -/
def numberOfText? (mode : Coercion) (s : String) : Option Finite :=
  match mode.select? (s.toList.filter (· ≠ ',')) with
  | none => none
  | some cs => (Binary64.ofText? cs).bind Binary64.finite?

/-- The number that a stored value stands for: numbers themselves, and texts that read as finite
numbers. -/
def coerce? (mode : Coercion) : Json → Option Finite
  | .number n => some n.toDouble
  | .string s => numberOfText? mode s
  | _ => none

/-- The number of a number value rounded to decimal places, as a value. -/
def roundedNumber? (places : Nat) (v : Json) : Option Json :=
  v.double?.map fun x => ofDouble (Binary64.roundTo (.finite x) places)

end Json
end DocAnalytics
