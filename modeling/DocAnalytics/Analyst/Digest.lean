import DocAnalytics.Json.Printer
import DocAnalytics.Binary64.Layout
import DocAnalytics.Plan.Basic
import DocAnalytics.Text.Split

/-!
# DocAnalytics.Analyst.Digest

A short account of the rows of a plan.
-/

namespace DocAnalytics
namespace Digest

/-- Decimal digits with a comma before each group of three, counted from the end. -/
def withCommas : List Char → List Char
  | [] => []
  | [d] => [d]
  | d :: rest => if rest.length % 3 = 0 then d :: ',' :: withCommas rest else d :: withCommas rest

/-- An integer with commas between groups of three digits. -/
def thousands (n : Int) : String :=
  let digits := withCommas (Nat.toDigits 10 n.natAbs)
  String.ofList (if n < 0 then '-' :: digits else digits)

/-- A value as it is shown: texts without quotes, other values as JSON. -/
def shown : Option Json → String
  | none => "null"
  | some (.string s) => s
  | some v => v.compact

/-- The signed integer that a row holds in a field. -/
def integerIn? (field : String) (row : Document) : Option Int :=
  match row.get? field with
  | some (.number n) => n.toSigned?
  | _ => none

def listedGroups : Nat := 3

def groupName (row : Document) : String :=
  match row.get? "_id" with
  | none => "Unknown"
  | some .null => "Unknown"
  | some v => shown (some v)

def groupLine (row : Document) : String :=
  "  • " ++ groupName row ++ ": " ++ thousands ((integerIn? "count" row).getD 0) ++ "\n"

def ofGroups (rows : List Document) : String :=
  let total := (rows.filterMap (integerIn? "count")).foldl (· + ·) 0
  "Found " ++ toString rows.length ++ " distinct groups, " ++ thousands total ++
    " total records.\nTop " ++ toString listedGroups ++ ":\n" ++
    Text.join "" ((rows.take listedGroups).map groupLine)

def ofRows (operation : Operation) : List Document → String
  | [] => "No data found matching the query criteria."
  | first :: rest =>
    match operation with
    | .aggregate _ _ => "Result: " ++ shown (first.get? "value")
    | .count =>
      "Total count: " ++ thousands ((integerIn? "total" first).getD 0) ++ " records"
    | .groupByCount _ => ofGroups (first :: rest)
    | .filterOnly _ => "Returned " ++ toString (first :: rest).length ++ " results"

end Digest
end DocAnalytics
