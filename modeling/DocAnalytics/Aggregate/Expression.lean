import DocAnalytics.Aggregate.Function
import DocAnalytics.Unicode.Folding

/-!
# DocAnalytics.Aggregate.Expression

Aggregation expressions such as `avg(duration)` or `COUNT( * )`: the name of a function in any
letter case, and in parentheses a field, which may hold anything but parentheses and is kept as
written between its blanks.
-/

namespace DocAnalytics

/-- An aggregation expression. The field of a count is kept and never read. -/
structure Expression where
  function : Aggregate
  field : String
deriving DecidableEq, Repr

/-- A text that is no aggregation expression, or names no function. -/
structure ExpressionError where
  text : String
deriving DecidableEq, Repr

def ExpressionError.message (e : ExpressionError) : String :=
  "Invalid aggregation expression: '" ++ e.text ++ "'"

namespace Expression

open Unicode (isBlank fold)

/-- The field that is read; a count reads none. -/
def source (e : Expression) : Option String :=
  if e.function.needsSource then some e.field else none

def display (e : Expression) : String := e.function.name ++ "(" ++ e.field ++ ")"

/-- Whether characters are the name of a function, letter case left aside. -/
def isFunctionName (cs : List Char) : Bool :=
  Aggregate.all.any fun f => f.name.toList == cs.map fold

/-- The field of a text that begins with a parenthesis and ends with the one that closes it. -/
def fieldOf? : List Char → Option String
  | '(' :: rest =>
    if rest.getLast? = some ')' then
      let body := rest.dropLast
      if body.contains '(' || body.contains ')' then none
      else Text.nonBlank? (String.ofList body)
    else none
  | _ => none

/-- The name and the field of an expression without blanks at its ends. -/
def parts? (cs : List Char) : Option (String × String) :=
  let isNamePart (c : Char) : Bool := !isBlank c && c != '('
  let name := cs.takeWhile isNamePart
  if isFunctionName name then
    (fieldOf? (Text.trimStart (cs.dropWhile isNamePart))).map fun field =>
      (String.ofList name, field)
  else none

/-- Reads an expression. A name that only folds to that of a function is no function. -/
def ofText (text : String) : Except ExpressionError Expression :=
  match parts? (Text.trimChars text.toList) with
  | none => .error ⟨text⟩
  | some (name, field) =>
    match Aggregate.ofText? name with
    | none => .error ⟨name⟩
    | some f => .ok ⟨f, field⟩

end Expression
end DocAnalytics
