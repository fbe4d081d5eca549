import DocAnalytics.Text.Split
import DocAnalytics.Unicode.Lowercase

/-!
# DocAnalytics.Analyst.Question

The intent of a question, guessed from the words in it. The first kind with a word that occurs in
the question is taken.
-/

namespace DocAnalytics

/-- What a question seems to ask for. -/
inductive QuestionKind where
  | counting
  | statistical
  | aggregation
  | filtering
  | general
deriving DecidableEq, Repr

namespace QuestionKind

def name : QuestionKind → String
  | .counting => "counting"
  | .statistical => "statistical"
  | .aggregation => "aggregation"
  | .filtering => "filtering"
  | .general => "general"

/-- The words of each kind, in the order in which kinds are tried. -/
def keywords : List (QuestionKind × List String) := [
  (.counting, ["how many", "count", "number of", "total number"]),
  (.statistical, ["average", "mean", "median", "sum", "total", "maximum", "max", "minimum", "min",
    "highest", "lowest"]),
  (.aggregation, ["group by", "breakdown", "distribution", "by category", "per", "each", "top",
    "bottom"]),
  (.filtering, ["show", "list", "find", "get", "where", "filter"])]

/-- The kind of a question. Words count wherever they occur, also inside others. -/
def ofQuestion (question : String) : QuestionKind :=
  let lower := Unicode.lowercase question
  match keywords.find? fun (_, words) => words.any fun w => Text.contains lower w with
  | some (kind, _) => kind
  | none => .general

end QuestionKind
end DocAnalytics
