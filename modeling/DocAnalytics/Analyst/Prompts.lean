import DocAnalytics.Analyst.Digest
import DocAnalytics.Analyst.Question
import DocAnalytics.Catalog.Basic
import DocAnalytics.Gateway.Basic

/-!
# DocAnalytics.Analyst.Prompts

The two prompts of a session: one for a plan that answers the question, one for a summary of its
rows.
-/

namespace DocAnalytics

/-- The dataset as the analyst sees it. -/
structure Statistics where
  totalDocuments : Nat
  totalFields : Nat
  numericFields : List String
  categoricalFields : List String
  dateFields : List String
deriving DecidableEq, Repr

def Statistics.of (catalog : Catalog) (totalDocuments : Nat) : Statistics :=
  { totalDocuments := totalDocuments
    totalFields := catalog.size
    numericFields := catalog.numericFields
    categoricalFields := catalog.categoricalFields
    dateFields := catalog.dateFields }

/-- The project as it is described to a language model. -/
structure Profile where
  name : String
  domain : String
deriving DecidableEq, Repr

namespace Prompt

def forPlan (question : String) (catalog : Catalog) (stats : Statistics) (profile : Profile) :
    Prompt where
  template := "analyst_plan"
  values := Document.ofList [
    ("user_query", .string question),
    ("query_type", .string (QuestionKind.ofQuestion question).name),
    ("available_fields", Json.ofStrings catalog.names),
    ("field_types", Json.ofMembers (catalog.fields.map fun f => (f.name, .string f.rawType))),
    ("project_name", .string profile.name),
    ("project_domain", .string profile.domain),
    ("total_documents", Json.ofNat stats.totalDocuments),
    ("numeric_fields", Json.ofStrings stats.numericFields),
    ("categorical_fields", Json.ofStrings stats.categoricalFields),
    ("date_fields", Json.ofStrings stats.dateFields)]

def forSummary (question : String) (plan : Plan) (rows : List Document) (stats : Statistics)
    (profile : Profile) : Prompt where
  template := "analyst_summary"
  values := Document.ofList [
    ("user_query", .string question),
    ("query_type", .string (QuestionKind.ofQuestion question).name),
    ("query_plan", plan.toJson),
    ("result", .array (rows.map .object)),
    ("result_summary", .string (Digest.ofRows plan.operation rows)),
    ("project_name", .string profile.name),
    ("project_domain", .string profile.domain),
    ("total_documents", Json.ofNat stats.totalDocuments)]

end Prompt
end DocAnalytics
