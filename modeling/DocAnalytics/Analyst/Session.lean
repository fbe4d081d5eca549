import DocAnalytics.Analyst.Prompts
import DocAnalytics.Plan.Execute
import DocAnalytics.Project

/-!
# DocAnalytics.Analyst.Session

A session answers one question. It asks a language model for a plan, validates, compiles and
executes the plan, and asks for a summary of the rows:

`idle → planExtracted → validated → compiled → executed → summarized`

It ends in `failed` if there is no plan or the plan is not valid. A failing execution leaves no
rows, and a failing summary leaves the rows as they are; neither makes the session fail. Each step
comes closer to an end (`State.remaining`), so `Session.finish` needs no bound.
-/

namespace DocAnalytics
namespace Analyst

/-- What a session answers with. -/
inductive Answer where
  | summary (text : String)
  /-- The rows themselves, with the reason why there is no summary. -/
  | raw (reason : GatewayError) (rows : List Document)
deriving DecidableEq

def Answer.message : Answer → String
  | .summary text => text
  | .raw reason rows =>
    "Analysis completed but error generating summary: " ++ reason.message ++
      "\n\nRaw results: " ++ Json.pretty (.array (rows.map .object))

/-- Why there is no plan. -/
inductive Cause where
  | gateway (e : GatewayError)
  | plan (e : PlanError)
deriving DecidableEq

def Cause.message : Cause → String
  | .gateway e => e.message
  | .plan e => e.message

inductive Failure where
  | planExtraction (cause : Cause)
  | validation (e : ValidationError)
deriving DecidableEq

def Failure.message : Failure → String
  | .planExtraction _ =>
    "I couldn't understand your analytical query. Please rephrase it or try asking: " ++
      "'What is the average [field]?', 'How many records are there?', " ++
      "'Show me the top 10 [field]'"
  | .validation e => e.message

/-- Where a session stands. -/
inductive State where
  | idle
  | planExtracted (request : PlanRequest)
  | validated (plan : Plan)
  | compiled (plan : Plan) (stages : List Stage)
  | executed (plan : Plan) (rows : List Document)
  | summarized (plan : Plan) (rows : List Document) (answer : Answer)
  | failed (failure : Failure)
deriving DecidableEq

namespace State

def name : State → String
  | .idle => "idle"
  | .planExtracted _ => "plan_extracted"
  | .validated _ => "validated"
  | .compiled _ _ => "compiled"
  | .executed _ _ => "executed"
  | .summarized _ _ _ => "summarized"
  | .failed _ => "failed"

/-- How many steps are left at most. -/
def remaining : State → Nat
  | .idle => 5
  | .planExtracted _ => 4
  | .validated _ => 3
  | .compiled _ _ => 2
  | .executed _ _ => 1
  | .summarized _ _ _ => 0
  | .failed _ => 0

def isTerminal (s : State) : Bool := s.remaining == 0

/-- What the user is told at the end. -/
def message? : State → Option String
  | .summarized _ _ answer => some answer.message
  | .failed failure => some failure.message
  | _ => none

end State
end Analyst

/-- An analyst of the dataset of a project. The catalog and the statistics are those of the time
when the analyst was made. -/
structure Analyst where
  project : Project
  catalog : Catalog
  stats : Statistics
  profile : Profile

namespace Analyst

/-- The domain of a project that is not described. -/
def defaultDomain : String := "general"

/-- Makes an analyst. A store that refuses to count counts as empty. -/
def make (ds : Datastore) (project : Project) : Except StorageError Analyst × Datastore :=
  match Catalog.load ds project.schema with
  | (.error e, ds) => (.error e, ds)
  | (.ok catalog, ds) =>
    let (counted, ds) := ds.count project.data
    let total :=
      match counted with
      | .ok n => n
      | .error _ => 0
    (.ok ⟨project, catalog, Statistics.of catalog total, ⟨project.id, defaultDomain⟩⟩, ds)

/-- A session: where it stands, the prompts made so far, and the store. -/
structure Session where
  state : State
  prompts : List Prompt
  datastore : Datastore

/-- The state after a plan is read from the reply. -/
def afterExtraction : Except PlanError PlanRequest → State
  | .error e => .failed (.planExtraction (.plan e))
  | .ok request => .planExtracted request

def afterPlanReply : Except GatewayError String → State
  | .error e => .failed (.planExtraction (.gateway e))
  | .ok text => afterExtraction (PlanRequest.ofText text)

def afterValidation : Except ValidationError Plan → State
  | .error e => .failed (.validation e)
  | .ok plan => .validated plan

/-- The rows of an execution; none if it fails. -/
def rowsOf : Except StorageError (List Document) → List Document
  | .error _ => []
  | .ok rows => rows

/-- The answer after a reply to the prompt for a summary. -/
def answerOf (rows : List Document) : Except GatewayError String → Answer
  | .error e => .raw e rows
  | .ok text => .summary (Text.trim text)

/-- One step of a session. A session that is over stays as it is. -/
def step (a : Analyst) (model : LanguageModel) (question : String) (s : Session) : Session :=
  match s.state with
  | .idle =>
    let prompt := Prompt.forPlan question a.catalog a.stats a.profile
    { s with state := afterPlanReply (model prompt), prompts := s.prompts ++ [prompt] }
  | .planExtracted request =>
    { s with state := afterValidation (request.validate a.catalog) }
  | .validated plan => { s with state := .compiled plan plan.compile }
  | .compiled plan stages =>
    let (result, ds) := s.datastore.aggregate a.project.data stages
    { s with state := .executed plan (rowsOf result), datastore := ds }
  | .executed plan rows =>
    let prompt := Prompt.forSummary question plan rows a.stats a.profile
    { s with
      state := .summarized plan rows (answerOf rows (model prompt))
      prompts := s.prompts ++ [prompt] }
  | .summarized _ _ _ => s
  | .failed _ => s

theorem remaining_afterExtraction_lt (result : Except PlanError PlanRequest) :
    (afterExtraction result).remaining < State.idle.remaining := by
  cases result <;> simp [afterExtraction, State.remaining]

theorem remaining_afterPlanReply_lt (reply : Except GatewayError String) :
    (afterPlanReply reply).remaining < State.idle.remaining := by
  cases reply with
  | error e => simp [afterPlanReply, State.remaining]
  | ok text =>
    rw [afterPlanReply]
    exact remaining_afterExtraction_lt (PlanRequest.ofText text)

theorem remaining_afterValidation_lt (result : Except ValidationError Plan)
    (request : PlanRequest) :
    (afterValidation result).remaining < (State.planExtracted request).remaining := by
  cases result <;> simp [afterValidation, State.remaining]

/-- A step of a session that is not over leaves fewer steps. -/
theorem remaining_step_lt (a : Analyst) (model : LanguageModel) (question : String) (s : Session)
    (h : s.state.remaining ≠ 0) :
    (a.step model question s).state.remaining < s.state.remaining := by
  obtain ⟨state, prompts, ds⟩ := s
  cases state with
  | idle => exact remaining_afterPlanReply_lt _
  | planExtracted request => exact remaining_afterValidation_lt _ request
  | validated plan => exact Nat.lt_succ_self 2
  | compiled plan stages => exact Nat.lt_succ_self 1
  | executed plan rows => exact Nat.lt_succ_self 0
  | summarized plan rows answer => exact absurd rfl h
  | failed failure => exact absurd rfl h

def finish (a : Analyst) (model : LanguageModel) (question : String) (s : Session) : Session :=
  if s.state.remaining = 0 then s else finish a model question (a.step model question s)
termination_by s.state.remaining
decreasing_by
  rename_i h
  exact remaining_step_lt a model question s h

def ask (a : Analyst) (model : LanguageModel) (question : String) (ds : Datastore) : Session :=
  a.finish model question ⟨.idle, [], ds⟩

end Analyst
end DocAnalytics
