import DocAnalytics.Analyst.Session
import DocAnalytics.Proofs.Plan.Selection
import DocAnalytics.Proofs.Store.Effects
import Mathlib.Data.List.Basic

/-!
# DocAnalytics.Proofs.Analyst.Agreement

A session answers with what running its plan gives (`ask_agrees_with_run`), whatever the language
model replies and whichever calls the store refuses.

* `Transitions`: the steps of a session up to its end. There are at most five of them
  (`finish_transitions`).
* `Agrees`: how the end of a session and the runs of plan requests go together. The four ways in
  which a session can go are `ask_of_gateway_error`, `ask_of_plan_error`, `ask_of_invalid` and
  `ask_of_valid`.
-/

namespace DocAnalytics

/-! ## Running a pipeline -/

namespace Datastore

variable {refused : List StoreCall} {ds : Datastore}

/-- A pipeline gives the same rows at any time, and leaves the documents alone. -/
theorem aggregate_eq (hds : Refuses refused ds) (collection : String) (stages : List Stage) :
    (ds.aggregate collection stages).1 =
        (if .aggregate ∈ refused then .error (.refused .aggregate)
          else runPipeline stages (ds.store.find collection)) ∧
      (ds.aggregate collection stages).2.store = ds.store := by
  by_cases h : StoreCall.aggregate ∈ refused
  · obtain ⟨after, hcall, hstore, _⟩ := attempt_of_refused hds h fun s =>
      (runPipeline stages (s.find collection), s)
    rw [aggregate, hcall, if_pos h]
    exact ⟨rfl, hstore⟩
  · obtain ⟨after, hcall, hstore, _⟩ := attempt_of_granted hds h fun s =>
      (runPipeline stages (s.find collection), s)
    rw [aggregate, hcall, if_neg h]
    exact ⟨rfl, hstore⟩

end Datastore

namespace Analyst

/-- The steps of a session, as many as it takes until it is over. -/
inductive Transitions (a : Analyst) (model : LanguageModel) (question : String) :
    Nat → Session → Session → Prop where
  | ended {s : Session} : s.state.isTerminal = true → Transitions a model question 0 s s
  | next {n : Nat} {s last : Session} : s.state.isTerminal = false →
      Transitions a model question n (a.step model question s) last →
      Transitions a model question (n + 1) s last

def planPrompt (a : Analyst) (question : String) : Prompt :=
  Prompt.forPlan question a.catalog a.stats a.profile

def summaryPrompt (a : Analyst) (question : String) (plan : Plan) (rows : List Document) : Prompt :=
  Prompt.forSummary question plan rows a.stats a.profile

/-- The model replies to the prompt for a plan with a text that holds a request. -/
def Proposes (a : Analyst) (model : LanguageModel) (question : String) (r : PlanRequest) : Prop :=
  ∃ text, model (a.planPrompt question) = .ok text ∧ PlanRequest.ofText text = .ok r

/-- A session ends as `ran`, the results of running requests, has it. -/
structure Agrees (a : Analyst) (model : LanguageModel) (question : String)
    (ran : PlanRequest → Except PlanFailure (List Document)) (session : Session) : Prop where
  /-- There is no plan exactly if the first reply fails or holds no request. -/
  unplanned : (∃ cause, session.state = .failed (.planExtraction cause)) ↔
    (∃ e, model (a.planPrompt question) = .error e) ∨
      ∃ text e, model (a.planPrompt question) = .ok text ∧ PlanRequest.ofText text = .error e
  invalid : ∀ r, a.Proposes model question r → ∀ e,
    session.state = .failed (.validation e) ↔ ran r = .error (.validation e)
  /-- A valid plan is summarized with the rows of its run, with none if the run fails. A failing
  second reply leaves these rows as the answer. -/
  answered : ∀ r, a.Proposes model question r → (∀ e, ran r ≠ .error (.validation e)) →
    ∃ plan rows answer, session.state = .summarized plan rows answer ∧
      r.validate a.catalog = .ok plan ∧
      (ran r = .ok rows ∨ (∃ e, ran r = .error (.execution e)) ∧ rows = []) ∧
      (∀ text, model (a.summaryPrompt question plan rows) = .ok text →
        answer = .summary (Text.trim text)) ∧
      (∀ e, model (a.summaryPrompt question plan rows) = .error e → answer = .raw e rows)
  /-- A second prompt is sent exactly if the session ends with a summary. -/
  askedTwice : session.prompts.length = 2 ↔
    ∃ plan rows answer, session.state = .summarized plan rows answer
  /-- The prompts in the order in which they are sent. -/
  asked : session.prompts = a.planPrompt question ::
    match session.state with
    | .summarized plan rows _ => [a.summaryPrompt question plan rows]
    | _ => []
  /-- No prompt is sent twice, so each reply is free of the other. -/
  askedOnce : session.prompts.Nodup

variable (a : Analyst) (model : LanguageModel) (question : String)

/-! ## Steps up to the end -/

theorem finish_of_over {s : Session} (h : s.state.remaining = 0) :
    a.finish model question s = s := by
  rw [finish, if_pos h]

theorem finish_of_running {s : Session} (h : s.state.remaining ≠ 0) :
    a.finish model question s = a.finish model question (a.step model question s) := by
  rw [finish, if_neg h]

/-- By induction on the steps that remain, of which every step takes one at least. -/
theorem finish_transitions (s : Session) :
    ∃ n ≤ s.state.remaining, Transitions a model question n s (a.finish model question s) := by
  induction hr : s.state.remaining using Nat.strongRecOn generalizing s with
  | ind r ih =>
    by_cases h : s.state.remaining = 0
    · rw [finish_of_over a model question h]
      refine ⟨0, Nat.zero_le r, .ended ?_⟩
      rw [State.isTerminal, h]
      rfl
    · have hlt := remaining_step_lt a model question s h
      obtain ⟨n, hn, hsteps⟩ := ih _ (hr ▸ hlt) (a.step model question s) rfl
      rw [finish_of_running a model question h]
      refine ⟨n + 1, by omega, .next ?_ hsteps⟩
      rw [State.isTerminal, beq_eq_false_iff_ne]
      exact h

variable {a model question} in
theorem Transitions.isTerminal {n : Nat} {s last : Session}
    (h : Transitions a model question n s last) : last.state.isTerminal = true := by
  induction h with
  | ended hended => exact hended
  | next _ _ ih => exact ih

/-! ## The four ways of a session -/

section Ways

variable {a model question}

/-- Every session asks for a plan first. -/
theorem ask_eq_finish (a : Analyst) (model : LanguageModel) (question : String) (ds : Datastore) :
    a.ask model question ds =
      a.finish model question
        ⟨afterPlanReply (model (a.planPrompt question)), [a.planPrompt question], ds⟩ := by
  rw [ask, finish_of_running _ _ _ (by simp [State.remaining])]
  rfl

theorem ask_of_gateway_error {e : GatewayError} (h : model (a.planPrompt question) = .error e)
    (ds : Datastore) :
    a.ask model question ds =
      ⟨.failed (.planExtraction (.gateway e)), [a.planPrompt question], ds⟩ := by
  rw [ask_eq_finish, h, finish_of_over _ _ _ rfl]
  rfl

theorem ask_of_plan_error {text : String} {e : PlanError}
    (h : model (a.planPrompt question) = .ok text) (he : PlanRequest.ofText text = .error e)
    (ds : Datastore) :
    a.ask model question ds =
      ⟨.failed (.planExtraction (.plan e)), [a.planPrompt question], ds⟩ := by
  rw [ask_eq_finish, h, afterPlanReply, he, finish_of_over _ _ _ rfl]
  rfl

theorem ask_of_proposes {r : PlanRequest} (h : a.Proposes model question r) (ds : Datastore) :
    a.ask model question ds =
      a.finish model question
        ⟨afterValidation (r.validate a.catalog), [a.planPrompt question], ds⟩ := by
  obtain ⟨text, htext, hr⟩ := h
  rw [ask_eq_finish, htext, afterPlanReply, hr,
    finish_of_running _ _ _ (by simp [afterExtraction, State.remaining])]
  rfl

theorem ask_of_invalid {r : PlanRequest} {e : ValidationError}
    (h : a.Proposes model question r) (he : r.validate a.catalog = .error e) (ds : Datastore) :
    a.ask model question ds = ⟨.failed (.validation e), [a.planPrompt question], ds⟩ := by
  rw [ask_of_proposes h, he, finish_of_over _ _ _ rfl]
  rfl

theorem ask_of_valid {r : PlanRequest} {plan : Plan} (h : a.Proposes model question r)
    (hplan : r.validate a.catalog = .ok plan) (ds : Datastore) :
    let executed := ds.aggregate a.project.data plan.compile
    let rows := rowsOf executed.1
    a.ask model question ds =
      ⟨.summarized plan rows (answerOf rows (model (a.summaryPrompt question plan rows))),
        [a.planPrompt question, a.summaryPrompt question plan rows], executed.2⟩ := by
  intro executed rows
  have hrunning : ∀ prompts, finish a model question ⟨.validated plan, prompts, ds⟩ =
      finish a model question ⟨.executed plan rows, prompts, executed.2⟩ := by
    intro prompts
    rw [finish_of_running _ _ _ (by simp [State.remaining]),
      finish_of_running _ _ _ (by simp [step, State.remaining])]
    rfl
  rw [ask_of_proposes h, hplan, afterValidation, hrunning,
    finish_of_running _ _ _ (by simp [State.remaining]), finish_of_over _ _ _ rfl]
  rfl

end Ways

/-! ## Agreement -/

theorem planPrompt_ne_summaryPrompt (plan : Plan) (rows : List Document) :
    a.planPrompt question ≠ a.summaryPrompt question plan rows := by
  intro h
  have htemplate : "analyst_plan" = "analyst_summary" := congrArg Prompt.template h
  exact absurd htemplate (by decide)

variable {a model question}

theorem not_proposes_of_gateway_error {e : GatewayError}
    (h : model (a.planPrompt question) = .error e) (r : PlanRequest) :
    ¬ a.Proposes model question r := by
  rintro ⟨text, htext, _⟩
  rw [h] at htext
  cases htext

theorem not_proposes_of_plan_error {text : String} {e : PlanError}
    (h : model (a.planPrompt question) = .ok text) (he : PlanRequest.ofText text = .error e)
    (r : PlanRequest) : ¬ a.Proposes model question r := by
  rintro ⟨text', htext, hr⟩
  rw [h] at htext
  cases htext
  rw [he] at hr
  cases hr

theorem Proposes.unique {r r' : PlanRequest} (h : a.Proposes model question r)
    (h' : a.Proposes model question r') : r = r' := by
  obtain ⟨text, htext, hr⟩ := h
  obtain ⟨text', htext', hr'⟩ := h'
  rw [htext] at htext'
  cases htext'
  rw [hr] at hr'
  exact Except.ok.inj hr'

theorem agrees_of_unplanned {ran : PlanRequest → Except PlanFailure (List Document)}
    {cause : Cause} {ds : Datastore}
    (hcause : (∃ e, model (a.planPrompt question) = .error e) ∨
      ∃ text e, model (a.planPrompt question) = .ok text ∧ PlanRequest.ofText text = .error e)
    (hnone : ∀ r, ¬ a.Proposes model question r) :
    a.Agrees model question ran
      ⟨.failed (.planExtraction cause), [a.planPrompt question], ds⟩ where
  unplanned := ⟨fun _ => hcause, fun _ => ⟨cause, rfl⟩⟩
  invalid := fun r hr => absurd hr (hnone r)
  answered := fun r hr => absurd hr (hnone r)
  askedTwice := by simp
  asked := rfl
  askedOnce := by simp

/-- A model that proposes a request has replied, and with a request. -/
theorem Proposes.planned {r : PlanRequest} (h : a.Proposes model question r) :
    ¬ ((∃ e, model (a.planPrompt question) = .error e) ∨
      ∃ text e, model (a.planPrompt question) = .ok text ∧ PlanRequest.ofText text = .error e) := by
  rintro (⟨e, he⟩ | ⟨text, e, htext, he⟩)
  · exact not_proposes_of_gateway_error he r h
  · exact not_proposes_of_plan_error htext he r h

theorem agrees_of_invalid {ran : PlanRequest → Except PlanFailure (List Document)}
    {r : PlanRequest} {e : ValidationError} {ds : Datastore} (hr : a.Proposes model question r)
    (hran : ran r = .error (.validation e)) :
    a.Agrees model question ran ⟨.failed (.validation e), [a.planPrompt question], ds⟩ where
  unplanned := by
    constructor
    · rintro ⟨cause, hcause⟩
      cases hcause
    · exact fun h => absurd h hr.planned
  invalid := by
    intro r' hr' e'
    rw [hr'.unique hr, hran]
    simp
  answered := by
    intro r' hr' hvalid
    rw [hr'.unique hr] at hvalid
    exact absurd hran (hvalid e)
  askedTwice := by simp
  asked := rfl
  askedOnce := by simp

theorem agrees_of_valid {ran : PlanRequest → Except PlanFailure (List Document)}
    {r : PlanRequest} {plan : Plan} {executed : Except StorageError (List Document)}
    {ds : Datastore} (hr : a.Proposes model question r)
    (hplan : r.validate a.catalog = .ok plan)
    (hran : ran r = executed.mapError PlanFailure.execution) :
    let rows := rowsOf executed
    a.Agrees model question ran
      ⟨.summarized plan rows (answerOf rows (model (a.summaryPrompt question plan rows))),
        [a.planPrompt question, a.summaryPrompt question plan rows], ds⟩ := by
  intro rows
  have hvalid : ∀ e, ran r ≠ .error (.validation e) := by
    intro e he
    rw [hran] at he
    cases executed <;> cases he
  constructor
  case unplanned =>
    constructor
    · rintro ⟨cause, hcause⟩
      cases hcause
    · exact fun h => absurd h hr.planned
  case invalid =>
    intro r' hr' e
    rw [hr'.unique hr]
    constructor
    · intro h
      cases h
    · exact fun h => absurd h (hvalid e)
  case answered =>
    intro r' hr' _
    rw [hr'.unique hr]
    refine ⟨plan, rows, _, rfl, hplan, ?_, ?_, ?_⟩
    · cases executed with
      | error e => exact .inr ⟨⟨e, hran⟩, rfl⟩
      | ok found => exact .inl hran
    · intro text htext
      rw [htext]
      rfl
    · intro e he
      rw [he]
      rfl
  case askedTwice => simp
  case asked => rfl
  case askedOnce => simp [planPrompt_ne_summaryPrompt a question plan rows]

/-- Whatever the model replies, a session agrees with the runs of requests on the store. -/
theorem agrees_ask {refused : List StoreCall} {ds : Datastore}
    (hds : Datastore.Refuses refused ds) :
    a.Agrees model question
        (fun r => (r.run a.catalog (.refusing ds.store refused) a.project.data).1)
        (a.ask model question ds) ∧
      (a.ask model question ds).datastore.store = ds.store := by
  cases hreply : model (a.planPrompt question) with
  | error e =>
    rw [ask_of_gateway_error hreply]
    exact ⟨agrees_of_unplanned (.inl ⟨e, hreply⟩) (not_proposes_of_gateway_error hreply), rfl⟩
  | ok text =>
    cases htext : PlanRequest.ofText text with
    | error e =>
      rw [ask_of_plan_error hreply htext]
      exact ⟨agrees_of_unplanned (.inr ⟨text, e, hreply, htext⟩)
        (not_proposes_of_plan_error hreply htext), rfl⟩
    | ok r =>
      have hr : a.Proposes model question r := ⟨text, hreply, htext⟩
      cases hplan : r.validate a.catalog with
      | error e =>
        rw [ask_of_invalid hr hplan]
        exact ⟨agrees_of_invalid hr (PlanRequest.run_of_invalid hplan _ _), rfl⟩
      | ok plan =>
        have hfresh := Datastore.refuses_refusing ds.store refused
        obtain ⟨hrows, hstore⟩ := Datastore.aggregate_eq hds a.project.data plan.compile
        have hran := PlanRequest.run_of_valid hplan (.refusing ds.store refused) a.project.data
        rw [(Datastore.aggregate_eq hfresh a.project.data plan.compile).1] at hran
        rw [ask_of_valid hr hplan, hrows]
        exact ⟨agrees_of_valid hr hplan hran, hstore⟩

/-- An analyst has the catalog of the store, which making it leaves alone. -/
theorem make_of_refusing {store : MemoryStore} {refused : List StoreCall} {project : Project}
    {ds : Datastore} (h : make (.refusing store refused) project = (.ok a, ds)) :
    (Catalog.load (.refusing store refused) project.schema).1 = .ok a.catalog ∧
      a.project = project ∧ ds.store = store ∧ Datastore.Refuses refused ds := by
  have hds := Datastore.refuses_refusing store refused
  by_cases hfind : StoreCall.find ∈ refused
  · obtain ⟨between, hcall, _⟩ := Datastore.attempt_of_refused hds hfind fun s =>
      (.ok (s.find project.schema), s)
    rw [make, Catalog.load, Datastore.find, hcall] at h
    cases h
  · obtain ⟨between, hcall, hbetween, hrefuses⟩ := Datastore.attempt_of_granted hds hfind fun s =>
      (.ok (s.find project.schema), s)
    rw [make, Catalog.load, Datastore.find, hcall] at h
    rw [Catalog.load, Datastore.find, hcall]
    by_cases hcount : StoreCall.count ∈ refused
    · obtain ⟨after, hcall', hafter, hrefuses'⟩ := Datastore.attempt_of_refused hrefuses hcount
        fun s => (.ok (s.count project.data), s)
      simp only [Datastore.count, hcall'] at h
      cases h
      exact ⟨rfl, rfl, hafter.trans hbetween, hrefuses'⟩
    · obtain ⟨after, hcall', hafter, hrefuses'⟩ := Datastore.attempt_of_granted hrefuses hcount
        fun s => (.ok (s.count project.data), s)
      simp only [Datastore.count, hcall'] at h
      cases h
      exact ⟨rfl, rfl, hafter.trans hbetween, hrefuses'⟩

/-- An analyst that can be made ends every session in at most five steps. The session agrees with
running the requested plan on the same store with the catalog that was loaded, however the project
is described, whatever the model replies to its two prompts, and whichever calls are refused. -/
theorem ask_agrees_with_run {store : MemoryStore} {refused : List StoreCall} {project : Project}
    {ds : Datastore} (h : make (.refusing store refused) project = (.ok a, ds))
    (profile : Profile) (model : LanguageModel) (question : String) :
    let described : Analyst := { a with profile := profile }
    let session := described.ask model question ds
    (Catalog.load (.refusing store refused) project.schema).1 = .ok a.catalog ∧
      (∃ n ≤ 5, Transitions described model question n ⟨.idle, [], ds⟩ session) ∧
      session.state.isTerminal = true ∧
      described.Agrees model question
        (fun r => (r.run a.catalog (.refusing store refused) project.data).1) session ∧
      session.datastore.store = store := by
  intro described session
  obtain ⟨hcatalog, hproject, hstore, hrefuses⟩ := make_of_refusing h
  obtain ⟨n, hn, hsteps⟩ := finish_transitions described model question ⟨.idle, [], ds⟩
  have hagrees : described.Agrees model question _ session ∧ session.datastore.store = ds.store :=
    agrees_ask hrefuses
  have hdata : described.project = project := hproject
  rw [hdata, hstore] at hagrees
  exact ⟨hcatalog, ⟨n, hn, hsteps⟩, hsteps.isTerminal, hagrees.1, hagrees.2⟩

/-- A store that refuses to count still adds units up, and a missing summary leaves the sum. -/
theorem ask_agrees_with_run_units :
    let units (n : Int) : Document := Document.ofList [("units", Json.ofInt n)]
    let record : Document :=
      Document.ofList [("attribute", .string "units"), ("data_type", .string "Integer")]
    let store := (MemoryStore.empty.put "p_cleaned_dt" [record]).put "p_data" [units 3, units 4]
    let model : LanguageModel := fun prompt =>
      if prompt.template = "analyst_plan" then
        .ok "\x7b\"operation\": \"Sum\", \"field\": \"units\"\x7d"
      else .error .notConfigured
    let rows := [Document.ofList [("_id", .null), ("value", Json.ofInt 7)]]
    ∃ a ds, make (.refusing store [.count]) ⟨"p"⟩ = (.ok a, ds) ∧
      let described : Analyst := { a with profile := ⟨"Shop", "retail"⟩ }
      (described.ask model "How many units?" ds).state =
          .summarized ⟨.aggregate .sum "units", none, none⟩ rows (.raw .notConfigured rows) ∧
        (described.ask model "How many units?" ds).prompts.length = 2 := by
  intro units record store model rows
  let catalog := Catalog.ofFields [⟨"units", .integer, "Integer"⟩]
  let r : PlanRequest := ⟨"sum", some "units", none, none⟩
  have hmade : ∃ a ds, make (.refusing store [.count]) ⟨"p"⟩ = (.ok a, ds) := ⟨_, _, rfl⟩
  obtain ⟨a, ds, hmake⟩ := hmade
  refine ⟨a, ds, hmake, ?_⟩
  intro described
  obtain ⟨hload, _, _, hagrees, _⟩ :=
    ask_agrees_with_run hmake ⟨"Shop", "retail"⟩ model "How many units?"
  have hcatalog : (Catalog.load (.refusing store [.count]) "p_cleaned_dt").1 = .ok catalog := by
    decide +kernel
  have hknown : described.catalog = catalog := Except.ok.inj (hload.symm.trans hcatalog)
  have hr : described.Proposes model "How many units?" r := ⟨_, rfl, by decide +kernel⟩
  have hplan : r.validate catalog = .ok ⟨.aggregate .sum "units", none, none⟩ := by decide +kernel
  have hran : (r.run catalog (.refusing store [.count]) "p_data").1 = .ok rows := by
    decide +kernel
  rw [← hknown] at hplan hran
  have hvalid : ∀ e, (r.run described.catalog (.refusing store [.count]) "p_data").1 ≠
      .error (.validation e) := by
    intro e
    rw [hran]
    simp
  obtain ⟨plan, found, answer, hstate, hplan', hfound, _, hraw⟩ := hagrees.answered r hr hvalid
  have hrows : found = rows := by
    rcases hfound with hok | ⟨⟨e, he⟩, _⟩
    · exact Except.ok.inj (hok.symm.trans hran)
    · exact absurd (he.symm.trans hran) (by simp)
  have hsame : plan = ⟨.aggregate .sum "units", none, none⟩ :=
    Except.ok.inj (hplan'.symm.trans hplan)
  rw [hraw .notConfigured rfl, hrows, hsame] at hstate
  exact ⟨hstate, hagrees.askedTwice.2 ⟨_, _, _, hstate⟩⟩

end Analyst
end DocAnalytics
