import DocAnalytics.Analyst.Session
import DocAnalytics.Chart.Materialize
import DocAnalytics.Settings
import DocAnalytics.Store.Snapshot

/-!
# DocAnalytics.CommandLine

One run of the program: a snapshot is loaded, all charts of a project are materialized, a question
is answered if there is one, and the snapshot is written back.
-/

namespace DocAnalytics
namespace CommandLine

/-- What a run prints, and the snapshot that it leaves or why it stopped before. -/
structure Outcome where
  output : String
  snapshot : Except StorageError String

/-- The store at the start of a run, empty unless there is a snapshot. -/
def storeOf : Option String → Except StorageError MemoryStore
  | none => .ok .empty
  | some text => MemoryStore.ofSnapshot text

def answerLine (session : Analyst.Session) : String :=
  match session.state.message? with
  | some message => message ++ "\n"
  | none => ""

def answerQuestion (settings : Settings) (model : LanguageModel) (ds : Datastore) :
    Except StorageError String × Datastore :=
  match settings.question with
  | none => (.ok "", ds)
  | some question =>
    match Analyst.make ds settings.project with
    | (.error e, ds) => (.error e, ds)
    | (.ok analyst, ds) =>
      let session := analyst.ask model question ds
      (.ok (answerLine session), session.datastore)

def runOn (settings : Settings) (model : LanguageModel) (now : String) (store : MemoryStore) :
    Outcome :=
  match settings.project.materialize (.willing store) now with
  | (.error e, _) => ⟨"", .error e⟩
  | (.ok report, ds) =>
    let charts := report.line ++ "\n"
    match answerQuestion settings model ds with
    | (.error e, _) => ⟨charts, .error e⟩
    | (.ok answer, ds) => ⟨charts ++ answer, .ok (ds.store.toSnapshot now)⟩

def run (settings : Settings) (model : LanguageModel) (now : String) (snapshot : Option String) :
    Outcome :=
  match storeOf snapshot with
  | .error e => ⟨"", .error e⟩
  | .ok store => runOn settings model now store

end CommandLine
end DocAnalytics
