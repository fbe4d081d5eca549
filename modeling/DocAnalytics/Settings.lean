import DocAnalytics.Gateway.Basic
import DocAnalytics.Project
import DocAnalytics.Text.Integer
import DocAnalytics.Text.Trim

/-!
# DocAnalytics.Settings

Settings from named texts such as environment variables. Blanks around a setting are left aside, and
a blank one is not set.
-/

namespace DocAnalytics

structure Settings where
  /-- Where the snapshot is. -/
  snapshot : Option String
  project : Project
  /-- The addresses of the language-model providers. -/
  primary : Option String
  fallback : Option String
  /-- How many seconds a provider may take. -/
  timeout : Nat
  question : Option String
deriving DecidableEq, Repr

namespace Settings

def defaultProject : String := "demo"

/-- How many seconds a provider may take unless something else is set. -/
def defaultTimeout : Nat := 60

def names : List String :=
  ["PULSE_SNAPSHOT", "PULSE_PROJECT", "PULSE_LLM_PRIMARY_URL", "PULSE_LLM_FALLBACK_URL",
    "PULSE_LLM_TIMEOUT_SECS", "PULSE_QUESTION"]

/-- A time limit, a positive number of seconds. -/
def timeoutOf (setting : Option String) : Nat :=
  match setting.bind fun s => Text.unsigned? s.toList with
  | none => defaultTimeout
  | some 0 => defaultTimeout
  | some seconds => seconds

def ofLookup (lookup : String → Option String) : Settings :=
  let setting? (name : String) : Option String := (lookup name).bind Text.nonBlank?
  { snapshot := setting? "PULSE_SNAPSHOT"
    project := ⟨(setting? "PULSE_PROJECT").getD defaultProject⟩
    primary := setting? "PULSE_LLM_PRIMARY_URL"
    fallback := setting? "PULSE_LLM_FALLBACK_URL"
    timeout := timeoutOf (setting? "PULSE_LLM_TIMEOUT_SECS")
    question := setting? "PULSE_QUESTION" }

def gateway (s : Settings) : Gateway := ⟨s.primary, s.fallback⟩

end Settings
end DocAnalytics
