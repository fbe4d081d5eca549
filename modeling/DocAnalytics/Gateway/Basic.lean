import DocAnalytics.Json.Fields

/-!
# DocAnalytics.Gateway.Basic

Language models that turn prompts into texts, and a gateway to providers of them: it asks one
provider, and a second one if the first fails. A provider is sent the prompt as JSON and answers
with a JSON record of one field `text`.
-/

namespace DocAnalytics

/-- A prompt: the name of a template and the values that its variables are filled with. -/
structure Prompt where
  template : String
  values : Document
deriving DecidableEq

def Prompt.toJson (p : Prompt) : Json :=
  Json.ofMembers [("template", .string p.template), ("variables", .object p.values)]

/-- Why there is no text for a prompt. -/
inductive GatewayError where
  /-- The provider cannot be reached. -/
  | unreachable
  | badStatus (provider : String) (status : Nat)
  /-- The provider answers with something else; a detail is reported where it is known. -/
  | invalidResponse (detail : Option String)
  /-- Both providers fail, for the reasons reported. -/
  | allFailed (primary fallback : String)
  | notConfigured
deriving DecidableEq

/-- What is reported; the system's own words about connections are left out. -/
def GatewayError.message : GatewayError → String
  | .unreachable => "HTTP error"
  | .badStatus provider status =>
    "Provider " ++ provider ++ " returned status " ++ toString status
  | .invalidResponse detail =>
    "Provider returned an unusable response" ++
      (match detail with
        | none => ""
        | some d => ": " ++ d)
  | .allFailed primary fallback =>
    "All providers failed (primary: " ++ primary ++ "; fallback: " ++ fallback ++ ")"
  | .notConfigured => "No language-model provider configured"

abbrev LanguageModel := Prompt → Except GatewayError String

/-- What comes of sending a prompt to a provider. -/
inductive Reply where
  | unreachable
  | answered (status : Nat) (body : String)
deriving DecidableEq, Repr

abbrev Transport := String → Prompt → Reply

/-- A way on which no provider can be reached. -/
def Transport.offline : Transport := fun _ _ => .unreachable

structure Gateway where
  primary : Option String
  fallback : Option String
deriving DecidableEq, Repr

namespace Gateway

/-- Whether there is a provider. -/
def isConfigured (g : Gateway) : Bool := g.primary.isSome || g.fallback.isSome

def textOf? (body : String) : Option String :=
  match (Json.Source.read? body).bind (Json.Source.fields? ["text"]) with
  | some [(_, .string units)] => Json.Source.text? units
  | _ => none

def ask (transport : Transport) (provider : String) (prompt : Prompt) :
    Except GatewayError String :=
  match transport provider prompt with
  | .unreachable => .error .unreachable
  | .answered status body =>
    if 200 ≤ status ∧ status < 300 then
      match textOf? body with
      | some text => .ok text
      | none => .error (.invalidResponse none)
    else .error (.badStatus provider status)

/-- Asks the providers in turn. -/
def generate (g : Gateway) (transport : Transport) : LanguageModel := fun prompt =>
  match g.primary, g.fallback with
  | none, none => .error .notConfigured
  | some provider, none => ask transport provider prompt
  | none, some provider => ask transport provider prompt
  | some primary, some fallback =>
    match ask transport primary prompt with
    | .ok text => .ok text
    | .error first =>
      match ask transport fallback prompt with
      | .ok text => .ok text
      | .error second => .error (.allFailed first.message second.message)

end Gateway
end DocAnalytics
