import SchemaChart.Number.Reading
import SchemaChart.Vision.Client

/-!
# Settings

The service is set up by the variables of its surroundings and by a profile. A
variable that is set counts even if it is empty. Numbers have to be well formed
whether or not the profile uses them, and the first fault in a fixed order is the one
that is reported.
-/

namespace SchemaChart

/-- The variables that are set. -/
abbrev Environment := List (Text × Text)

def Environment.value? (env : Environment) (name : Text) : Option Text := env.lookup name

def Environment.value (env : Environment) (name fallback : Text) : Text :=
  (env.value? name).getD fallback

inductive Profile
  | base
  | development
  | production
  | testing
  deriving DecidableEq, Repr

namespace Profile

/-- The profile of a name; names are matched exactly, and any other name means
development. -/
def ofName (name : Text) : Profile :=
  if name = "production" then .production
  else if name = "testing" then .testing
  else .development

def selector : Text := "FLASK_ENV"

/-- The profile of the given name, or, if there is none, of the name in the
surroundings. -/
def choose (name : Option Text) (env : Environment) : Profile :=
  match name with
  | some (c :: rest) => ofName (c :: rest)
  | _ => ofName (env.value selector "development")

end Profile

structure Settings where
  secret : Text
  debug : Bool
  testing : Bool
  /-- The most bytes that a body may have, if there is a limit. -/
  bodyLimit : Option Int
  host : Text
  portNumber : Int
  logLevel : Text
  vision : Vision.Client
  deriving DecidableEq, Repr

namespace Settings

/-- The secret of a service that was given none. -/
def placeholderSecret : Text := "dev-secret-key-change-in-production"

def read (profile : Profile) (env : Environment) : Except NumberFault Settings := do
  let bodyLimit ← readInteger (env.value "MAX_CONTENT_LENGTH" "16777216")
  let portNumber ← readInteger (env.value "PORT" "5001")
  let timeout ← readInteger (env.value "VISION_TIMEOUT" "90")
  let maxTokens ← readInteger (env.value "VISION_MAX_TOKENS" "4096")
  let temperature ← readReal (env.value "VISION_TEMPERATURE" "0.2")
  return {
    secret := env.value "SECRET_KEY" placeholderSecret
    debug := profile = .development
    testing := profile = .testing
    bodyLimit := some bodyLimit
    host := env.value "HOST" "0.0.0.0"
    portNumber := portNumber
    logLevel := env.value "LOG_LEVEL" (if profile = .development then "DEBUG" else "INFO")
    vision := {
      key := if profile = .testing then [] else env.value "VISION_API_KEY" []
      url := env.value "VISION_API_URL" "https://api.openai.com/v1/chat/completions"
      model := env.value "VISION_MODEL" "gpt-4o"
      timeout := .integer timeout
      maxTokens := .integer maxTokens
      temperature := .real temperature } }

/-- The variables that a service in production cannot run without, and that are
missing: the secret also counts as missing if it is the placeholder. -/
def missing (s : Settings) : List Text :=
  let needed : List (Text × Bool) :=
    [("SECRET_KEY", !s.secret.isEmpty && s.secret ≠ placeholderSecret),
      ("VISION_API_KEY", s.vision.isConfigured)]
  (needed.filter fun entry => !entry.2).map (·.1)

end Settings

/-- A service in production lacks what it cannot run without. -/
structure MissingSettings where
  names : List Text
  deriving DecidableEq, Repr

def MissingSettings.message (e : MissingSettings) : Text :=
  "Missing required production settings: " ++ Text.joinWith ", " e.names

def Settings.validate (s : Settings) : Except MissingSettings Unit :=
  if s.missing.isEmpty then .ok () else .error ⟨s.missing⟩

end SchemaChart
