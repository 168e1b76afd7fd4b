import SchemaChart.Service.Handling

/-!
# Starting the service

A service starts with the settings it is given if they name a threshold for its log.
When it is deployed it takes its settings from its surroundings, runs in production
unless they say otherwise, and in production does not start without the settings that
it cannot run without.
-/

namespace SchemaChart.Service

def start (settings : Settings) : Except Record.NotThreshold Service :=
  (Record.thresholdNamed settings.logLevel).map fun threshold => ⟨settings, threshold⟩

inductive StartFault
  | number (fault : NumberFault)
  | threshold (fault : Record.NotThreshold)
  | missing (fault : MissingSettings)
  deriving DecidableEq, Repr

def StartFault.message : StartFault → Text
  | .number fault => fault.message
  | .threshold fault => fault.message
  | .missing fault => fault.message

def deployedProfile (env : Environment) : Profile :=
  .ofName (env.value Profile.selector "production")

def deploy (env : Environment) : Except StartFault Service := do
  let profile := deployedProfile env
  let settings ← (Settings.read profile env).mapError .number
  let service ← (start settings).mapError .threshold
  if profile = .production then settings.validate.mapError .missing
  return service

end SchemaChart.Service
