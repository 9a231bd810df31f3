import FaultPlane.Config.Basic
import FaultPlane.File

/-!
# Valid configurations

A configuration is valid if its intervals and timeouts are positive, its namespace is not blank,
and the ids of its services are not blank and differ from each other.
-/

namespace FaultPlane

/-- The settings that must not be zero, in the order in which they are looked at. -/
inductive PositiveSetting where
  | scanInterval
  | discoveryTimeout
  | sweepInterval
  | commandTimeout
  deriving DecidableEq, Repr

/-- The path of a setting in the document. -/
def PositiveSetting.path : PositiveSetting → String
  | .scanInterval => "discovery.scan_interval_ms"
  | .discoveryTimeout => "discovery.timeout_ms"
  | .sweepInterval => "chaos.sweep_interval_ms"
  | .commandTimeout => "chaos.command_timeout_ms"

/-- Why there is no configuration. -/
inductive ConfigProblem where
  | unreadable (path : String) (cause : FileProblem)
  | malformed (cause : Json.Problem)
  | notPositive (setting : PositiveSetting)
  | blankNamespace
  | blankServiceId
  | repeatedServiceId (id : String)
  | invalidVariable (key value : String)
  deriving DecidableEq, Repr

def ConfigProblem.message : ConfigProblem → String
  | .unreadable path cause =>
    "Configuration error: cannot read " ++ path ++ ": " ++ cause.message
  | .malformed cause => "JSON serialization error: " ++ cause.message
  | .notPositive setting => "Configuration error: " ++ setting.path ++ " must be positive"
  | .blankNamespace => "Configuration error: chaos.namespace must not be empty"
  | .blankServiceId => "Configuration error: services[].id must not be empty"
  | .repeatedServiceId id => "Configuration error: duplicate service id " ++ id
  | .invalidVariable key value =>
    "Configuration error: " ++ key ++ "=" ++ value ++ " is not valid"

namespace Config

/-- The first thing wrong with the ids of some services; `seen` are the ids before them. -/
def checkServices (seen : List String) : List ServiceEntry → Except ConfigProblem Unit
  | [] => pure ()
  | s :: rest =>
    if Text.allBlank s.id then throw .blankServiceId
    else if seen.contains s.id then throw (.repeatedServiceId s.id)
    else checkServices (s.id :: seen) rest

/-- The first thing wrong with a configuration. -/
def check (c : Config) : Except ConfigProblem Unit := do
  if c.discovery.scanIntervalMs = 0 then throw (.notPositive .scanInterval)
  if c.discovery.timeoutMs = 0 then throw (.notPositive .discoveryTimeout)
  if c.chaos.sweepIntervalMs = 0 then throw (.notPositive .sweepInterval)
  if c.chaos.commandTimeoutMs = 0 then throw (.notPositive .commandTimeout)
  if Text.allBlank c.chaos.namespaceName then throw .blankNamespace
  checkServices [] c.services

/-- The valid configuration in a document. -/
def ofDocument (text : String) : Except ConfigProblem Config := do
  let c ← (codec.decode text).mapError .malformed
  check c
  pure c

/-- The valid configuration in a file. -/
def load (path : String) (entry : FileEntry) : Except ConfigProblem Config := do
  let text ← entry.text.mapError (.unreadable path)
  ofDocument text

end Config

end FaultPlane
