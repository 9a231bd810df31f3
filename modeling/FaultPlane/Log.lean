import FaultPlane.Identity
import FaultPlane.Text.Blank
import FaultPlane.Time.Rfc3339

/-!
# Log lines

A log line has a level, a message and the identity of its process, and is stamped with the time of
day.
-/

namespace FaultPlane

inductive LogLevel where
  | debug
  | info
  | warn
  | error
  deriving DecidableEq, Repr

def LogLevel.name : LogLevel → String
  | .debug => "DEBUG"
  | .info => "INFO"
  | .warn => "WARN"
  | .error => "ERROR"

/-- A log line before it is stamped. -/
structure LogLine where
  level : LogLevel
  message : String
  error : Option String := none
  deriving DecidableEq, Repr

namespace LogLine

/-! ### Kinds of line -/

def startup (details : String) : LogLine := { level := .info, message := "🚀 Starting " ++ details }

def shutdown (reason : String) : LogLine :=
  { level := .info, message := "🛑 Shutting down: " ++ reason }

/-- Something failed; the error is shown in the message and by itself. -/
def failure (context error : String) : LogLine where
  level := .error
  message := "❌ " ++ context ++ " failed: " ++ error
  error := some error

/-- Something is wrong that does not stop the process. -/
def degraded (context detail : String) : LogLine :=
  { level := .warn, message := "⚠️ " ++ context ++ ": " ++ detail }

def success (message : String) : LogLine := { level := .info, message := "✅ " ++ message }

def progress (action details : String) : LogLine :=
  { level := .info, message := "📋 " ++ action ++ ": " ++ details }

/-! ### Text -/

/-- The stamped line. -/
def text (line : LogLine) (process : Identity) (now : Time.Instant) : String :=
  let error := match line.error with
    | some e => " error=" ++ e
    | none => ""
  Text.trim (line.level.name ++ " " ++ line.message ++ " process=" ++ process.name ++
    " timestamp=\"" ++ now.timeOfDay ++ "\"" ++ error)

end LogLine

end FaultPlane
