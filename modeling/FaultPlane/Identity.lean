import FaultPlane.Json.Variant

/-!
# Identities of processes

Log lines carry the identity of the process that writes them, and the default log filter depends
on it.
-/

namespace FaultPlane

open FaultPlane.Json (Codec)

/-- Which process this is: the control plane, the agent in front of a service, or a program that
uses the library without a name of its own. -/
inductive Identity where
  | controlPlane
  | agent (service : String)
  | embedded
  deriving DecidableEq, Repr

namespace Identity

def codec : Codec Identity where
  read := Json.readVariant
    [("ControlPlane", .bare .controlPlane),
      ("FaultAgent", .carrying fun cs => do
        let (service, cs) ← Codec.text.read cs
        pure (.agent service, cs)),
      ("Embedded", .bare .embedded)]
  write
    | .controlPlane => .text "ControlPlane"
    | .agent service => .object [("FaultAgent", .text service)]
    | .embedded => .text "Embedded"

/-- The name in log lines. -/
def name : Identity → String
  | .controlPlane => "control_plane"
  | .agent service => "fault_agent_" ++ service
  | .embedded => "embedded"

/-- What the log filter calls the program of the process. -/
def logTarget : Identity → String
  | .controlPlane | .embedded => "control_plane"
  | .agent _ => "fault_agent"

/-- The default log filter at a level, `info` if none is given. The libraries below the program
only warn, except for the server of an agent. -/
def filterDirective (p : Identity) (level : Option String) : String :=
  let level := level.getD "info"
  let own := p.logTarget ++ "=" ++ level ++ ",shared=" ++ level ++ ",tower_http=warn"
  match p with
  | .controlPlane | .embedded => own ++ ",reqwest=warn,hyper=warn"
  | .agent _ => own ++ ",axum=" ++ level

end Identity

end FaultPlane
