import FaultPlane.Agent.SwitchSet
import FaultPlane.Http.Message

/-!
# The endpoints of an agent

An agent answers for the switch set of its service: a description, the state, and commands.
-/

namespace FaultPlane.Agent

open FaultPlane.Time (Instant)
open Contract (ServiceInfo ServiceStatus Command Reply)
open Http (Method Request Response Rejection)

inductive Route where
  | info
  | status
  | control
  deriving DecidableEq, Repr

namespace Route

def ofPath : List String → Option Route
  | ["fault", "info"] => some .info
  | ["fault", "status"] => some .status
  | ["fault", "control"] => some .control
  | _ => none

def method : Route → Method
  | .info | .status => .get
  | .control => .post

end Route

namespace SwitchSet

/-- Carries out a request on a route. -/
def serve (s : SwitchSet) (now : Instant) (r : Request) :
    Route → Except Rejection (Response × SwitchSet)
  | .info => pure (.json (ServiceInfo.codec.write s.info), s)
  | .status => pure (.json (ServiceStatus.codec.write (s.status now)), s)
  | .control => do
    let command ← r.json Command.codec
    let (reply, s') := s.control command
    pure (.json (Reply.codec.write reply), s')

/-- Answers a request. -/
def handle (s : SwitchSet) (now : Instant) (r : Request) : Response × SwitchSet :=
  match r.route Route.ofPath Route.method >>= s.serve now r with
  | .ok (response, s') => (r.respond response, s')
  | .error why => (.rejected why, s)

end SwitchSet

end FaultPlane.Agent
