import FaultPlane.Discovery.Poll

/-!
# Passing commands on to services

A command for a service is sent to it. When the service accepts it, the service is polled at once,
so that the directory shows the change.
-/

namespace FaultPlane.Discovery

open Contract (Command Reply)
open Service (Endpoint ServiceFailure)
open FaultPlane.Time (Instant)

/-- The reply to a command that did not get through. -/
def undelivered (serviceId faultId : String) : ServiceFailure → Reply
  | .refused status => .failure faultId ("HTTP error: " ++ Decimal.ofNat status)
  | failure => .failure faultId ("control failed: " ++ failure.message serviceId)

/-- Sends a command to a service and polls the service if it answered. -/
def toggle (services : List ServiceEntry) (servicePort : UInt16) (now : Instant)
    (serviceId : String) (command : Command) : Dialogue Directory Reply :=
  if Text.allBlank serviceId then pure (.failure command.faultId "serviceId is required")
  else if Text.allBlank command.faultId then pure (.failure command.faultId "faultId is required")
  else do
    let endpoint : Endpoint := ⟨serviceId, Config.baseUrlOf services servicePort serviceId⟩
    match ← Dialogue.service endpoint (.command command) with
    | .ok reply =>
      let _ ← refresh services servicePort now serviceId
      pure reply
    | .error failure => pure (undelivered serviceId command.faultId failure)

end FaultPlane.Discovery
