import FaultPlane.Json.Record
import FaultPlane.Time.Instant

/-!
# What is observed of a service

The state of each fault switch of a service, and the state of the service as a whole.
-/

namespace FaultPlane.Contract

open FaultPlane.Json (Codec Field Fields)

/-! ### Switches -/

/-- The state of one fault switch. -/
structure Toggle where
  id : String := ""
  enabled : Bool := false
  delayMs : Option Int64 := none
  errorCode : Option Int32 := none
  probability : Option Float := none
  deriving DecidableEq, Repr, Inhabited

namespace Toggle

def codec : Codec Toggle :=
  Codec.record "FaultToggleState"
    (.cons (.withDefault "id" .text "") <|
      .cons (.withDefault "enabled" .bool false) <|
      .cons (.optional "delayMs" .int64) <|
      .cons (.optional "errorCode" .int32) <|
      .cons (.optional "probability" .real) .nil)
    (fun (id, enabled, delayMs, errorCode, probability, ()) =>
      ⟨id, enabled, delayMs, errorCode, probability⟩)
    (fun t => (t.id, t.enabled, t.delayMs, t.errorCode, t.probability, ()))

/-- A switch of which only the id is known. -/
def off (id : String) : Toggle := { id := id }

end Toggle

/-! ### Services -/

/-- The state of a service at the time of an observation, in milliseconds since 1970. -/
structure ServiceStatus where
  serviceId : String := ""
  serviceName : String := ""
  status : String := ""
  details : String := ""
  timestamp : Int64 := 0
  reachable : Bool := false
  faults : List Toggle := []
  deriving DecidableEq, Repr, Inhabited

namespace ServiceStatus

def codec : Codec ServiceStatus :=
  Codec.record "FaultStatus"
    (.cons (.withDefault "serviceId" .text "") <|
      .cons (.withDefault "serviceName" .text "") <|
      .cons (.withDefault "status" .text "") <|
      .cons (.withDefault "details" .text "") <|
      .cons (.withDefault "timestamp" .int64 0) <|
      .cons (.withDefault "reachable" .bool false) <|
      .cons (.withDefault "faults" (.listOrNull Toggle.codec) []) .nil)
    (fun (id, name, status, details, timestamp, reachable, faults, ()) =>
      ⟨id, name, status, details, timestamp, reachable, faults⟩)
    (fun s => (s.serviceId, s.serviceName, s.status, s.details, s.timestamp, s.reachable, s.faults,
      ()))

/-- The first switch with an id. -/
def fault? (s : ServiceStatus) (id : String) : Option Toggle := s.faults.find? (·.id == id)

/-- The record of a service that could not be polled. -/
def offline (serviceId serviceName details : String) (faults : List Toggle) (now : Time.Instant) :
    ServiceStatus where
  serviceId := serviceId
  serviceName := serviceName
  status := "offline"
  details := details
  timestamp := Int64.ofInt now.millis
  reachable := false
  faults := faults

end ServiceStatus

end FaultPlane.Contract
