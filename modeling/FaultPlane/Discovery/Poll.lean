import FaultPlane.Config.Basic
import FaultPlane.Dialogue
import FaultPlane.Discovery.Directory

/-!
# Polling services

A poll asks a service for its description and its state and notes both in the directory. A service
that does not answer is no failure: it is noted as offline, with the switches it was last known to
have. The polls of different services do not depend on each other.
-/

namespace FaultPlane.Discovery

open Contract (ServiceInfo ServiceStatus)
open Service (Endpoint)
open FaultPlane.Time (Instant)

/-- An answer to a poll as it is noted: the service is reachable, and an identity that it leaves
out is filled in from the configuration. -/
def identified (service : ServiceEntry) (status : ServiceStatus) : ServiceStatus :=
  { status with
    reachable := true
    serviceId := if status.serviceId = "" then service.id else status.serviceId
    serviceName := if status.serviceName = "" then service.name else status.serviceName }

/-- Asks a service for its description and notes it; a failure leaves the former one. -/
def pollInfo (service : ServiceEntry) (endpoint : Endpoint) : Dialogue Directory Unit := do
  match ← Dialogue.service endpoint .info with
  | .ok info => Dialogue.change (·.putInfo service.id info)
  | .error _ => pure ()

/-- Asks a service for its state and notes it. -/
def pollStatus (service : ServiceEntry) (endpoint : Endpoint) (now : Instant) :
    Dialogue Directory Unit := do
  match ← Dialogue.service endpoint .status with
  | .ok status => Dialogue.change (·.putStatus service.id (identified service status))
  | .error failure =>
    let toggles ← Dialogue.look (·.knownToggles service.id)
    let details := "Service unreachable: " ++ failure.message service.id
    let status := ServiceStatus.offline service.id service.name details toggles now
    Dialogue.change (·.putStatus service.id status)

/-- Polls one service. -/
def poll (servicePort : UInt16) (now : Instant) (service : ServiceEntry) :
    Dialogue Directory Unit := do
  let endpoint : Endpoint := ⟨service.id, service.baseUrl servicePort⟩
  pollInfo service endpoint
  pollStatus service endpoint now

/-- Polls some services. -/
def pollAll (servicePort : UInt16) (now : Instant) : List ServiceEntry → Dialogue Directory Unit
  | [] => pure ()
  | service :: services => do
    poll servicePort now service
    pollAll servicePort now services

/-- Polls the configured service with an id; answers whether there is one. -/
def refresh (services : List ServiceEntry) (servicePort : UInt16) (now : Instant) (id : String) :
    Dialogue Directory Bool :=
  match services.find? (·.id == id) with
  | some service => do
    poll servicePort now service
    pure true
  | none => pure false

end FaultPlane.Discovery
