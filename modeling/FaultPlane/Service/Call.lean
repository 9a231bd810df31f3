import FaultPlane.Contract.Command
import FaultPlane.Contract.ServiceInfo
import FaultPlane.Contract.ServiceStatus

/-!
# Calls to services

A service describes itself, reports its state and takes commands, each under a path of its own.
-/

namespace FaultPlane.Service

open Contract (ServiceInfo ServiceStatus Command Reply)
open FaultPlane.Json (Codec)

/-! ### Calls -/

/-- Where a service is reached. -/
structure Endpoint where
  serviceId : String
  baseUrl : String
  deriving DecidableEq, Repr

inductive ServiceCall where
  | info
  | status
  | command (c : Command)
  deriving DecidableEq, Repr

namespace ServiceCall

/-- What a service answers if all goes well. -/
@[reducible]
def Payload : ServiceCall → Type
  | .info => ServiceInfo
  | .status => ServiceStatus
  | .command _ => Reply

def payloadCodec : (c : ServiceCall) → Codec c.Payload
  | .info => ServiceInfo.codec
  | .status => ServiceStatus.codec
  | .command _ => Reply.codec

/-- The path of the endpoint. -/
def path : ServiceCall → String
  | .info => "/fault/info"
  | .status => "/fault/status"
  | .command _ => "/fault/control"

end ServiceCall

/-! ### Failures -/

/-- Why a call to a service has no usable answer. -/
inductive ServiceFailure where
  | unreachable (reason : String)
  | refused (status : Nat)
  | breach (cause : Contract.Problem)
  deriving DecidableEq, Repr

/-- The wording of a failure, given the service that was called. -/
def ServiceFailure.message (serviceId : String) : ServiceFailure → String
  | .unreachable reason => "Leaf service " ++ serviceId ++ " unreachable: " ++ reason
  | .refused status => "Leaf service " ++ serviceId ++ " answered HTTP " ++ Decimal.ofNat status
  | .breach cause => "Leaf service " ++ serviceId ++ " broke the fault contract: " ++ cause.message

/-- What a call answers. -/
abbrev ServiceCall.Answer (c : ServiceCall) : Type := Except ServiceFailure c.Payload

/-- Reads the answer to a call. Every status but 200 is a refusal, whatever the body. -/
def ServiceCall.readAnswer (c : ServiceCall) (status : Nat) (body : String) : c.Answer :=
  if status = 200 then (Contract.decode c.payloadCodec body).mapError .breach
  else throw (.refused status)

end FaultPlane.Service
