import FaultPlane.Json.Record

/-!
# Commands to fault switches

A command sets one switch on or off and may change what the fault does. The reply tells whether
the service knows the switch.
-/

namespace FaultPlane.Contract

open FaultPlane.Json (Codec Field Fields)

/-- A command to one switch. What is not given stays as it is. -/
structure Command where
  faultId : String
  enable : Bool := false
  delayMs : Option Int64 := none
  errorCode : Option Int32 := none
  probability : Option Float := none
  deriving DecidableEq, Repr, Inhabited

def Command.codec : Codec Command :=
  Codec.record "FaultControlRequest"
    (.cons (.required "faultId" .text) <|
      .cons (.withDefault "enable" .bool false) <|
      .cons (.optional "delayMs" .int64) <|
      .cons (.optional "errorCode" .int32) <|
      .cons (.optional "probability" .real) .nil)
    (fun (faultId, enable, delayMs, errorCode, probability, ()) =>
      ⟨faultId, enable, delayMs, errorCode, probability⟩)
    (fun c => (c.faultId, c.enable, c.delayMs, c.errorCode, c.probability, ()))

/-- The answer to a command. -/
structure Reply where
  success : Bool := false
  message : String := ""
  faultId : String := ""
  enabled : Bool := false
  deriving DecidableEq, Repr, Inhabited

namespace Reply

def codec : Codec Reply :=
  Codec.record "FaultControlResponse"
    (.cons (.withDefault "success" .bool false) <|
      .cons (.withDefault "message" .text "") <|
      .cons (.withDefault "faultId" .text "") <|
      .cons (.withDefault "enabled" .bool false) .nil)
    (fun (success, message, faultId, enabled, ()) => ⟨success, message, faultId, enabled⟩)
    (fun r => (r.success, r.message, r.faultId, r.enabled, ()))

/-- The answer to a command that was not carried out. -/
def failure (faultId message : String) : Reply := { faultId := faultId, message := message }

end Reply

end FaultPlane.Contract
