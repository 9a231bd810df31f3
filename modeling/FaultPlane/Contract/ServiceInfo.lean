import FaultPlane.Contract.Problem
import FaultPlane.Json.Record
import FaultPlane.Text.Blank

/-!
# What a service says about its faults

A service describes itself and the fault switches it offers. The description does not change while
the service runs.
-/

namespace FaultPlane.Contract

open FaultPlane.Json (Codec Field Fields)

/-! ### Descriptors -/

/-- The static description of one fault switch. -/
structure Descriptor where
  id : String := ""
  name : String := ""
  description : String := ""
  kind : String := ""
  defaultDelay : Option Int64 := none
  defaultErrorCode : Option Int32 := none
  defaultProbability : Option Float := none
  deriving DecidableEq, Repr, Inhabited

namespace Descriptor

def codec : Codec Descriptor :=
  Codec.record "FaultDescriptor"
    (.cons (.withDefault "id" .text "") <|
      .cons (.withDefault "name" .text "") <|
      .cons (.withDefault "description" .text "") <|
      .cons (.withDefault "type" .text "") <|
      .cons (.optional "defaultDelay" .int64) <|
      .cons (.optional "defaultErrorCode" .int32) <|
      .cons (.optional "defaultProbability" .real) .nil)
    (fun (id, name, description, kind, delay, errorCode, probability, ()) =>
      ⟨id, name, description, kind, delay, errorCode, probability⟩)
    (fun d => (d.id, d.name, d.description, d.kind, d.defaultDelay, d.defaultErrorCode,
      d.defaultProbability, ()))

/-- Whether the switch is there to delay answers. -/
def isDelay (d : Descriptor) : Bool := d.kind == "delay" || d.defaultDelay.isSome

end Descriptor

/-! ### Services -/

/-- A service and its fault switches. -/
structure ServiceInfo where
  serviceName : String := ""
  serviceId : String := ""
  description : String := ""
  version : String := ""
  faults : List Descriptor := []
  deriving DecidableEq, Repr, Inhabited

namespace ServiceInfo

def codec : Codec ServiceInfo :=
  Codec.record "FaultServiceInfo"
    (.cons (.withDefault "serviceName" .text "") <|
      .cons (.withDefault "serviceId" .text "") <|
      .cons (.withDefault "description" .text "") <|
      .cons (.withDefault "version" .text "") <|
      .cons (.withDefault "faults" (.listOrNull Descriptor.codec) []) .nil)
    (fun (name, id, description, version, faults, ()) => ⟨name, id, description, version, faults⟩)
    (fun i => (i.serviceName, i.serviceId, i.description, i.version, i.faults, ()))

/-- Reads the document a service publishes about itself. Other than an answer to a poll it must
carry its own service id and an id for every fault. -/
def ofDocument (text : String) : Except Problem ServiceInfo := do
  let info ← decode codec text
  if Text.allBlank info.serviceId then throw .serviceIdMissing
  match info.faults.findIdx? (fun d => Text.allBlank d.id) with
  | some index => throw (.faultIdMissing index)
  | none => pure info

end ServiceInfo

end FaultPlane.Contract
