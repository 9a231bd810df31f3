import FaultPlane.Json.Record

/-!
# Responses about injected faults

What an apply or a stop answers, and the counts of a stop-all pass.
-/

namespace FaultPlane.Injection

open FaultPlane.Json (Codec Field Fields)

/-! ### Apply and stop -/

/-- The answer to an apply or a stop. -/
structure ActionResponse where
  success : Bool
  message : String
  recordId : Option String := none
  service : Option String := none
  deriving DecidableEq, Repr

namespace ActionResponse

def codec : Codec ActionResponse :=
  Codec.record "FaultActionResponse"
    (.cons (.required "success" .bool) <|
      .cons (.required "message" .text) <|
      .cons (.optionalKey "recordId" .text) <|
      .cons (.optionalKey "serviceName" .text) .nil)
    (fun (success, message, recordId, service, ()) => ⟨success, message, recordId, service⟩)
    (fun r => (r.success, r.message, r.recordId, r.service, ()))

def ok (message : String) : ActionResponse := { success := true, message := message }

def failure (message : String) : ActionResponse := { success := false, message := message }

/-- Names the record that the response is about. -/
def about (r : ActionResponse) (recordId service : String) : ActionResponse :=
  { r with recordId := some recordId, service := some service }

end ActionResponse

/-! ### Stop-all -/

/-- The counts of a stop-all pass over one kind of resource. -/
structure StopSummary where
  cleared : UInt64 := 0
  deleted : UInt64 := 0
  failed : UInt64 := 0
  skipped : UInt64 := 0
  deriving DecidableEq, Repr, Inhabited

namespace StopSummary

def codec : Codec StopSummary :=
  Codec.record "StopAllSummary"
    (.cons (.required "recordsCleared" .count) <|
      .cons (.required "resourcesDeleted" .count) <|
      .cons (.required "resourcesFailed" .count) <|
      .cons (.required "resourcesSkipped" .count) .nil)
    (fun (cleared, deleted, failed, skipped, ()) => ⟨cleared, deleted, failed, skipped⟩)
    (fun s => (s.cleared, s.deleted, s.failed, s.skipped, ()))

/-- The counts in words. -/
def text (s : StopSummary) : String :=
  "cleared " ++ Decimal.ofNat s.cleared.toNat ++ " records, deleted " ++
    Decimal.ofNat s.deleted.toNat ++ " resources (" ++ Decimal.ofNat s.failed.toNat ++
    " failed, " ++ Decimal.ofNat s.skipped.toNat ++ " skipped)"

end StopSummary

/-- The answer to stopping every fault of every kind. -/
structure StopAllResponse where
  success : Bool
  message : String
  network : StopSummary
  jvm : StopSummary
  deriving DecidableEq, Repr

def StopAllResponse.codec : Codec StopAllResponse :=
  Codec.record "StopAllResponse"
    (.cons (.required "success" .bool) <|
      .cons (.required "message" .text) <|
      .cons (.required "network" StopSummary.codec) <|
      .cons (.required "jvm" StopSummary.codec) .nil)
    (fun (success, message, network, jvm, ()) => ⟨success, message, network, jvm⟩)
    (fun r => (r.success, r.message, r.network, r.jvm, ()))

end FaultPlane.Injection
