import FaultPlane.Injection.Kind
import FaultPlane.Json.Record
import FaultPlane.Time.Rfc3339

/-!
# Records of injected faults

A record is kept for every fault that was injected. It tells how long the fault lasts; its end is
the start and a number of whole minutes.
-/

namespace FaultPlane.Injection

open FaultPlane.Json (Codec Field Fields)
open FaultPlane.Time (Instant)

/-! ### Records -/

inductive RecordStatus where
  | active
  | expired
  | stopped
  deriving DecidableEq, Repr, Inhabited

namespace RecordStatus

def all : List RecordStatus := [.active, .expired, .stopped]

def name : RecordStatus → String
  | .active => "active"
  | .expired => "expired"
  | .stopped => "stopped"

def codec : Codec RecordStatus := Codec.choice all name

end RecordStatus

/-- One injected fault. -/
structure FaultRecord where
  id : String
  service : String
  kind : FaultKind
  delaySeconds : UInt64
  durationMinutes : UInt64
  startTime : Instant
  endTime : Instant
  status : RecordStatus
  deriving DecidableEq, Repr

namespace FaultRecord

def codec : Codec FaultRecord :=
  Codec.record "InjectedFaultRecord"
    (.cons (.required "recordId" .text) <|
      .cons (.required "serviceName" .text) <|
      .cons (.required "faultType" FaultKind.codec) <|
      .cons (.required "delaySeconds" .uint64) <|
      .cons (.required "durationMinutes" .uint64) <|
      .cons (.required "startTime" .instant) <|
      .cons (.required "endTime" .instant) <|
      .cons (.required "status" RecordStatus.codec) .nil)
    (fun (id, service, kind, delay, duration, startTime, endTime, status, ()) =>
      ⟨id, service, kind, delay, duration, startTime, endTime, status⟩)
    (fun r => (r.id, r.service, r.kind, r.delaySeconds, r.durationMinutes, r.startTime, r.endTime,
      r.status, ()))

/-- A new record of a fault that lasts a number of minutes, unless its end lies outside the
calendar. -/
def active? (id service : String) (kind : FaultKind) (delaySeconds durationMinutes : UInt64)
    (startTime : Instant) : Option FaultRecord :=
  (startTime.plusMinutes? durationMinutes.toNat).map fun endTime =>
    ⟨id, service, kind, delaySeconds, durationMinutes, startTime, endTime, .active⟩

/-- Whether the fault has ended before an instant. -/
def isExpiredAt (r : FaultRecord) (now : Instant) : Bool := r.endTime.isBefore now

/-- The order of listings: by start, and by the text of the id where the starts are equal. -/
def precedes (a b : FaultRecord) : Bool :=
  a.startTime.isBefore b.startTime || (a.startTime == b.startTime && a.id ≤ b.id)

end FaultRecord

end FaultPlane.Injection
