import FaultPlane.Plane.Basic
import FaultPlane.Proofs.Injection.Outcome

/-!
# Histories of a control plane

A control plane carries out operations on injected faults one after the other. The history of a run
has one entry for each of them: what was asked, what was answered, and the ledger before and after.
-/

namespace FaultPlane.Plane

open Injection
open FaultPlane.Time (Instant)

/-! ### Operations -/

/-- What a control plane can be asked to do about faults. -/
inductive Operation where
  | apply (now : Instant) (request : Request)
  | stop (kind : FaultKind) (name : String)
  | stopAll (kind : ResourceKind)
  | stopEverything
  | sweep (kind : ResourceKind) (now : Instant)

/-- What has happened: an operation and what was answered to it. -/
inductive Event where
  | applied (now : Instant) (request : Request) (response : ActionResponse)
  | stopped (kind : FaultKind) (result : Except StopProblem (Option FaultRecord))
  | cleared (kind : ResourceKind) (summary : StopSummary)
  | clearedAll (response : StopAllResponse)
  | swept (kind : ResourceKind) (records : List FaultRecord)

def perform (p : Plane) : Operation → Dialogue State Event
  | .apply now request => do pure (.applied now request (← p.apply now request))
  | .stop kind name => do pure (.stopped kind (← p.stopRecord kind name))
  | .stopAll kind => do pure (.cleared kind (← p.stopAll kind))
  | .stopEverything => do pure (.clearedAll (← p.stopEverything))
  | .sweep kind now => do pure (.swept kind (← p.sweep kind now))

/-! ### Histories -/

structure Entry where
  before : Ledger
  event : Event
  after : Ledger

/-- The entry for an operation, and the states of the plane and of the world after it. -/
def entryOf {ω : Type} (p : Plane) (world : World ω) (op : Operation) (s : State) (w : ω) :
    Entry × State × ω :=
  let (event, s', w') := (p.perform op).run world s w
  (⟨s.ledger, event, s'.ledger⟩, s', w')

/-- The history of some operations, one after the other, and the states after them. -/
def history {ω : Type} (p : Plane) (world : World ω) :
    List Operation → State → ω → List Entry × State × ω
  | [], s, w => ([], s, w)
  | op :: ops, s, w =>
    let (entry, s', w') := p.entryOf world op s w
    let (entries, s'', w'') := p.history world ops s' w'
    (entry :: entries, s'', w'')

/-! ### What an event is about -/

namespace Event

/-- The id under which an apply has tracked a fault of a kind of resource. -/
def applied? (kind : ResourceKind) : Event → Option String
  | .applied _ request response =>
    if response.success ∧ request.kind.resource = kind then response.recordId else none
  | _ => none

def reported? : Event → Option String
  | .applied _ _ response => response.recordId
  | _ => none

def applyCount (kind : ResourceKind) : Event → Nat
  | .applied _ request response => if response.success ∧ request.kind.resource = kind then 1 else 0
  | _ => 0

def stopCount (kind : ResourceKind) : Event → Nat
  | .stopped fault (.ok (some _)) => if fault.resource = kind then 1 else 0
  | _ => 0

def sweepCount (kind : ResourceKind) : Event → Nat
  | .swept k records => if k = kind then records.length else 0
  | _ => 0

/-- The number of records of a kind of resource that a stop-all says it has cleared. -/
def clearCount (kind : ResourceKind) : Event → Nat
  | .cleared k summary => if k = kind then summary.cleared.toNat else 0
  | .clearedAll response =>
    match kind with
    | .networkChaos => response.network.cleared.toNat
    | .jvmChaos => response.jvm.cleared.toNat
  | _ => 0

end Event

/-- The ids of a kind of resource that an operation has handed out as removed. A stop and a sweep
answer the records; a stop-all hands out whatever is tracked. -/
def Entry.removed (e : Entry) (kind : ResourceKind) : List String :=
  match e.event with
  | .stopped fault (.ok (some record)) => if fault.resource = kind then [record.id] else []
  | .swept k records => if k = kind then records.map (·.id) else []
  | .cleared k _ => if k = kind then (e.before.registry kind).ids else []
  | .clearedAll _ => (e.before.registry kind).ids
  | _ => []

/-- The id that an operation has issued: every apply whose request can be planned issues one. -/
def Entry.issued? (catalog : Catalog) (e : Entry) : Option String :=
  match e.event with
  | .applied now request _ =>
    match request.plan catalog with
    | .ok plan => some (plan.recordId request.kind e.before now)
    | .error _ => none
  | _ => none

theorem Event.reported_of_applied {event : Event} {kind : ResourceKind} {id : String}
    (h : event.applied? kind = some id) : event.reported? = some id := by
  cases event with
  | applied now request response =>
    simp only [Event.applied?] at h
    split at h
    · exact h
    · cases h
  | _ => cases h

theorem Event.applied_of_unreported {event : Event} {kind : ResourceKind}
    (h : event.reported? = none) : event.applied? kind = none := by
  cases happlied : event.applied? kind with
  | none => rfl
  | some id =>
    rw [Event.reported_of_applied happlied] at h
    cases h

/-! ### Exchanges and entries -/

section

variable {ω : Type} (p : Plane) (world : World ω) (s : State) (w : ω)

theorem transcript_onLedger {α : Type} (d : Dialogue Ledger α) :
    (onLedger d).transcript world s w = d.transcript world s.ledger w :=
  Dialogue.transcript_within world (fun _ _ => rfl) d s w

theorem entryOf_apply (now : Instant) (request : Request) :
    (p.entryOf world (.apply now request) s w).1 =
      ⟨s.ledger,
        .applied now request
          ((Injection.apply p.settings p.catalog now request).run world s.ledger w).1,
        ((Injection.apply p.settings p.catalog now request).run world s.ledger w).2.1⟩ := by
  simp only [entryOf, perform, apply, Dialogue.run_bind, run_onLedger, Dialogue.run_pure]

theorem entryOf_stop (kind : FaultKind) (name : String) :
    (p.entryOf world (.stop kind name) s w).1 =
      ⟨s.ledger,
        .stopped kind ((Injection.stopRecord p.settings kind name).run world s.ledger w).1,
        ((Injection.stopRecord p.settings kind name).run world s.ledger w).2.1⟩ := by
  simp only [entryOf, perform, stopRecord, Dialogue.run_bind, run_onLedger, Dialogue.run_pure]

theorem entryOf_stopAll (kind : ResourceKind) :
    (p.entryOf world (.stopAll kind) s w).1 =
      ⟨s.ledger, .cleared kind ((Injection.stopAll p.settings kind).run world s.ledger w).1,
        ((Injection.stopAll p.settings kind).run world s.ledger w).2.1⟩ := by
  simp only [entryOf, perform, stopAll, Dialogue.run_bind, run_onLedger, Dialogue.run_pure]

theorem entryOf_stopEverything :
    (p.entryOf world .stopEverything s w).1 =
      ⟨s.ledger, .clearedAll ((Injection.stopEverything p.settings).run world s.ledger w).1,
        ((Injection.stopEverything p.settings).run world s.ledger w).2.1⟩ := by
  simp only [entryOf, perform, stopEverything, Dialogue.run_bind, run_onLedger, Dialogue.run_pure]

theorem entryOf_sweep (kind : ResourceKind) (now : Instant) :
    (p.entryOf world (.sweep kind now) s w).1 =
      ⟨s.ledger, .swept kind ((Injection.sweep p.settings kind now).run world s.ledger w).1,
        ((Injection.sweep p.settings kind now).run world s.ledger w).2.1⟩ := by
  simp only [entryOf, perform, sweep, Dialogue.run_bind, run_onLedger, Dialogue.run_pure]

end

end FaultPlane.Plane
