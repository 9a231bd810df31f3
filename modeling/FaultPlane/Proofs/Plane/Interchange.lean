import FaultPlane.Proofs.Injection.IdNames
import FaultPlane.Proofs.Plane.Provenance
import FaultPlane.Proofs.Plane.Stopping

/-!
# Stops that can stand for each other

An id belongs to both kinds of JVM fault or to neither, although each of them looks for a prefix in
a way of its own, and it never belongs to network faults as well. So a JVM fault can be stopped as
either kind: the same call is made, the same record is taken out, and only the words of the answer
tell which kind it was (`jvm_stops_interchangeable`).
-/

namespace FaultPlane

open Injection
open FaultPlane.Time (Instant)

namespace Injection

/-- The same problem, met by a stop of another kind of fault. -/
def StopProblem.metBy (kind : FaultKind) : StopProblem → StopProblem
  | .foreign id _ => .foreign id kind
  | problem => problem

/-- Stops of kinds with the same resources are one dialogue, but for the kind that a refusal names.
So they have the same effect whatever goes on beside them. -/
theorem stopRecord_eq_bind (settings : InjectionSettings) {kind kind' : FaultKind}
    (same : kind.resource = kind'.resource) (name : String) :
    stopRecord settings kind' name =
      stopRecord settings kind name >>= fun result => pure (result.mapError (·.metBy kind')) := by
  unfold stopRecord
  dsimp only
  rw [← same, ← FaultKind.owns_congr same]
  split
  · rfl
  · refine congrArg (Dialogue.step id) (funext fun l => ?_)
    dsimp only [Dialogue.andThen]
    split
    · rfl
    · refine congrArg (Dialogue.ask _) (funext fun deleted => ?_)
      cases deleted <;> rfl

/-- What a response says besides its words. -/
def ActionResponse.content (r : ActionResponse) : Bool × Option String × Option String :=
  (r.success, r.recordId, r.service)

theorem content_stopResponse (kind kind' : FaultKind)
    (result : Except StopProblem (Option FaultRecord)) :
    (stopResponse kind' (result.mapError (·.metBy kind'))).content =
      (stopResponse kind result).content := by
  cases result with
  | ok found => cases found <;> rfl
  | error problem => cases problem <;> rfl

end Injection

namespace Plane

/-- What two stops of one name have in common if they are for kinds of fault with the same
resources: the exchanges, whatever they leave behind, and the answer but for its words. -/
structure Interchanged {ω : Type} (p : Plane) (kind kind' : FaultKind) (name : String)
    (world : World ω) (s : State) (w : ω) : Prop where
  exchanges : (p.stop kind' name).transcript world s w = (p.stop kind name).transcript world s w
  after : ((p.stop kind' name).run world s w).2 = ((p.stop kind name).run world s w).2
  result : ((p.stopRecord kind' name).run world s w).1 =
    ((p.stopRecord kind name).run world s w).1.mapError (·.metBy kind')
  response : ((p.stop kind' name).run world s w).1.content =
    ((p.stop kind name).run world s w).1.content

theorem interchanged {ω : Type} (p : Plane) {kind kind' : FaultKind}
    (same : kind.resource = kind'.resource) (name : String) (world : World ω) (s : State) (w : ω) :
    p.Interchanged kind kind' name world s w := by
  have hrun : (p.stopRecord kind' name).run world s w =
      (((p.stopRecord kind name).run world s w).1.mapError (·.metBy kind'),
        ((p.stopRecord kind name).run world s w).2) := by
    rw [run_stopRecord, run_stopRecord, stopRecord_eq_bind p.settings same]
    simp only [Dialogue.run_bind, Dialogue.run_pure]
  constructor
  · rw [transcript_stop, transcript_stop, stopRecord_eq_bind p.settings same]
    simp only [Dialogue.transcript_bind, Dialogue.transcript_pure, List.append_nil]
  · rw [run_stop, run_stop, hrun]
  · rw [hrun]
  · rw [run_stop, run_stop, hrun]
    dsimp only
    exact content_stopResponse kind kind' _

/-- The id that an apply reports belongs to the kind of fault that was asked for. -/
theorem owns_of_reported {ω : Type} (p : Plane) (world : World ω) (s : State) (w : ω)
    (now : Instant) (request : Request) {id : String}
    (reported : ((p.apply now request).run world s w).1.recordId = some id) :
    request.kind.owns id = true := by
  rw [apply, run_onLedger] at reported
  cases hplan : request.plan p.catalog with
  | error problem =>
    rw [run_apply_rejected world p.settings now s.ledger w hplan] at reported
    cases reported
  | ok plan =>
    dsimp only at reported
    rw [recordId_apply world p.settings now s.ledger w hplan] at reported
    obtain ⟨record, -, rfl⟩ := Option.map_eq_some_iff.1 reported
    exact FaultKind.owns_recordId rfl plan.idFragment _

/-- Both kinds of JVM fault own the same ids, of which network faults own none, and whatever an apply
issues belongs to its own kind. A JVM fault can be stopped as either kind, whatever is tracked and
whatever the cluster answers. -/
theorem jvm_stops_interchangeable (p : Plane) :
    (∀ id, FaultKind.jvmException.owns id = FaultKind.jvmLatency.owns id) ∧
      (∀ id, FaultKind.networkDelay.owns id = true →
        FaultKind.jvmException.owns id = false ∧ FaultKind.jvmLatency.owns id = false) ∧
      (∀ (s : State) (now : Instant) (request : Request),
        (∀ plan, request.plan p.catalog = .ok plan →
          request.kind.owns (plan.recordId request.kind s.ledger now) = true) ∧
        ∀ {ω : Type} (world : World ω) (w : ω) (id : String),
          ((p.apply now request).run world s w).1.recordId = some id →
            request.kind.owns id = true) ∧
      ∀ {ω : Type} (world : World ω) (s : State) (w : ω) (name : String),
        p.Interchanged .jvmException .jvmLatency name world s w := by
  have apart : ∀ {id : String} (kind : FaultKind), kind.resource = .jvmChaos →
      FaultKind.networkDelay.owns id = true → kind.owns id = false := by
    intro id kind hkind hnetwork
    refine Bool.eq_false_iff.2 fun hjvm => ?_
    cases (FaultKind.resource_of_owns hnetwork hjvm).trans hkind
  refine ⟨FaultKind.owns_congr rfl, ?_, ?_, ?_⟩
  · exact fun id hnetwork => ⟨apart _ rfl hnetwork, apart _ rfl hnetwork⟩
  · intro s now request
    refine ⟨fun plan _ => FaultKind.owns_recordId rfl plan.idFragment _, ?_⟩
    exact fun world w id => p.owns_of_reported world s w now request
  · intro ω world s w name
    have same : FaultKind.jvmException.resource = FaultKind.jvmLatency.resource := rfl
    exact p.interchanged same name world s w

/-- The latency of the service of seats is stopped as an exception, just as it would be as a
latency. -/
theorem jvm_stops_interchangeable_seat :
    let world := World.accepting fun _ => []
    let applied := (seatPlane.apply ⟨1, 0⟩ (slowService "ts-seat")).run world {} ()
    applied.1.recordId = some "jvm-latency-seat-1000" ∧
      FaultKind.jvmLatency.owns "jvm-latency-seat-1000" = true ∧
      FaultKind.networkDelay.owns "network-delay-seat-1" = true ∧
      FaultKind.jvmException.owns "network-delay-seat-1" = false ∧
      ∀ kind ∈ [FaultKind.jvmException, FaultKind.jvmLatency],
        ((seatPlane.stopRecord kind "jvm-latency-seat-1000").run world applied.2.1 ()).1 =
          .ok (some { seatRecord with status := .stopped }) := by
  intro world applied
  obtain ⟨-, hapart, hissued, hstops⟩ := seatPlane.jvm_stops_interchangeable
  have reported : applied.1.recordId = some "jvm-latency-seat-1000" := by rfl
  have owned := (hissued {} ⟨1, 0⟩ (slowService "ts-seat")).2 world () _ reported
  have network : FaultKind.networkDelay.owns "network-delay-seat-1" = true := by rfl
  have found : (applied.2.1.ledger.registry .jvmChaos).get? "jvm-latency-seat-1000" =
      some seatRecord := by rfl
  have taken :
      ((seatPlane.stopRecord .jvmException "jvm-latency-seat-1000").run world applied.2.1 ()).1 =
        .ok (some { seatRecord with status := .stopped }) := by
    rfl
  have hresult := (hstops world applied.2.1 () "jvm-latency-seat-1000").result
  rw [taken, Except.mapError] at hresult
  refine ⟨reported, owned, network, (hapart _ network).1, ?_⟩
  rw [List.forall_mem_cons, List.forall_mem_singleton]
  exact ⟨taken, hresult⟩

end Plane

end FaultPlane
