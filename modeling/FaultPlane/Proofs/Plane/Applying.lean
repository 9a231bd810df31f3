import FaultPlane.Proofs.Plane.Soundness

/-!
# Applying wholly or not at all

An apply has four exits. A request that cannot be planned changes nothing, and one whose fault would
end outside the calendar does not get to the cluster either. Otherwise the cluster is asked once. If
it refuses, no registry changes. If it accepts, the fault is tracked under a new id and every other
record stays as it is (`apply_atomic`).
-/

namespace FaultPlane

open Injection
open Dialogue (Exchange)
open FaultPlane.Time (Instant)

namespace Plane

/-- What an apply does to a control plane, with the response that it gives and the exchanges that it
has. -/
structure Applied (p : Plane) (now : Instant) (request : Request) (s s' : State)
    (response : ActionResponse) (exchanges : List Exchange) : Prop where
  rejected : ∀ problem, request.plan p.catalog = .error problem →
    exchanges = [] ∧ s' = s ∧ response = .failure problem.message
  outOfRange : ∀ plan, request.plan p.catalog = .ok plan →
    now.plusMinutes? plan.durationMinutes.toNat = none →
    exchanges = [] ∧ (∀ kind, s'.ledger.registry kind = s.ledger.registry kind) ∧
      response.success = false
  attempted : ∀ plan endTime, request.plan p.catalog = .ok plan →
    now.plusMinutes? plan.durationMinutes.toNat = some endTime →
    ∃ id number outcome, id = recordId request.kind plan.idFragment number ∧
      exchanges = [⟨.cluster (.apply (plan.manifest p.settings id number)), outcome⟩] ∧
      response.success = outcome.success ∧ response.recordId = some id ∧
      (outcome.success = false → ∀ kind, s'.ledger.registry kind = s.ledger.registry kind) ∧
      (outcome.success = true →
        (s.ledger.registry request.kind.resource).get? id = none ∧
        (s'.ledger.registry request.kind.resource).size =
          (s.ledger.registry request.kind.resource).size + 1 ∧
        ∀ kind k, (s'.ledger.registry kind).get? k =
          if kind = request.kind.resource ∧ k = id then
            some
              { id := id
                service := plan.service
                kind := request.kind
                delaySeconds := plan.delaySeconds
                durationMinutes := plan.durationMinutes
                startTime := now
                endTime := endTime
                status := .active }
          else (s.ledger.registry kind).get? k)
  directory : s'.directory = s.directory

section

variable {ω : Type} (p : Plane) (world : World ω) (now : Instant) (request : Request) (s : State)
  (w : ω)

theorem get?_track (l : Ledger) (kind k : ResourceKind) (record : FaultRecord) (id : String) :
    (((l.issue now).2.updateRegistry kind fun r => ((), r.put record)).2.registry k).get? id =
      if k = kind ∧ id = record.id then some record else (l.registry k).get? id := by
  rw [Ledger.registry_updateRegistry]
  by_cases hk : k = kind
  · subst hk
    rw [if_pos rfl, Registry.get?_put, Ledger.registry_issue]
    by_cases hid : id = record.id <;> simp [hid]
  · simp [hk]

theorem size_track (l : Ledger) {kind : ResourceKind} {record : FaultRecord}
    (fresh : record.id ∉ (l.registry kind).ids) :
    (((l.issue now).2.updateRegistry kind fun r => ((), r.put record)).2.registry kind).size =
      (l.registry kind).size + 1 := by
  have hperm := ids_after_apply l now fresh kind
  rw [if_pos rfl] at hperm
  have hlength := hperm.length_eq
  rwa [Registry.length_ids, List.length_append, Registry.length_ids] at hlength

theorem applied_of_sound (sound : s.ledger.Sound) :
    p.Applied now request s ((p.apply now request).run world s w).2.1
      ((p.apply now request).run world s w).1 ((p.apply now request).transcript world s w) := by
  unfold apply
  rw [run_onLedger, transcript_onLedger]
  refine ⟨?_, ?_, ?_, rfl⟩
  · intro problem hplan
    rw [run_apply_rejected world p.settings now s.ledger w hplan,
      transcript_apply_rejected world p.settings now s.ledger w hplan]
    exact ⟨rfl, rfl, rfl⟩
  · intro plan hplan hend
    have hrecord : plan.record? request.kind s.ledger now = none := by
      rw [Plan.record?, FaultRecord.active?, hend, Option.map_none]
    rw [transcript_apply world p.settings now s.ledger w hplan, hrecord,
      apply_planned p.settings now hplan,
      run_inject_outOfRange world p.settings now request.kind plan s.ledger w hrecord]
    exact ⟨rfl, s.ledger.registry_issue now, rfl⟩
  · intro plan endTime hplan hend
    have hrecord : plan.record? request.kind s.ledger now =
        some ⟨plan.recordId request.kind s.ledger now, plan.service, request.kind,
          plan.delaySeconds, plan.durationMinutes, now, endTime, .active⟩ := by
      rw [Plan.record?, FaultRecord.active?, hend, Option.map_some]
    have hfresh : plan.recordId request.kind s.ledger now ∉
        (s.ledger.registry request.kind.resource).ids :=
      sound.untracked now request.kind plan.idFragment request.kind.resource
    rw [transcript_apply world p.settings now s.ledger w hplan, hrecord,
      apply_planned p.settings now hplan]
    refine ⟨plan.recordId request.kind s.ledger now, (s.ledger.issue now).1,
      (plan.attempt world p.settings request.kind s.ledger now w).1, rfl, rfl, ?_⟩
    cases hanswer : (plan.attempt world p.settings request.kind s.ledger now w).1.success with
    | false =>
      rw [run_inject_refused world p.settings now request.kind plan s.ledger w hrecord hanswer]
      refine ⟨rfl, rfl, fun _ => s.ledger.registry_issue now, ?_⟩
      intro accepted
      cases accepted
    | true =>
      rw [run_inject_accepted world p.settings now request.kind plan s.ledger w hrecord hanswer]
      refine ⟨rfl, rfl, ?_, fun _ => ⟨?_, ?_, ?_⟩⟩
      · intro refused
        cases refused
      · refine Option.eq_none_iff_forall_ne_some.2 ?_
        intro record found
        exact hfresh ((Registry.mem_ids_iff _).2 ⟨record, found⟩)
      · exact size_track now s.ledger hfresh
      · intro kind k
        exact get?_track now s.ledger request.kind.resource kind _ k

end

/-- Whatever operations a control plane has carried out or is still busy with, whatever its services
and its cluster answer and whatever the time is, an apply is carried out wholly or not at all. -/
theorem apply_atomic {p : Plane} {reached : State} {tasks : List (Task Operation State Event)}
    (before : Concurrent p.perform {} reached tasks) (directory : Discovery.Directory) {ω : Type}
    (world : World ω) (w : ω) (now : Instant) (request : Request) :
    let s : State := { reached with directory }
    p.Applied now request s ((p.apply now request).run world s w).2.1
      ((p.apply now request).run world s w).1 ((p.apply now request).transcript world s w) := by
  have hsound := p.sound_of_concurrent before
  exact p.applied_of_sound world now request _ w hsound

/-! Two faults of the service checkout that are injected at the same time get ids of their own. -/

def delayCheckout : Request :=
  .networkDelay { service := "checkout", delaySeconds := some 10, durationMinutes := some 5 }

theorem apply_atomic_checkout :
    let p : Plane := ⟨{}, {}⟩
    let second : FaultRecord :=
      ⟨"network-delay-checkout-1001", "checkout", .networkDelay, 10, 5, ⟨1, 0⟩, ⟨301, 0⟩, .active⟩
    ∃ s task, Concurrent p.perform {} s [task] ∧ task.had = [] ∧ s.ledger.clock.last = 1000 ∧
      let run := (p.apply ⟨1, 0⟩ delayCheckout).run (World.accepting fun _ => []) s ()
      run.1.recordId = some second.id ∧ s.ledger.network.get? second.id = none ∧
        run.2.1.ledger.network.size = s.ledger.network.size + 1 ∧
        run.2.1.ledger.network.get? second.id = some second := by
  intro p second
  let first : Operation := .apply ⟨1, 0⟩ delayCheckout
  have started : Concurrent p.perform {} {} [⟨first, [], p.perform first⟩] :=
    Concurrent.init.start first
  -- The first apply has its id, and the cluster has not answered it yet.
  have issued := started.step (n := 0) rfl
  refine ⟨_, _, issued, rfl, rfl, ?_⟩
  intro run
  have planned : delayCheckout.plan p.catalog =
      .ok ⟨"checkout", "checkout", 10, 5, .network "checkout" "checkout"⟩ := by rfl
  have hid : run.1.recordId = some second.id := by rfl
  have hsuccess : run.1.success = true := by rfl
  obtain ⟨id, number, outcome, -, -, houtcome, hreported, -, haccepted⟩ :=
    (apply_atomic issued {} (World.accepting fun _ => []) () ⟨1, 0⟩ delayCheckout).attempted _
      ⟨301, 0⟩ planned (by rfl)
  obtain rfl : second.id = id := Option.some.inj (hid.symm.trans hreported)
  obtain ⟨hnew, hsize, hget⟩ := haccepted (houtcome.symm.trans hsuccess)
  exact ⟨hid, hnew, hsize, (hget .networkChaos second.id).trans (if_pos ⟨rfl, rfl⟩)⟩

end Plane

end FaultPlane
