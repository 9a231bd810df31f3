import FaultPlane.Proofs.Injection.Records
import FaultPlane.Proofs.Injection.Tracking
import FaultPlane.Proofs.Plane.Applying

/-!
# Stopping one fault

A stop is refused without a call if its name is blank, or if no fault is tracked under the name and
none of its kind can have it. Otherwise the cluster is asked once to delete the resource, and if it
is gone, the record of that name is taken out and no other. So the fault of an apply can be stopped
under its id, with or without blanks around it, and stopping it again does no harm (`stop_atomic`).
-/

namespace FaultPlane

open Injection
open Dialogue (Exchange)
open Text (Padded allBlank)
open FaultPlane.Time (Instant)

namespace Injection

/-- Nothing but one record is missing in a later ledger. -/
structure Ledger.Loses (l l' : Ledger) (r : Resource) : Prop where
  clock : l'.clock = l.clock
  get? : ∀ kind id, (l'.registry kind).get? id =
    if kind = r.1 ∧ id = r.2 then none else (l.registry kind).get? id

theorem Ledger.loses_forget (l : Ledger) (r : Resource) : l.Loses (l.forget r) r := by
  refine ⟨l.clock_forget r, fun kind id => ?_⟩
  rw [Ledger.forget, Ledger.registry_updateRegistry]
  by_cases hkind : kind = r.1
  · subst hkind
    rw [if_pos rfl, Registry.get?_remove]
    by_cases hid : id = r.2 <;> simp [hid]
  · simp [hkind]

theorem Ledger.forget_of_untracked {l : Ledger} {r : Resource}
    (h : (l.registry r.1).get? r.2 = none) : l.forget r = l := by
  show l.setRegistry r.1 ((l.registry r.1).remove r.2).2 = l
  rw [Registry.remove_of_untracked h, Ledger.setRegistry_registry]

/-- An id is known to every stop for the kind of resource that it was made for. -/
theorem known_recordId {kind fault : FaultKind} (same : kind.resource = fault.resource)
    (l : Ledger) (fragment : String) (n : Int) : Known kind l (recordId fault fragment n) :=
  Or.inr (FaultKind.owns_recordId same fragment n)

theorem recordId_ne_empty (kind : FaultKind) (fragment : String) (n : Int) :
    recordId kind fragment n ≠ "" := by
  simp [recordId]

/-- Names that are trimmed to the same text are stopped alike. -/
theorem stopRecord_congr (settings : InjectionSettings) (kind : FaultKind) {name name' : String}
    (h : Text.trim name = Text.trim name') :
    stopRecord settings kind name = stopRecord settings kind name' := by
  unfold stopRecord
  rw [h]

end Injection

namespace Plane

/-- What a stop does to a control plane, with its result, its response and the exchanges that it
has. -/
structure Stopped (p : Plane) (kind : FaultKind) (name : String) (s s' : State)
    (result : Except StopProblem (Option FaultRecord)) (response : ActionResponse)
    (exchanges : List Exchange) : Prop where
  answered : response = stopResponse kind result
  succeeded : response.success = true ↔ ∃ found, result = .ok found
  blank : allBlank name = true → exchanges = [] ∧ s' = s ∧ result = .error .nameMissing
  foreign : ∀ id, Padded name id → id ≠ "" → ¬ Known kind s.ledger id →
    exchanges = [] ∧ s' = s ∧ result = .error (.foreign id kind)
  asked : ∀ id, Padded name id → id ≠ "" → Known kind s.ledger id →
    ∃ deleted,
      exchanges = [⟨.cluster (.delete kind.resource id p.settings.namespaceName), deleted⟩] ∧
      (deleted = false → s' = s ∧ result = .error (.notDeleted kind.resource id)) ∧
      (deleted = true → s.ledger.Loses s'.ledger (kind.resource, id) ∧
        s'.directory = s.directory ∧
        result = .ok (((s.ledger.registry kind.resource).get? id).map fun r =>
          { r with status := .stopped }))

/-- What can be done about a fault under its id. -/
structure Stoppable (p : Plane) (resource : ResourceKind) (id : String) : Prop where
  padding : ∀ kind front back, allBlank front = true → allBlank back = true →
    p.stop kind (front ++ id ++ back) = p.stop kind id ∧
      p.stopRecord kind (front ++ id ++ back) = p.stopRecord kind id
  stops : ∀ {ω : Type} (world : World ω) (s s' s'' : State) (w w' w'' : ω) (kind : FaultKind)
    (response response' : ActionResponse), kind.resource = resource →
    (p.stop kind id).run world s w = (response, s', w') →
    (p.stop kind id).run world s' w' = (response', s'', w'') →
    (deletion world p.settings resource id w).1 = true →
      response.success = true ∧ s.ledger.Loses s'.ledger (resource, id) ∧ s'' = s' ∧
        ((deletion world p.settings resource id w').1 = true → response'.success = true)

section

variable {ω : Type} (p : Plane) (world : World ω) (kind : FaultKind) (name : String) (s : State)
  (w : ω)

theorem run_stopRecord :
    (p.stopRecord kind name).run world s w =
      (((Injection.stopRecord p.settings kind name).run world s.ledger w).1,
        { s with
          ledger := ((Injection.stopRecord p.settings kind name).run world s.ledger w).2.1 },
        ((Injection.stopRecord p.settings kind name).run world s.ledger w).2.2) :=
  run_onLedger world _ s w

theorem run_stop :
    (p.stop kind name).run world s w =
      (stopResponse kind ((p.stopRecord kind name).run world s w).1,
        ((p.stopRecord kind name).run world s w).2) := by
  rw [run_stopRecord, stop, run_onLedger, Injection.run_stop]

theorem transcript_stop :
    (p.stop kind name).transcript world s w =
      (Injection.stopRecord p.settings kind name).transcript world s.ledger w := by
  rw [stop, transcript_onLedger, Injection.transcript_stop]

theorem stopped :
    p.Stopped kind name s ((p.stop kind name).run world s w).2.1
      ((p.stopRecord kind name).run world s w).1 ((p.stop kind name).run world s w).1
      ((p.stop kind name).transcript world s w) := by
  rw [run_stop, transcript_stop, run_stopRecord]
  dsimp only
  refine ⟨rfl, success_stopResponse kind, ?_, ?_, ?_⟩
  · intro blank
    have hname := Text.trim_eq_empty_iff.2 blank
    rw [run_stopRecord_blank world p.settings kind s.ledger w hname,
      transcript_stopRecord_blank world p.settings kind s.ledger w hname]
    exact ⟨rfl, rfl, rfl⟩
  · intro id padded hid hknown
    obtain rfl := Text.trim_eq_iff.2 padded
    obtain ⟨untracked, foreign⟩ := not_or.1 hknown
    have huntracked := Classical.not_not.1 untracked
    have hforeign := Bool.eq_false_iff.2 foreign
    rw [run_stopRecord_foreign world p.settings kind s.ledger w hid huntracked hforeign,
      transcript_stopRecord_foreign world p.settings kind s.ledger w hid huntracked hforeign]
    exact ⟨rfl, rfl, rfl⟩
  · intro id padded hid hknown
    obtain rfl := Text.trim_eq_iff.2 padded
    rw [transcript_stopRecord world p.settings kind s.ledger w hid hknown]
    refine ⟨(deletion world p.settings kind.resource (Text.trim name) w).1, rfl, ?_, ?_⟩
    · intro failed
      rw [run_stopRecord_failed world p.settings kind s.ledger w hid hknown failed]
      exact ⟨rfl, rfl⟩
    · intro deleted
      rw [run_stopRecord_deleted world p.settings kind s.ledger w hid hknown deleted]
      exact ⟨s.ledger.loses_forget (kind.resource, Text.trim name), rfl, rfl⟩

/-- A stop that is not refused does what the cluster answers to its call. -/
theorem run_stop_known {id : String} (bare : Text.trim name = id) (named : id ≠ "")
    (known : Known kind s.ledger id) :
    ((p.stop kind name).run world s w).1.success =
        (deletion world p.settings kind.resource id w).1 ∧
      ((p.stop kind name).run world s w).2.1 =
        if (deletion world p.settings kind.resource id w).1 then
          { s with ledger := s.ledger.forget (kind.resource, id) }
        else s := by
  subst bare
  rw [run_stop, run_stopRecord]
  cases hanswer : (deletion world p.settings kind.resource (Text.trim name) w).1 with
  | false =>
    rw [run_stopRecord_failed world p.settings kind s.ledger w named known hanswer]
    exact ⟨rfl, rfl⟩
  | true =>
    rw [run_stopRecord_deleted world p.settings kind s.ledger w named known hanswer]
    exact ⟨(success_stopResponse kind).2 ⟨_, rfl⟩, rfl⟩

theorem run_stop_untracked {id : String} (bare : Text.trim name = id) (named : id ≠ "")
    (known : Known kind s.ledger id)
    (untracked : (s.ledger.registry kind.resource).get? id = none) :
    ((p.stop kind name).run world s w).2.1 = s := by
  have hforget : s.ledger.forget (kind.resource, id) = s.ledger :=
    Ledger.forget_of_untracked untracked
  rw [(p.run_stop_known world kind name s w bare named known).2, hforget]
  exact ite_self s

end

theorem stoppable_recordId (p : Plane) (fault : FaultKind) (fragment : String) (n : Int) :
    p.Stoppable fault.resource (recordId fault fragment n) := by
  have named := recordId_ne_empty fault fragment n
  have bare := Text.trim_of_unpadded (unpadded_recordId fault fragment n)
  generalize hid : recordId fault fragment n = id at named bare
  constructor
  · intro kind front back hfront hback
    have hrecord := stopRecord_congr p.settings kind (Text.trim_surround hfront hback id)
    refine ⟨?_, congrArg onLedger hrecord⟩
    rw [stop, Injection.stop, hrecord, stop, Injection.stop]
  · intro ω world s s' s'' w w' w'' kind response response' same hfirst hagain confirmed
    have known : ∀ l, Known kind l id := fun l => hid ▸ known_recordId same l fragment n
    rw [← same] at confirmed ⊢
    obtain ⟨hsuccess, hstate⟩ := p.run_stop_known world kind id s w bare named (known s.ledger)
    rw [hfirst, confirmed] at hsuccess hstate
    have hloses : s.ledger.Loses s'.ledger (kind.resource, id) := by
      obtain rfl : s' = { s with ledger := s.ledger.forget (kind.resource, id) } := hstate
      exact s.ledger.loses_forget (kind.resource, id)
    -- The record is gone after the first stop, so there is nothing left to forget.
    have hgone : (s'.ledger.registry kind.resource).get? id = none :=
      (hloses.get? kind.resource id).trans (if_pos ⟨rfl, rfl⟩)
    have hunchanged := p.run_stop_untracked world kind id s' w' bare named (known s'.ledger) hgone
    have hanswer := (p.run_stop_known world kind id s' w' bare named (known s'.ledger)).1
    rw [hagain] at hunchanged hanswer
    exact ⟨hsuccess, hloses, hunchanged, fun confirmed' => hanswer.trans confirmed'⟩

/-- A successful apply names the id that it has made, and there is a record under it. -/
theorem tracked_of_applied {ω : Type} (p : Plane) (world : World ω) (s : State) (w : ω)
    (now : Instant) (request : Request) {id : String}
    (success : ((p.apply now request).run world s w).1.success = true)
    (named : ((p.apply now request).run world s w).1.recordId = some id) :
    (∃ fragment number, recordId request.kind fragment number = id) ∧
      ∃ record, (((p.apply now request).run world s w).2.1.ledger.registry
        request.kind.resource).get? id = some record := by
  unfold apply at success named ⊢
  rw [run_onLedger] at success named ⊢
  rcases run_apply_cases world p.settings now s.ledger w p.catalog request with
    ⟨failed, -⟩ | ⟨plan, record, -, hrecord, hresponse, hregistry⟩
  · cases failed.symm.trans success
  · rw [hresponse] at named
    obtain rfl : plan.recordId request.kind s.ledger now = id := Option.some.inj named
    have hid := plan.id_of_record? now request.kind s.ledger hrecord
    refine ⟨⟨plan.idFragment, (s.ledger.issue now).1, rfl⟩, record, ?_⟩
    rw [hregistry, if_pos rfl, Registry.get?_put, if_pos hid.symm]

/-- A stop asks the cluster once at most and takes out one record at most. What a successful apply
has tracked can be stopped under its id, whatever blanks are around it and however often. -/
theorem stop_atomic {ω : Type} (p : Plane) (world : World ω) (s : State) (w : ω) :
    (∀ kind name, p.Stopped kind name s ((p.stop kind name).run world s w).2.1
        ((p.stopRecord kind name).run world s w).1 ((p.stop kind name).run world s w).1
        ((p.stop kind name).transcript world s w)) ∧
      ∀ now request id, ((p.apply now request).run world s w).1.success = true →
        ((p.apply now request).run world s w).1.recordId = some id →
        (∃ record, (((p.apply now request).run world s w).2.1.ledger.registry
            request.kind.resource).get? id = some record) ∧
          p.Stoppable request.kind.resource id := by
  refine ⟨fun kind name => p.stopped world kind name s w, fun now request id success named => ?_⟩
  obtain ⟨⟨fragment, number, rfl⟩, htracked⟩ :=
    p.tracked_of_applied world s w now request success named
  exact ⟨htracked, p.stoppable_recordId request.kind fragment number⟩

theorem stop_atomic_checkout :
    let p : Plane := ⟨{}, {}⟩
    let world := World.accepting fun _ => []
    let id := "network-delay-checkout-1000"
    let applied := (p.apply ⟨1, 0⟩ delayCheckout).run world {} ()
    let stopped := (p.stop .networkDelay ("  " ++ id ++ " ")).run world applied.2.1 ()
    applied.1.success = true ∧ applied.1.recordId = some id ∧
      applied.2.1.ledger.network.get? id ≠ none ∧ stopped.1.success = true ∧
      stopped.2.1.ledger.network.get? id = none := by
  intro p world id applied stopped
  have success : applied.1.success = true := by rfl
  have named : applied.1.recordId = some id := by rfl
  obtain ⟨⟨record, htracked⟩, stoppable⟩ :=
    (p.stop_atomic world {} ()).2 ⟨1, 0⟩ delayCheckout id success named
  have tracked : applied.2.1.ledger.network.get? id ≠ none :=
    Option.ne_none_iff_exists'.2 ⟨record, htracked⟩
  have hname := (stoppable.padding .networkDelay "  " " " (by decide) (by decide)).1
  have hrun : (p.stop .networkDelay id).run world applied.2.1 () = stopped :=
    congrArg (Dialogue.run world · applied.2.1 ()) hname.symm
  have confirmed : (deletion world p.settings .networkChaos id ()).1 = true := by rfl
  clear_value applied stopped
  obtain ⟨response, s', w'⟩ := stopped
  rcases hagain : (p.stop .networkDelay id).run world s' w' with ⟨response', s'', w''⟩
  obtain ⟨hsuccess, hloses, -⟩ := stoppable.stops world applied.2.1 s' s'' () w' w'' .networkDelay
    response response' rfl hrun hagain confirmed
  exact ⟨success, named, tracked, hsuccess,
    (hloses.get? .networkChaos id).trans (if_pos ⟨rfl, rfl⟩)⟩

end Plane

end FaultPlane
