import FaultPlane.Proofs.Dialogue.Calls
import FaultPlane.Proofs.Injection.Records
import FaultPlane.Proofs.Plane.Accounting

/-!
# Where tracked records come from

An operation on injected faults keeps a record as it is, takes it out, or adds the record of the
request that it has just carried out. So whatever is tracked after a run is the record of a request
that was accepted in the run, and says of it what such a record says (`tracked_records`).
-/

namespace FaultPlane.Plane

open Injection
open FaultPlane.Time (Instant)

/-! ### One operation -/

/-- The entry adds a record to the registry of a kind. -/
def Entry.Brings (catalog : Catalog) (kind : ResourceKind) (r : FaultRecord) (e : Entry) : Prop :=
  ∃ now request response plan, e.event = .applied now request response ∧
    response.success = true ∧ response.recordId = some r.id ∧ request.kind.resource = kind ∧
    request.plan catalog = .ok plan ∧ plan.record? request.kind e.before now = some r

section

variable {ω : Type} (p : Plane) (world : World ω) (s : State) (w : ω)
variable {kind : ResourceKind} {id : String} {r : FaultRecord}

theorem brings_apply (now : Instant) (request : Request)
    (found : ((p.entryOf world (.apply now request) s w).1.after.registry kind).get? id = some r) :
    (s.ledger.registry kind).get? id = some r ∨
      (p.entryOf world (.apply now request) s w).1.Brings p.catalog kind r := by
  rw [entryOf_apply] at found ⊢
  rcases run_apply_cases world p.settings now s.ledger w p.catalog request with
    ⟨-, same⟩ | ⟨plan, record, hplan, hrecord, hresponse, hregistry⟩
  · rw [same] at found
    exact Or.inl found
  · rw [hregistry] at found
    split at found
    · next hkind =>
      rw [Registry.get?_put] at found
      split at found
      · cases found
        have hid := plan.id_of_record? now request.kind s.ledger hrecord
        refine Or.inr ⟨now, request, _, plan, rfl, ?_, ?_, hkind.symm, hplan, hrecord⟩
        · rw [hresponse]
          rfl
        · rw [hresponse, hid]
          rfl
      · exact Or.inl found
    · exact Or.inl found

theorem get?_of_updateRegistry {α : Type} {l : Ledger} {k : ResourceKind}
    {f : Registry → α × Registry}
    (kept : (f (l.registry k)).2.get? id = some r → (l.registry k).get? id = some r)
    (found : ((l.updateRegistry k f).2.registry kind).get? id = some r) :
    (l.registry kind).get? id = some r := by
  rw [Ledger.registry_updateRegistry] at found
  split at found
  · next hkind =>
    rw [hkind]
    exact kept found
  · exact found

theorem kept_stop (fault : FaultKind) (name : String)
    (found : ((p.entryOf world (.stop fault name) s w).1.after.registry kind).get? id = some r) :
    (s.ledger.registry kind).get? id = some r := by
  rw [entryOf_stop] at found
  by_cases hblank : Text.trim name = ""
  · rw [run_stopRecord_blank world p.settings fault s.ledger w hblank] at found
    exact found
  by_cases hknown : Known fault s.ledger (Text.trim name)
  · cases hanswer : (deletion world p.settings fault.resource (Text.trim name) w).1 with
    | false =>
      rw [run_stopRecord_failed world p.settings fault s.ledger w hblank hknown hanswer] at found
      exact found
    | true =>
      rw [run_stopRecord_deleted world p.settings fault s.ledger w hblank hknown hanswer] at found
      dsimp only at found
      refine get?_of_updateRegistry (fun h => ?_) found
      rw [Registry.get?_remove] at h
      split at h
      · cases h
      · exact h
  · obtain ⟨untracked, foreign⟩ := not_or.1 hknown
    rw [run_stopRecord_foreign world p.settings fault s.ledger w hblank
      (Classical.not_not.1 untracked) (Bool.eq_false_iff.2 foreign)] at found
    exact found

theorem kept_stopAll (k : ResourceKind)
    (found : ((p.entryOf world (.stopAll k) s w).1.after.registry kind).get? id = some r) :
    (s.ledger.registry kind).get? id = some r := by
  rw [entryOf_stopAll] at found
  dsimp only at found
  rw [(run_stopAll world p.settings k s.ledger w).1, Ledger.registry_setRegistry] at found
  split at found
  · cases found
  · exact found

theorem kept_stopEverything
    (found : ((p.entryOf world .stopEverything s w).1.after.registry kind).get? id = some r) :
    (s.ledger.registry kind).get? id = some r := by
  rw [entryOf_stopEverything] at found
  dsimp only at found
  rw [(run_stopEverything world p.settings s.ledger w).2.1] at found
  cases found

theorem kept_sweep (k : ResourceKind) (now : Instant)
    (found : ((p.entryOf world (.sweep k now) s w).1.after.registry kind).get? id = some r) :
    (s.ledger.registry kind).get? id = some r := by
  rw [entryOf_sweep] at found
  dsimp only at found
  rw [(run_sweep world p.settings k now s.ledger w).1] at found
  refine get?_of_updateRegistry (fun h => ?_) found
  rw [Registry.get?_removeIf] at h
  exact (Option.filter_eq_some_iff.1 h).1

/-- A record that is tracked after an operation was tracked before, or the operation has brought
it. -/
theorem brings_entryOf (op : Operation)
    (found : ((p.entryOf world op s w).1.after.registry kind).get? id = some r) :
    (s.ledger.registry kind).get? id = some r ∨
      (p.entryOf world op s w).1.Brings p.catalog kind r := by
  cases op with
  | apply now request => exact p.brings_apply world s w now request found
  | stop fault name => exact Or.inl (p.kept_stop world s w fault name found)
  | stopAll k => exact Or.inl (p.kept_stopAll world s w k found)
  | stopEverything => exact Or.inl (p.kept_stopEverything world s w found)
  | sweep k now => exact Or.inl (p.kept_sweep world s w k now found)

/-! ### A run -/

/-- A record that is tracked after a run was tracked before, or an operation of the run has brought
it, with the clock not below zero. -/
theorem brings_history (ops : List Operation) (sound : s.ledger.Sound)
    (found : ((p.history world ops s w).2.1.ledger.registry kind).get? id = some r) :
    (s.ledger.registry kind).get? id = some r ∨
      ∃ e ∈ (p.history world ops s w).1, e.Brings p.catalog kind r ∧ e.before.Sound := by
  induction ops generalizing s w with
  | nil => exact Or.inl found
  | cons op ops ih =>
    have hsound := (p.accounted_entryOf world s w sound op).sound_after sound
    rcases ih _ _ hsound found with before | ⟨e, member, brings⟩
    · rcases p.brings_entryOf world s w op before with earlier | brings
      · exact Or.inl earlier
      · exact Or.inr ⟨_, List.mem_cons_self, brings, sound⟩
    · exact Or.inr ⟨e, List.mem_cons_of_mem _ member, brings⟩

/-- Whether a request was carried out in a run, under an id. -/
def Accepted (entries : List Entry) (id : String) (request : Request) : Prop :=
  ∃ e ∈ entries, ∃ now response, e.event = .applied now request response ∧
    response.success = true ∧ response.recordId = some id

end

/-- Whatever a control plane is asked to do from its start on, every record that it tracks stands
under its own id, is proper, and says what belongs to its kind of resource and its request. -/
theorem tracked_records {ω : Type} (p : Plane) (world : World ω) (ops : List Operation) (w : ω)
    {kind : ResourceKind} {id : String} {r : FaultRecord}
    (found : ((p.history world ops {} w).2.1.ledger.registry kind).get? id = some r) :
    r.id = id ∧ r.Proper ∧ r.Belongs (Accepted (p.history world ops {} w).1 id) kind := by
  have hid : r.id = id := Registry.keyed _ found
  rcases p.brings_history world {} w ops Ledger.sound_empty found with
    old | ⟨e, member, brought, sound⟩
  · cases kind <;> cases old
  · obtain ⟨now, request, response, plan, hevent, hsuccess, hnamed, rfl, planned, hrecord⟩ := brought
    rw [hid] at hnamed
    have accepted : Accepted (p.history world ops {} w).1 id request :=
      ⟨e, member, now, response, hevent, hsuccess, hnamed⟩
    exact ⟨hid, plan.proper_of_record? planned sound.last_nonneg hrecord,
      plan.belongs_of_record? planned hrecord accepted⟩

/-! Two and a half seconds of latency for a service are kept as two seconds. -/

def seatPlane : Plane := ⟨{}, { services := [{ name := "ts-seat" }] }⟩

def seatOperations : List Operation :=
  [.apply ⟨1, 0⟩ <| .jvmLatency
    { target := { service := "ts-seat", methodName := some "seats", durationMinutes := some 5 },
      latencyMs := some 2500 }]

def seatRecord : FaultRecord :=
  ⟨"jvm-latency-seat-1000", "ts-seat", .jvmLatency, 2, 5, ⟨1, 0⟩, ⟨301, 0⟩, .active⟩

theorem tracked_records_seat :
    let run := seatPlane.history (World.accepting fun _ => []) seatOperations {} ()
    (run.2.1.ledger.registry .jvmChaos).get? "jvm-latency-seat-1000" = some seatRecord ∧
      seatRecord.Proper ∧
      seatRecord.Belongs (Accepted run.1 "jvm-latency-seat-1000") .jvmChaos := by
  intro run
  have found :
      (run.2.1.ledger.registry .jvmChaos).get? "jvm-latency-seat-1000" = some seatRecord := by rfl
  exact ⟨found, (seatPlane.tracked_records _ seatOperations () found).2⟩

end FaultPlane.Plane
