import FaultPlane.Injection.Injector
import FaultPlane.Proofs.Dialogue.Calls

/-!
# What one operation does

Each operation on injected faults, run to its end against any cluster: what it answers, what the
ledger is afterwards, and which calls it has made. Every exit of an operation has a lemma of its
own, under the condition that leads there.
-/

namespace FaultPlane.Injection

open FaultPlane.Time (Instant)

variable {ω : Type} (world : World ω) (settings : InjectionSettings)

/-! ### Records -/

theorem active?_eq_some {id service : String} {kind : FaultKind} {delay duration : UInt64}
    {now : Instant} {record : FaultRecord}
    (h : FaultRecord.active? id service kind delay duration now = some record) :
    ∃ endTime, now.plusMinutes? duration.toNat = some endTime ∧
      record = ⟨id, service, kind, delay, duration, now, endTime, .active⟩ := by
  obtain ⟨endTime, hend, hrecord⟩ := Option.map_eq_some_iff.1 h
  exact ⟨endTime, hend, hrecord.symm⟩

/-! ### Apply -/

section Apply

variable (now : Instant) (kind : FaultKind) (plan : Plan) (l : Ledger) (w : ω)

def Plan.recordId (plan : Plan) (kind : FaultKind) (l : Ledger) (now : Instant) : String :=
  Injection.recordId kind plan.idFragment (l.issue now).1

/-- The record that is kept of a planned fault, unless it ends outside the calendar. -/
def Plan.record? (plan : Plan) (kind : FaultKind) (l : Ledger) (now : Instant) :
    Option FaultRecord :=
  FaultRecord.active? (plan.recordId kind l now) plan.service kind plan.delaySeconds
    plan.durationMinutes now

/-- What the cluster answers to the manifest of a planned fault. -/
def Plan.attempt (plan : Plan) (kind : FaultKind) (l : Ledger) (now : Instant) (w : ω) :
    Cluster.ApplyOutcome × ω :=
  world (.cluster (.apply (plan.manifest settings (plan.recordId kind l now) (l.issue now).1))) w

theorem Plan.id_of_record? {record : FaultRecord} (h : plan.record? kind l now = some record) :
    record.id = plan.recordId kind l now := by
  obtain ⟨endTime, -, hrecord⟩ := active?_eq_some h
  rw [hrecord]

theorem run_inject_outOfRange (h : plan.record? kind l now = none) :
    (inject settings now kind plan).run world l w =
      (.failure ("Invalid request: " ++
          (RequestProblem.endOutOfRange plan.durationMinutes).message), (l.issue now).2, w) := by
  unfold Plan.record? Plan.recordId at h
  simp only [inject, Dialogue.run_bind, Dialogue.run_take, h, Dialogue.run_pure]

theorem run_inject_refused {record : FaultRecord} (h : plan.record? kind l now = some record)
    (refused : (plan.attempt world settings kind l now w).1.success = false) :
    (inject settings now kind plan).run world l w =
      ((ActionResponse.failure (kind.label ++ " injection failed: " ++
          (plan.attempt world settings kind l now w).1.output)).about
            (plan.recordId kind l now) plan.service,
        (l.issue now).2, (plan.attempt world settings kind l now w).2) := by
  unfold Plan.record? Plan.recordId at h
  unfold Plan.attempt Plan.recordId at *
  simp only [inject, Dialogue.run_bind, Dialogue.run_take, h, Dialogue.run_cluster, refused,
    Bool.false_eq_true, if_false, Dialogue.run_pure]

theorem run_inject_accepted {record : FaultRecord} (h : plan.record? kind l now = some record)
    (accepted : (plan.attempt world settings kind l now w).1.success = true) :
    (inject settings now kind plan).run world l w =
      ((ActionResponse.ok (kind.label ++ " injection successful")).about
          (plan.recordId kind l now) plan.service,
        ((l.issue now).2.updateRegistry kind.resource fun r => ((), r.put record)).2,
        (plan.attempt world settings kind l now w).2) := by
  unfold Plan.record? Plan.recordId at h
  unfold Plan.attempt Plan.recordId at *
  simp only [inject, Dialogue.run_bind, Dialogue.run_take, h, Dialogue.run_cluster, accepted,
    if_true, Dialogue.run_pure]

theorem run_apply_rejected {catalog : Catalog} {request : Request} {problem : RequestProblem}
    (h : request.plan catalog = .error problem) :
    (apply settings catalog now request).run world l w = (.failure problem.message, l, w) := by
  simp only [apply, h, Dialogue.run_pure]

theorem apply_planned {catalog : Catalog} {request : Request} {plan : Plan}
    (h : request.plan catalog = .ok plan) :
    apply settings catalog now request = inject settings now request.kind plan := by
  simp only [apply, h]

theorem transcript_apply_rejected {catalog : Catalog} {request : Request} {problem : RequestProblem}
    (h : request.plan catalog = .error problem) :
    (apply settings catalog now request).transcript world l w = [] := by
  simp only [apply, h, Dialogue.transcript_pure]

/-- An apply asks the cluster once at most, with the manifest. -/
theorem transcript_apply {catalog : Catalog} {request : Request} {plan : Plan}
    (h : request.plan catalog = .ok plan) :
    (apply settings catalog now request).transcript world l w =
      if (plan.record? request.kind l now).isSome then
        [⟨.cluster (.apply
            (plan.manifest settings (plan.recordId request.kind l now) (l.issue now).1)),
          (plan.attempt world settings request.kind l now w).1⟩]
      else [] := by
  rw [apply_planned settings now h]
  cases hrecord : plan.record? request.kind l now with
  | none =>
    unfold Plan.record? Plan.recordId at hrecord
    simp only [inject, Dialogue.transcript_bind, Dialogue.run_take, Dialogue.transcript_take,
      List.nil_append, hrecord, Dialogue.transcript_pure]
    rfl
  | some record =>
    unfold Plan.record? Plan.recordId at hrecord
    simp only [inject, Dialogue.transcript_bind, Dialogue.run_take, Dialogue.transcript_take,
      List.nil_append, hrecord, Dialogue.transcript_cluster, Dialogue.transcript_ite,
      Dialogue.transcript_pure, List.append_nil, ite_self]
    rfl

/-- An apply fails and leaves every registry as it is, or it tracks the record of its plan and says
so. -/
theorem run_apply_cases (catalog : Catalog) (request : Request) :
    let result := (apply settings catalog now request).run world l w
    (result.1.success = false ∧ ∀ k, result.2.1.registry k = l.registry k) ∨
      ∃ plan record, request.plan catalog = .ok plan ∧
        plan.record? request.kind l now = some record ∧
        result.1 = (ActionResponse.ok (request.kind.label ++ " injection successful")).about
          (plan.recordId request.kind l now) plan.service ∧
        ∀ k, result.2.1.registry k =
          if k = request.kind.resource then (l.registry k).put record else l.registry k := by
  intro result
  cases hplan : request.plan catalog with
  | error problem =>
    have hresult : result = (.failure problem.message, l, w) :=
      run_apply_rejected world settings now l w hplan
    rw [hresult]
    exact Or.inl ⟨rfl, fun _ => rfl⟩
  | ok plan =>
    have hplanned : result = (inject settings now request.kind plan).run world l w :=
      congrArg (Dialogue.run world · l w) (apply_planned settings now hplan)
    cases hrecord : plan.record? request.kind l now with
    | none =>
      rw [hplanned, run_inject_outOfRange world settings now request.kind plan l w hrecord]
      exact Or.inl ⟨rfl, l.registry_issue now⟩
    | some record =>
      cases hanswer : (plan.attempt world settings request.kind l now w).1.success with
      | false =>
        rw [hplanned, run_inject_refused world settings now request.kind plan l w hrecord hanswer]
        exact Or.inl ⟨rfl, l.registry_issue now⟩
      | true =>
        rw [hplanned, run_inject_accepted world settings now request.kind plan l w hrecord hanswer]
        refine Or.inr ⟨plan, record, rfl, hrecord, rfl, fun k => ?_⟩
        rw [Ledger.registry_updateRegistry, Ledger.registry_issue]
        split
        · next same => rw [same]
        · exact l.registry_issue now k

end Apply

/-! ### Stop -/

section Stop

variable (kind : FaultKind) {name : String} (l : Ledger) (w : ω)

theorem run_stopRecord_blank (h : Text.trim name = "") :
    (stopRecord settings kind name).run world l w = (.error .nameMissing, l, w) := by
  simp only [stopRecord, h, if_true, Dialogue.run_pure]

theorem run_stopRecord_foreign (h : Text.trim name ≠ "")
    (untracked : (l.registry kind.resource).get? (Text.trim name) = none)
    (foreign : kind.owns (Text.trim name) = false) :
    (stopRecord settings kind name).run world l w =
      (.error (.foreign (Text.trim name) kind), l, w) := by
  simp only [stopRecord, if_neg h, Dialogue.run_bind, Dialogue.run_look, untracked, foreign,
    Option.isNone_none, Bool.not_false, Bool.and_self, if_true, Dialogue.run_pure]

/-- The names that a stop passes on to the cluster: those that are tracked and those that look like
a name of the kind. -/
def Known (kind : FaultKind) (l : Ledger) (id : String) : Prop :=
  (l.registry kind.resource).get? id ≠ none ∨ kind.owns id = true

def deletion (kind : ResourceKind) (id : String) (w : ω) : Bool × ω :=
  world (.cluster (.delete kind id settings.namespaceName)) w

theorem not_refused {id : String} (known : Known kind l id) :
    (((l.registry kind.resource).get? id).isNone && !kind.owns id) = false := by
  rcases known with tracked | own
  · simp [Option.isNone_iff_eq_none, tracked]
  · simp [own]

theorem run_stopRecord_failed (h : Text.trim name ≠ "") (known : Known kind l (Text.trim name))
    (failed : (deletion world settings kind.resource (Text.trim name) w).1 = false) :
    (stopRecord settings kind name).run world l w =
      (.error (.notDeleted kind.resource (Text.trim name)), l,
        (deletion world settings kind.resource (Text.trim name) w).2) := by
  unfold deletion at failed
  simp only [stopRecord, if_neg h, Dialogue.run_bind, Dialogue.run_look, not_refused kind l known,
    Bool.false_eq_true, if_false, Dialogue.run_cluster, failed, Dialogue.run_pure]
  rfl

theorem run_stopRecord_deleted (h : Text.trim name ≠ "") (known : Known kind l (Text.trim name))
    (deleted : (deletion world settings kind.resource (Text.trim name) w).1 = true) :
    (stopRecord settings kind name).run world l w =
      (.ok (((l.registry kind.resource).get? (Text.trim name)).map fun r =>
          { r with status := .stopped }),
        (l.updateRegistry kind.resource (·.remove (Text.trim name))).2,
        (deletion world settings kind.resource (Text.trim name) w).2) := by
  unfold deletion at deleted
  simp only [stopRecord, if_neg h, Dialogue.run_bind, Dialogue.run_look, not_refused kind l known,
    Bool.false_eq_true, if_false, Dialogue.run_cluster, deleted, if_true, Dialogue.run_take,
    Dialogue.run_pure]
  rfl

theorem transcript_stopRecord_blank (h : Text.trim name = "") :
    (stopRecord settings kind name).transcript world l w = [] := by
  simp only [stopRecord, h, if_true, Dialogue.transcript_pure]

theorem transcript_stopRecord_foreign (h : Text.trim name ≠ "")
    (untracked : (l.registry kind.resource).get? (Text.trim name) = none)
    (foreign : kind.owns (Text.trim name) = false) :
    (stopRecord settings kind name).transcript world l w = [] := by
  simp only [stopRecord, if_neg h, Dialogue.transcript_bind, Dialogue.transcript_look,
    Dialogue.run_look, untracked, foreign, Option.isNone_none, Bool.not_false, Bool.and_self,
    if_true, Dialogue.transcript_pure, List.append_nil]

/-- A stop that is not refused asks the cluster once. -/
theorem transcript_stopRecord (h : Text.trim name ≠ "") (known : Known kind l (Text.trim name)) :
    (stopRecord settings kind name).transcript world l w =
      [⟨.cluster (.delete kind.resource (Text.trim name) settings.namespaceName),
        (deletion world settings kind.resource (Text.trim name) w).1⟩] := by
  simp only [stopRecord, if_neg h, Dialogue.transcript_bind, Dialogue.transcript_look,
    Dialogue.run_look, not_refused kind l known, Bool.false_eq_true, if_false,
    Dialogue.transcript_cluster, Dialogue.transcript_ite, Dialogue.transcript_take,
    Dialogue.transcript_pure, List.nil_append, List.append_nil, ite_self]
  rfl

theorem run_stop (name : String) :
    (stop settings kind name).run world l w =
      (stopResponse kind ((stopRecord settings kind name).run world l w).1,
        ((stopRecord settings kind name).run world l w).2) := by
  simp only [stop, Dialogue.run_bind, Dialogue.run_pure]

theorem transcript_stop (name : String) :
    (stop settings kind name).transcript world l w =
      (stopRecord settings kind name).transcript world l w := by
  simp only [stop, Dialogue.transcript_bind, Dialogue.transcript_pure, List.append_nil]

/-- A stop is answered with success exactly if no problem stands in its way. -/
theorem success_stopResponse {result : Except StopProblem (Option FaultRecord)} :
    (stopResponse kind result).success = true ↔ ∃ record, result = .ok record := by
  constructor
  · intro success
    cases result with
    | ok record => exact ⟨record, rfl⟩
    | error problem =>
      simp only [stopResponse] at success
      split at success <;> cases success
  · rintro ⟨record, rfl⟩
    cases record <;> rfl

end Stop

/-! ### Stop-all -/

/-- Deleting resources does not touch the ledger, and does not change how many records were
cleared. -/
theorem run_deleteListed (kind : ResourceKind) (names : List String) (summary : StopSummary)
    (l : Ledger) (w : ω) :
    ((deleteListed settings kind names summary).run world l w).2.1 = l ∧
      ((deleteListed settings kind names summary).run world l w).1.cleared = summary.cleared := by
  induction names generalizing summary w with
  | nil => exact ⟨rfl, rfl⟩
  | cons name names ih =>
    rw [deleteListed]
    split
    · exact ih _ w
    · simp only [Dialogue.run_bind, Dialogue.run_cluster]
      have hrest := ih (if (world (.cluster (.delete kind name settings.namespaceName)) w).1
          then { summary with deleted := summary.deleted + 1 }
          else { summary with failed := summary.failed + 1 })
        (world (.cluster (.delete kind name settings.namespaceName)) w).2
      refine ⟨hrest.1, hrest.2.trans ?_⟩
      split <;> rfl

/-- A stop-all pass empties the registry of its kind and counts what was in it. -/
theorem run_stopAll (kind : ResourceKind) (l : Ledger) (w : ω) :
    ((stopAll settings kind).run world l w).2.1 = l.setRegistry kind .empty ∧
      ((stopAll settings kind).run world l w).1.cleared =
        UInt64.ofNat (l.registry kind).size := by
  simp only [stopAll, Dialogue.run_bind, Dialogue.run_take, Dialogue.run_cluster]
  have hrest := fun names summary => run_deleteListed world settings kind names summary
    (l.updateRegistry kind (·.drain)).2
  refine ⟨(hrest _ _ _).1, (hrest _ _ _).2.trans ?_⟩
  exact congrArg UInt64.ofNat (List.length_map _)

/-- Stopping everything empties both registries and counts what was in each. -/
theorem run_stopEverything (l : Ledger) (w : ω) :
    let result := (stopEverything settings).run world l w
    result.2.1.clock = l.clock ∧ (∀ kind, result.2.1.registry kind = .empty) ∧
      result.1.network.cleared = UInt64.ofNat l.network.size ∧
      result.1.jvm.cleared = UInt64.ofNat l.jvm.size := by
  obtain ⟨hnet, hnetCount⟩ := run_stopAll world settings .networkChaos l w
  obtain ⟨hjvm, hjvmCount⟩ := run_stopAll world settings .jvmChaos
    (l.setRegistry .networkChaos .empty) ((stopAll settings .networkChaos).run world l w).2.2
  simp only [stopEverything, Dialogue.run_bind, Dialogue.run_pure, hnet, hjvm]
  refine ⟨rfl, ?_, hnetCount, hjvmCount⟩
  intro kind
  cases kind <;> rfl

/-! ### Sweep -/

theorem run_deleteRecords (kind : ResourceKind) (records : List FaultRecord) (l : Ledger) (w : ω) :
    ((deleteRecords settings kind records).run world l w).2.1 = l := by
  induction records generalizing w with
  | nil => rfl
  | cons record records ih =>
    simp only [deleteRecords, Dialogue.run_bind, Dialogue.run_cluster]
    exact ih _

/-- A sweep removes the records that have ended, and answers them. -/
theorem run_sweep (kind : ResourceKind) (now : Instant) (l : Ledger) (w : ω) :
    ((sweep settings kind now).run world l w).2.1 =
        (l.updateRegistry kind (·.removeIf (·.isExpiredAt now))).2 ∧
      ((sweep settings kind now).run world l w).1 =
        (((l.registry kind).removeIf (·.isExpiredAt now)).1).map fun r =>
          { r with status := .expired } := by
  simp only [sweep, Dialogue.run_bind, Dialogue.run_take, Dialogue.run_pure]
  exact ⟨run_deleteRecords world settings kind _ _ _, rfl⟩

end FaultPlane.Injection
