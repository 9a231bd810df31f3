import FaultPlane.Proofs.Injection.Interleaving
import FaultPlane.Proofs.Injection.RecordId

/-!
# Tracked faults and their resources

What is said of a job depends on how far it has come (`Stage`). It stays true whatever the other
jobs do (`Stage.frame`), and the job's own next step or call leads to what is said of it afterwards.
-/

namespace FaultPlane

open Injection
open Cluster (ClusterCall)
open FaultPlane.Time (Instant)

/-! ### Dialogues that only delete -/

/-- A call that deletes none but certain resources, and creates none. -/
def Call.Deletes (P : Resource → Prop) : Call → Prop
  | .cluster (.delete kind name _) => P (kind, name)
  | .cluster (.list ..) => True
  | _ => False

/-- A dialogue without steps on the state that deletes none but certain resources. -/
def Dialogue.Deletes {σ α : Type} (P : Resource → Prop) : Dialogue σ α → Prop
  | .done _ => True
  | .step .. => False
  | .ask call next => call.Deletes P ∧ ∀ answer, (next answer).Deletes P

namespace Injection

theorem deletes_deleteListed (settings : InjectionSettings) (kind : ResourceKind)
    (names : List String) (summary : StopSummary) :
    (deleteListed settings kind names summary).void.Deletes fun r => kind = r.1 := by
  induction names generalizing summary with
  | nil => trivial
  | cons name names ih =>
    rw [deleteListed]
    split
    · exact ih _
    · exact ⟨rfl, fun _ => ih _⟩

theorem deletes_deleteRecords (settings : InjectionSettings) (kind : ResourceKind)
    (records : List FaultRecord) :
    (deleteRecords settings kind records).void.Deletes fun r =>
      kind = r.1 ∧ r.2 ∈ records.map (·.id) := by
  suffices h : ∀ all : List FaultRecord, (∀ record ∈ records, record ∈ all) →
      (deleteRecords settings kind records).void.Deletes fun r =>
        kind = r.1 ∧ r.2 ∈ all.map (·.id) from h records fun _ inside => inside
  intro all within
  induction records with
  | nil => trivial
  | cons record records ih =>
    refine ⟨⟨rfl, ?_⟩, ?_⟩
    · exact List.mem_map.2 ⟨record, within record List.mem_cons_self, rfl⟩
    · intro _
      exact ih fun r inside => within r (List.mem_cons_of_mem record inside)

/-! ### Stages of a job -/

def Harmless (i : Nat) (history : List Happening) : Prop := ∀ r, .deleted i r ∉ history

/-- A job may delete a resource without blame: either it is there to do so, or the fault will never
be tracked again. If the fault is tracked, it is there to do so, and the fault was not tracked yet
when the job made its last step on the ledger. -/
def Passed (i : Nat) (job : Job) (l : Ledger) (history : List Happening) (r : Resource) : Prop :=
  (job.Stops r ∨ .tracked r ∈ history) ∧
    (l.Tracks r → job.Stops r ∧ ¬ Before (.tracked r) (.stepped i) history)

/-- How far a job has come, and what holds then. -/
inductive Stage (settings : InjectionSettings) (catalog : Catalog) (i : Nat) (l : Ledger)
    (history : List Happening) : Task → Prop where
  | begun {job : Job} (harmless : Harmless i history) :
      Stage settings catalog i l history ⟨job, none, job.dialogue settings catalog⟩
  /-- The id is issued, and the manifest about to be applied. -/
  | creating {job : Job} {r : Resource} {record : FaultRecord} {manifest : String}
      {next : Cluster.ApplyOutcome → Dialogue Ledger Unit} (harmless : Harmless i history)
      (own : record.id = r.2) (uncreated : .created r ∉ history) (untracked : .tracked r ∉ history)
      (accepted : ∀ outcome, outcome.success = true →
        next outcome = .step (Ledger.track r.1 record) fun _ => .done ())
      (refused : ∀ outcome, outcome.success = false → next outcome = .done ()) :
      Stage settings catalog i l history ⟨job, some r, .ask (.cluster (.apply manifest)) next⟩
  /-- The resource is created, and its fault about to be tracked. -/
  | recording {job : Job} {r : Resource} {record : FaultRecord} (harmless : Harmless i history)
      (own : record.id = r.2) (created : .created r ∈ history) (untracked : .tracked r ∉ history) :
      Stage settings catalog i l history
        ⟨job, some r, .step (Ledger.track r.1 record) fun _ => .done ()⟩
  /-- A resource is about to be deleted, and its fault forgotten after that. -/
  | stopping {job : Job} {makes? : Option Resource} {r : Resource} {namespaceName : String}
      {next : Bool → Dialogue Ledger Unit} (harmless : Harmless i history) (stops : job.Stops r)
      (gone : next true = .step (Ledger.forget r) fun _ => .done ())
      (kept : next false = .done ()) :
      Stage settings catalog i l history
        ⟨job, makes?, .ask (.cluster (.delete r.1 r.2 namespaceName)) next⟩
  /-- A resource is deleted, and its fault about to be forgotten. -/
  | forgetting {job : Job} {makes? : Option Resource} {r : Resource} (stops : job.Stops r)
      (only : ∀ r', .deleted i r' ∈ history → r' = r) :
      Stage settings catalog i l history
        ⟨job, makes?, .step (Ledger.forget r) fun _ => .done ()⟩
  /-- There will be no more steps on the ledger. -/
  | deleting {job : Job} {makes? : Option Resource} {P : Resource → Prop}
      {rest : Dialogue Ledger Unit} (deletes : rest.Deletes P)
      (passed : ∀ r, P r ∨ .deleted i r ∈ history → Passed i job l history r) :
      Stage settings catalog i l history ⟨job, makes?, rest⟩

/-! ### What other jobs do -/

/-- What the others leave alone of what is said of a job that makes a resource. -/
structure Frame (i : Nat) (makes? : Option Resource) (l : Ledger) (history : List Happening)
    (l' : Ledger) (history' : List Happening) : Prop where
  keeps : ∀ e ∈ history, e ∈ history'
  deleted : ∀ r, .deleted i r ∈ history' → .deleted i r ∈ history
  before : ∀ e, Before e (.stepped i) history' → Before e (.stepped i) history
  fresh : ∀ r, l'.Tracks r → l.Tracks r ∨ .tracked r ∉ history
  uncreated : ∀ r, makes? = some r → .created r ∉ history → .created r ∉ history'
  untracked : ∀ r, makes? = some r → .tracked r ∉ history → .tracked r ∉ history'

variable {settings : InjectionSettings} {catalog : Catalog} {i : Nat} {l l' : Ledger}
  {history history' : List Happening}

theorem Harmless.frame (h : Harmless i history) {makes? : Option Resource}
    (frame : Frame i makes? l history l' history') : Harmless i history' := by
  intro r deleted
  exact h r (frame.deleted r deleted)

theorem Passed.frame {job : Job} {r : Resource} (h : Passed i job l history r)
    {makes? : Option Resource} (frame : Frame i makes? l history l' history') :
    Passed i job l' history' r := by
  obtain ⟨settled, late⟩ := h
  refine ⟨settled.imp_right (frame.keeps _), ?_⟩
  intro tracks
  rcases frame.fresh r tracks with old | new
  · obtain ⟨stops, hlate⟩ := late old
    exact ⟨stops, fun before => hlate (frame.before _ before)⟩
  · refine ⟨settled.resolve_right new, ?_⟩
    intro before
    exact new (frame.before _ before).mem

theorem Stage.frame {task : Task} (h : Stage settings catalog i l history task)
    (frame : Frame i task.makes? l history l' history') :
    Stage settings catalog i l' history' task := by
  cases h with
  | begun harmless => exact .begun (harmless.frame frame)
  | creating harmless own uncreated untracked accepted refused =>
    exact .creating (harmless.frame frame) own (frame.uncreated _ rfl uncreated)
      (frame.untracked _ rfl untracked) accepted refused
  | recording harmless own created untracked =>
    exact .recording (harmless.frame frame) own (frame.keeps _ created)
      (frame.untracked _ rfl untracked)
  | stopping harmless stops gone kept => exact .stopping (harmless.frame frame) stops gone kept
  | forgetting stops only =>
    exact .forgetting stops fun r deleted => only r (frame.deleted r deleted)
  | deleting deletes passed =>
    refine .deleting deletes ?_
    intro r hr
    exact (passed r (hr.imp_right (frame.deleted r))).frame frame

theorem Stage.blame {task : Task} (h : Stage settings catalog i l history task)
    (finished : task.rest = .done ()) {r : Resource} (deleted : .deleted i r ∈ history)
    (tracks : l.Tracks r) :
    task.job.Stops r ∧ ¬ Before (.tracked r) (.stepped i) history := by
  cases h with
  | begun harmless => exact absurd deleted (harmless r)
  | creating harmless => exact absurd deleted (harmless r)
  | recording harmless => exact absurd deleted (harmless r)
  | stopping harmless => exact absurd deleted (harmless r)
  | forgetting => cases finished
  | deleting deletes passed => exact (passed r (Or.inr deleted)).2 tracks

/-! ### Steps on the ledger -/

structure Chronicle (l : Ledger) (history : List Happening) : Prop where
  last_nonneg : 0 ≤ l.clock.last
  number_le : ∀ r, .created r ∈ history → idNumber r.2 ≤ l.clock.last
  created : ∀ r, .tracked r ∈ history → .created r ∈ history
  tracked : ∀ r, l.Tracks r → .tracked r ∈ history

/-- What a step of a job on the ledger can do: it may track the fault of the resource that the job
has made, and it may issue the id of the resource that it is going to make. -/
structure Progress (catalog : Catalog) (job : Job) (makes? : Option Resource) (l l' : Ledger)
    (history : List Happening) : Prop where
  clock_le : l.clock.last ≤ l'.clock.last
  gained : ∀ r, l'.Tracks r → ¬ l.Tracks r →
    makes? = some r ∧ .created r ∈ history ∧ .tracked r ∉ history
  makes : ∀ r, makes?.or (job.makes? catalog l) = some r →
    makes? = some r ∨ l.clock.last < idNumber r.2 ∧ idNumber r.2 ≤ l'.clock.last

theorem Progress.of_lost {job : Job} {makes? : Option Resource} (clock : l'.clock = l.clock)
    (lost : ∀ r, l'.Tracks r → l.Tracks r) (silent : job.makes? catalog l = none) :
    Progress catalog job makes? l l' history where
  clock_le := Int.le_of_eq (by rw [clock])
  gained := by
    intro r new old
    exact absurd (lost r new) old
  makes := by
    intro r h
    rw [silent, Option.or_none] at h
    exact Or.inl h

theorem Stage.finished {job : Job} {makes? : Option Resource} (harmless : Harmless i history) :
    Stage settings catalog i l history ⟨job, makes?, .done ()⟩ := by
  refine .deleting (P := fun _ => False) trivial ?_
  rintro r (absurdity | deleted)
  · exact absurdity.elim
  · exact absurd deleted (harmless r)

theorem Harmless.step (h : Harmless i history) {l' : Ledger} {j : Nat} :
    Harmless i (l.gained l' ++ .stepped j :: history) := by
  intro r deleted
  exact h r (deleted_mem_step.1 deleted)

theorem Job.makes?_of_stops {job : Job} {r : Resource} (h : job.Stops r) :
    job.makes? catalog l = none := by
  cases job with
  | stop kind name => rfl
  | stopAll kind => rfl
  | apply now request => cases h
  | sweep kind now => cases h

/-- What a job does in its step on the ledger, and how far it is then. -/
def Goes (settings : InjectionSettings) (catalog : Catalog) (i : Nat) (job : Job)
    (makes? : Option Resource) (l : Ledger) (history : List Happening) (change : Ledger → Ledger)
    (next : Ledger → Dialogue Ledger Unit) : Prop :=
  Progress catalog job makes? l (change l) history ∧
    Stage settings catalog i (change l) (l.gained (change l) ++ .stepped i :: history)
      ⟨job, makes?.or (job.makes? catalog l), next l⟩

theorem goes_apply (harmless : Harmless i history) (chronicle : Chronicle l history)
    {now : Instant} {request : Request} {change : Ledger → Ledger}
    {next : Ledger → Dialogue Ledger Unit}
    (rest : (Job.apply now request).dialogue settings catalog = .step change next) :
    Goes settings catalog i (.apply now request) none l history change next := by
  cases hplan : request.plan catalog with
  | error problem =>
    simp only [Job.dialogue, Injection.apply, hplan] at rest
    cases rest
  | ok plan =>
    simp only [Job.dialogue, apply_planned settings now hplan, void_inject] at rest
    cases rest
    have hmakes : (Job.apply now request).makes? catalog l =
        some (request.kind.resource, plan.recordId request.kind l now) := by
      simp only [Job.makes?, hplan]
    have hclock := l.last_lt_issue now
    have hnonneg : 0 ≤ (l.issue now).1 := by
      have hlast := chronicle.last_nonneg
      omega
    have hnumber : idNumber (plan.recordId request.kind l now) = (l.issue now).1 :=
      idNumber_recordId request.kind plan.idFragment hnonneg
    have hsame : ∀ r, (l.issue now).2.Tracks r ↔ l.Tracks r := by
      intro r
      rw [Ledger.Tracks, Ledger.registry_issue, Ledger.Tracks]
    -- The clock is above the number of everything that was ever created.
    have huncreated :
        Happening.created (request.kind.resource, plan.recordId request.kind l now) ∉ history := by
      intro created
      have hle := chronicle.number_le _ created
      rw [hnumber] at hle
      omega
    constructor
    · refine ⟨Int.le_of_lt hclock, ?_, ?_⟩
      · intro r new old
        exact absurd ((hsame r).1 new) old
      · intro r hr
        rw [hmakes, Option.none_or] at hr
        cases hr
        refine Or.inr ⟨?_, ?_⟩
        · rw [hnumber]
          exact hclock
        · rw [hnumber, Ledger.clock_issue]
    · rw [hmakes, Option.none_or]
      dsimp only
      cases hrecord : plan.record? request.kind l now with
      | none => exact .finished harmless.step
      | some record =>
        refine .creating harmless.step (plan.id_of_record? now request.kind l hrecord) ?_ ?_ ?_ ?_
        · rw [created_mem_step]
          exact huncreated
        · rw [tracked_mem_step, hsame]
          rintro (⟨new, old⟩ | before)
          · exact old new
          · exact huncreated (chronicle.created _ before)
        · intro outcome success
          simp only [success, if_true]
        · intro outcome failure
          simp only [failure, Bool.false_eq_true, if_false]

theorem goes_stop (harmless : Harmless i history) {kind : FaultKind} {name : String}
    {change : Ledger → Ledger} {next : Ledger → Dialogue Ledger Unit}
    (rest : (Job.stop kind name).dialogue settings catalog = .step change next) :
    Goes settings catalog i (.stop kind name) none l history change next := by
  by_cases hblank : Text.trim name = ""
  · simp only [Job.dialogue, void_stopRecord_blank settings kind hblank] at rest
    cases rest
  · simp only [Job.dialogue, void_stopRecord settings kind hblank] at rest
    cases rest
    refine ⟨.of_lost rfl (fun r tracks => tracks) rfl, ?_⟩
    dsimp only
    split
    · exact .finished harmless.step
    · exact .stopping (r := (kind.resource, Text.trim name)) harmless.step ⟨rfl, rfl⟩ rfl rfl

theorem goes_stopAll (harmless : Harmless i history) {kind : ResourceKind}
    {change : Ledger → Ledger} {next : Ledger → Dialogue Ledger Unit}
    (rest : (Job.stopAll kind).dialogue settings catalog = .step change next) :
    Goes settings catalog i (.stopAll kind) none l history change next := by
  simp only [Job.dialogue, void_stopAll] at rest
  cases rest
  refine ⟨.of_lost (l.clock_updateRegistry _ _) (fun r tracks => (tracks_drain.1 tracks).1) rfl, ?_⟩
  refine .deleting (P := fun r => kind = r.1)
    ⟨trivial, fun names => deletes_deleteListed settings kind names _⟩ ?_
  rintro r (of_kind | deleted)
  · refine ⟨Or.inl of_kind, ?_⟩
    intro tracks
    exact absurd of_kind (tracks_drain.1 tracks).2
  · exact absurd deleted (harmless.step r)

theorem goes_sweep (harmless : Harmless i history) (chronicle : Chronicle l history)
    {kind : ResourceKind} {now : Instant} {change : Ledger → Ledger}
    {next : Ledger → Dialogue Ledger Unit}
    (rest : (Job.sweep kind now).dialogue settings catalog = .step change next) :
    Goes settings catalog i (.sweep kind now) none l history change next := by
  simp only [Job.dialogue, void_sweep] at rest
  cases rest
  refine ⟨.of_lost (l.clock_updateRegistry _ _) (fun r tracks => (tracks_removeIf.1 tracks).1) rfl,
    ?_⟩
  refine .deleting (deletes_deleteRecords settings kind _) ?_
  rintro r (⟨of_kind, removed⟩ | deleted)
  · have hold : l.Tracks r := by
      subst of_kind
      exact ((l.registry r.1).removeIf_conserved _).mem_iff.1 (List.mem_append_left _ removed)
    refine ⟨Or.inr (tracked_mem_step.2 (Or.inr (chronicle.tracked r hold))), ?_⟩
    intro tracks
    exact absurd ⟨of_kind, removed⟩ (tracks_removeIf.1 tracks).2
  · exact absurd deleted (harmless.step r)

theorem Stage.goes {job : Job} {makes? : Option Resource} {change : Ledger → Ledger}
    {next : Ledger → Dialogue Ledger Unit} (chronicle : Chronicle l history)
    (h : Stage settings catalog i l history ⟨job, makes?, .step change next⟩) :
    Goes settings catalog i job makes? l history change next := by
  generalize htask : (⟨job, makes?, .step change next⟩ : Task) = task at h
  cases h with
  | begun harmless =>
    obtain ⟨rfl, rfl, rest⟩ := Task.mk.inj htask
    cases job with
    | apply now request => exact goes_apply harmless chronicle rest.symm
    | stop kind name => exact goes_stop harmless rest.symm
    | stopAll kind => exact goes_stopAll harmless rest.symm
    | sweep kind now => exact goes_sweep harmless chronicle rest.symm
  | @recording _ r record harmless own created untracked =>
    cases htask
    constructor
    · refine ⟨by rw [Ledger.clock_track], ?_, ?_⟩
      · intro r' new old
        have hr : r' = r := by
          rw [(tracks_track.1 new).resolve_right old, own]
        rw [hr]
        exact ⟨rfl, created, untracked⟩
      · intro r' hr
        exact Or.inl hr
    · exact .finished harmless.step
  | @forgetting _ _ r stops only =>
    cases htask
    have hforget : ∀ r', (l.forget r).Tracks r' ↔ l.Tracks r' ∧ r' ≠ r := fun r' => tracks_forget
    refine ⟨.of_lost (l.clock_forget r) (fun r' tracks => ((hforget r').1 tracks).1)
      (Job.makes?_of_stops stops), ?_⟩
    refine .deleting (P := fun _ => False) trivial ?_
    rintro r' (absurdity | deleted)
    · exact absurdity.elim
    · have hr : r' = r := only r' (deleted_mem_step.1 deleted)
      rw [hr]
      refine ⟨Or.inl stops, ?_⟩
      intro tracks
      exact absurd rfl ((hforget r).1 tracks).2
  | deleting deletes =>
    cases htask
    exact deletes.elim
  | creating => cases htask
  | stopping => cases htask

/-! ### Calls -/

theorem Job.dialogue_ne_ask {job : Job} {call : Call}
    {next : call.Answer → Dialogue Ledger Unit} :
    job.dialogue settings catalog ≠ .ask call next := by
  intro rest
  cases job with
  | apply now request =>
    cases hplan : request.plan catalog with
    | error problem =>
      simp only [dialogue, Injection.apply, hplan] at rest
      cases rest
    | ok plan =>
      simp only [dialogue, apply_planned settings now hplan, void_inject] at rest
      cases rest
  | stop kind name =>
    by_cases hblank : Text.trim name = ""
    · simp only [dialogue, void_stopRecord_blank settings kind hblank] at rest
      cases rest
    · simp only [dialogue, void_stopRecord settings kind hblank] at rest
      cases rest
  | stopAll kind => cases rest
  | sweep kind now => cases rest

theorem Stage.creates {job : Job} {r : Resource} {record : FaultRecord} {manifest : String}
    {next : Cluster.ApplyOutcome → Dialogue Ledger Unit} {outcome : Cluster.ApplyOutcome}
    {cluster cluster' : Set Resource} {new : List Happening} (harmless : Harmless i history)
    (own : record.id = r.2) (uncreated : .created r ∉ history) (untracked : .tracked r ∉ history)
    (accepted : ∀ outcome, outcome.success = true →
      next outcome = .step (Ledger.track r.1 record) fun _ => .done ())
    (refused : ∀ outcome, outcome.success = false → next outcome = .done ())
    (truthful : Truthful i (some r) cluster (.apply manifest) outcome cluster' new) :
    (∀ r', .created r' ∈ new → .created r' ∉ history) ∧
      Stage settings catalog i l (new ++ history) ⟨job, some r, next outcome⟩ := by
  cases truthful with
  | created named =>
    cases named
    have hharmless : Harmless i ([.created r] ++ history) := by
      intro r' deleted
      rcases List.mem_cons.1 deleted with other | old
      · cases other
      · exact harmless r' old
    constructor
    · intro r' created
      have hr : r' = r := by
        cases List.mem_singleton.1 created
        rfl
      rw [hr]
      exact uncreated
    · cases hsuccess : outcome.success with
      | false =>
        rw [refused outcome hsuccess]
        exact .finished hharmless
      | true =>
        rw [accepted outcome hsuccess]
        refine .recording hharmless own List.mem_cons_self ?_
        intro tracked
        rcases List.mem_cons.1 tracked with other | old
        · cases other
        · exact untracked old
  | refused failed =>
    rw [refused outcome failed]
    refine ⟨fun r' created => absurd created List.not_mem_nil, .finished harmless⟩

theorem Passed.delete {job : Job} {r r' : Resource} (h : Passed i job l history r) :
    Passed i job l (.deleted i r' :: history) r := by
  refine ⟨h.1.imp_right (List.mem_cons_of_mem _), ?_⟩
  intro tracks
  obtain ⟨stops, hlate⟩ := h.2 tracks
  refine ⟨stops, ?_⟩
  rw [before_cons (fun same => by cases same)]
  exact hlate

/-- A job that makes a call comes one stage further. -/
theorem Stage.calls {job : Job} {makes? : Option Resource} {call : ClusterCall}
    {next : call.Answer → Dialogue Ledger Unit} {answer : call.Answer}
    {cluster cluster' : Set Resource} {new : List Happening}
    (h : Stage settings catalog i l history ⟨job, makes?, .ask (.cluster call) next⟩)
    (truthful : Truthful i makes? cluster call answer cluster' new) :
    (∀ r, .created r ∈ new → .created r ∉ history) ∧
      Stage settings catalog i l (new ++ history) ⟨job, makes?, next answer⟩ := by
  generalize htask : (⟨job, makes?, .ask (.cluster call) next⟩ : Task) = task at h
  cases h with
  | begun harmless =>
    obtain ⟨rfl, rfl, rest⟩ := Task.mk.inj htask
    exact absurd rest.symm Job.dialogue_ne_ask
  | creating harmless own uncreated untracked accepted refused =>
    cases htask
    exact Stage.creates harmless own uncreated untracked accepted refused truthful
  | @stopping _ _ r _ _ harmless stops gone kept =>
    cases htask
    cases truthful with
    | deleted =>
      refine ⟨by simp, ?_⟩
      rw [gone]
      refine .forgetting stops ?_
      intro r' deleted
      rcases List.mem_cons.1 deleted with new | old
      · cases new
        rfl
      · exact absurd old (harmless r')
    | kept =>
      refine ⟨by simp, ?_⟩
      rw [kept]
      exact .finished harmless
  | @deleting _ _ P _ deletes passed =>
    cases htask
    obtain ⟨allowed, hrest⟩ := deletes
    cases truthful with
    | created => exact allowed.elim
    | refused => exact allowed.elim
    | kept => exact ⟨by simp, .deleting (hrest _) passed⟩
    | listed => exact ⟨by simp, .deleting (hrest _) passed⟩
    | @deleted kind name _ =>
      refine ⟨by simp, .deleting (hrest _) ?_⟩
      rintro r (may | deleted)
      · exact (passed r (Or.inl may)).delete
      · rcases List.mem_cons.1 deleted with new | old
        · have hr : r = (kind, name) := by
            cases new
            rfl
          rw [hr]
          exact (passed (kind, name) (Or.inl allowed)).delete
        · exact (passed r (Or.inr old)).delete
  | recording => cases htask
  | forgetting => cases htask

end Injection

end FaultPlane
