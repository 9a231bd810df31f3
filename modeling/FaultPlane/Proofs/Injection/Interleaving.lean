import Mathlib.Data.Set.Insert
import FaultPlane.Proofs.Dialogue.Concurrency
import FaultPlane.Proofs.Injection.Outcome
import FaultPlane.Proofs.Injection.Tracking

/-!
# Jobs that run side by side

An injector can be busy with several jobs at once. Each of them is a dialogue; they share the ledger
and the cluster, and any of them may go on next, by one step on the ledger or by one call. The
cluster is truthful: it has what was created and not deleted since. What has happened is kept in a
history, the latest first.
-/

namespace FaultPlane

open Injection
open Cluster (ClusterCall)
open FaultPlane.Time (Instant)

namespace Injection

/-! ### Jobs -/

inductive Job where
  | apply (now : Instant) (request : Request)
  | stop (kind : FaultKind) (name : String)
  | stopAll (kind : ResourceKind)
  | sweep (kind : ResourceKind) (now : Instant)

namespace Job

def dialogue (settings : InjectionSettings) (catalog : Catalog) : Job → Dialogue Ledger Unit
  | .apply now request => (Injection.apply settings catalog now request).void
  | .stop kind name => (Injection.stopRecord settings kind name).void
  | .stopAll kind => (Injection.stopAll settings kind).void
  | .sweep kind now => (Injection.sweep settings kind now).void

/-- The resource that a job makes if its first step is on this ledger. -/
def makes? (catalog : Catalog) (l : Ledger) : Job → Option Resource
  | .apply now request =>
    match request.plan catalog with
    | .ok plan => some (request.kind.resource, plan.recordId request.kind l now)
    | .error _ => none
  | _ => none

def Stops (r : Resource) : Job → Prop
  | .stop kind name => kind.resource = r.1 ∧ Text.trim name = r.2
  | .stopAll kind => kind = r.1
  | _ => False

end Job

/-! ### What has happened -/

/-- A job is told apart by its place among the jobs. -/
inductive Happening where
  /-- A job has made a step on the ledger. -/
  | stepped (i : Nat)
  /-- The ledger has begun to track the fault of a resource. -/
  | tracked (r : Resource)
  /-- The cluster has created a resource. -/
  | created (r : Resource)
  /-- The cluster has told a job that a resource is deleted. -/
  | deleted (i : Nat) (r : Resource)
  deriving DecidableEq

/-- Whether something has happened and, at some time after it, something else. -/
def Before (a b : Happening) : List Happening → Prop
  | [] => False
  | e :: history => e = b ∧ a ∈ history ∨ Before a b history

/-- The faults that one ledger tracks and a former one does not. -/
def Ledger.gained (l l' : Ledger) : List Happening :=
  [ResourceKind.networkChaos, ResourceKind.jvmChaos].flatMap fun kind =>
    ((l'.registry kind).ids.filter fun id => id ∉ (l.registry kind).ids).map fun id =>
      .tracked (kind, id)

/-! ### Configurations -/

structure Task where
  job : Job
  /-- The resource that the job makes, as soon as the id of it is issued. -/
  makes? : Option Resource := none
  rest : Dialogue Ledger Unit

structure Config where
  ledger : Ledger := {}
  cluster : Set Resource
  tasks : List Task := []
  history : List Happening := []

def Config.Quiet (c : Config) : Prop := ∀ task ∈ c.tasks, task.rest = .done ()

/-- What a truthful cluster may answer, what it has afterwards and what has happened by that. The
resource of a manifest may be there even if the answer is that applying it has failed. -/
inductive Truthful (i : Nat) (makes? : Option Resource) (cluster : Set Resource) :
    (call : ClusterCall) → call.Answer → Set Resource → List Happening → Prop where
  | created {manifest : String} {outcome : Cluster.ApplyOutcome} {r : Resource}
      (named : makes? = some r) :
      Truthful i makes? cluster (.apply manifest) outcome (insert r cluster) [.created r]
  | refused {manifest : String} {outcome : Cluster.ApplyOutcome}
      (failed : outcome.success = false) :
      Truthful i makes? cluster (.apply manifest) outcome cluster []
  | deleted {kind : ResourceKind} {name namespaceName : String} :
      Truthful i makes? cluster (.delete kind name namespaceName) true (cluster \ {(kind, name)})
        [.deleted i (kind, name)]
  | kept {kind : ResourceKind} {name namespaceName : String} :
      Truthful i makes? cluster (.delete kind name namespaceName) false cluster []
  | listed {kind : ResourceKind} {namespaceName : String} {names : List String}
      (exact : ∀ name, name ∈ names ↔ (kind, name) ∈ cluster) :
      Truthful i makes? cluster (.list kind namespaceName) names cluster []

section

variable (settings : InjectionSettings) (catalog : Catalog)

/-- A job starts, or a job that was started goes on. -/
inductive Step (c : Config) : Config → Prop where
  | start (job : Job) :
      Step c { c with tasks := c.tasks ++ [{ job, rest := job.dialogue settings catalog }] }
  | ledger {i : Nat} {task : Task} {change : Ledger → Ledger} {next : Ledger → Dialogue Ledger Unit}
      (here : c.tasks[i]? = some task) (rest : task.rest = .step change next) :
      Step c
        { c with
          ledger := change c.ledger
          tasks := c.tasks.set i
            { task with
              makes? := task.makes?.or (task.job.makes? catalog c.ledger)
              rest := next c.ledger }
          history := c.ledger.gained (change c.ledger) ++ .stepped i :: c.history }
  | call {i : Nat} {task : Task} {call : ClusterCall} {next : call.Answer → Dialogue Ledger Unit}
      {answer : call.Answer} {cluster : Set Resource} {happened : List Happening}
      (here : c.tasks[i]? = some task) (rest : task.rest = .ask (.cluster call) next)
      (truthful : Truthful i task.makes? c.cluster call answer cluster happened) :
      Step c
        { c with
          cluster
          tasks := c.tasks.set i { task with rest := next answer }
          history := happened ++ c.history }

/-- The configurations that an injector without any jobs can come to, whatever there is in the
cluster at first. -/
inductive Reachable : Config → Prop where
  | init (cluster : Set Resource) : Reachable { cluster }
  | step {c c' : Config} (reachable : Reachable c) (step : Step settings catalog c c') :
      Reachable c'

end

/-! ### Order of events -/

theorem Before.mem {a b : Happening} {history : List Happening} (h : Before a b history) :
    a ∈ history := by
  induction history with
  | nil => cases h
  | cons e history ih =>
    rcases h with ⟨-, inside⟩ | older
    · exact List.mem_cons_of_mem e inside
    · exact List.mem_cons_of_mem e (ih older)

theorem Before.mem_later {a b : Happening} {history : List Happening} (h : Before a b history) :
    b ∈ history := by
  induction history with
  | nil => cases h
  | cons e history ih =>
    rcases h with ⟨same, -⟩ | older
    · exact same ▸ List.mem_cons_self
    · exact List.mem_cons_of_mem e (ih older)

/-- Events of another kind do not change what came before what. -/
theorem before_append {a b : Happening} {new history : List Happening} (h : b ∉ new) :
    Before a b (new ++ history) ↔ Before a b history := by
  induction new with
  | nil => exact Iff.rfl
  | cons e new ih =>
    have hother : e ≠ b := fun same => h (same ▸ List.mem_cons_self)
    have hrest := ih fun inside => h (List.mem_cons_of_mem e inside)
    simp only [List.cons_append, Before, hother, false_and, false_or, hrest]

theorem before_cons {a b e : Happening} {history : List Happening} (h : e ≠ b) :
    Before a b (e :: history) ↔ Before a b history := by
  simp only [Before, h, false_and, false_or]

theorem mem_gained {l l' : Ledger} {e : Happening} :
    e ∈ l.gained l' ↔ ∃ r, e = .tracked r ∧ l'.Tracks r ∧ ¬ l.Tracks r := by
  simp only [Ledger.gained, List.mem_flatMap, List.mem_map, List.mem_filter, decide_eq_true_eq]
  constructor
  · rintro ⟨kind, -, id, ⟨now, before⟩, rfl⟩
    exact ⟨(kind, id), rfl, now, before⟩
  · rintro ⟨⟨kind, id⟩, rfl, now, before⟩
    refine ⟨kind, ?_, id, ⟨now, before⟩, rfl⟩
    cases kind <;> simp

/-! The history after a step on the ledger. -/

section

variable {l l' : Ledger} {i j : Nat} {r : Resource} {history : List Happening}

@[simp] theorem deleted_mem_step :
    .deleted i r ∈ l.gained l' ++ .stepped j :: history ↔ .deleted i r ∈ history := by
  simp [mem_gained]

@[simp] theorem created_mem_step :
    .created r ∈ l.gained l' ++ .stepped j :: history ↔ .created r ∈ history := by
  simp [mem_gained]

@[simp] theorem tracked_mem_step :
    .tracked r ∈ l.gained l' ++ .stepped j :: history ↔
      (l'.Tracks r ∧ ¬ l.Tracks r) ∨ .tracked r ∈ history := by
  simp [mem_gained]

theorem before_step {a b : Happening} (hnew : b ∉ l.gained l') (hstep : Happening.stepped j ≠ b) :
    Before a b (l.gained l' ++ .stepped j :: history) ↔ Before a b history :=
  (before_append hnew).trans (before_cons hstep)

end

/-! ### The first steps of the jobs -/

section

variable (settings : InjectionSettings)

theorem void_inject (now : Instant) (kind : FaultKind) (plan : Plan) :
    (inject settings now kind plan).void =
      .step (fun l => (l.issue now).2) fun l =>
        match plan.record? kind l now with
        | none => .done ()
        | some record =>
          .ask
            (.cluster (.apply (plan.manifest settings (plan.recordId kind l now) (l.issue now).1)))
            fun outcome =>
              if outcome.success then
                .step (Ledger.track kind.resource record) fun _ => .done ()
              else .done () := by
  refine congrArg (Dialogue.step _) (funext fun l => ?_)
  show Dialogue.andThen (match plan.record? kind l now with
    | none => _
    | some record => _) _ = _
  cases plan.record? kind l now with
  | none => rfl
  | some record =>
    refine congrArg (Dialogue.ask _) (funext fun outcome => ?_)
    show Dialogue.andThen (if outcome.success then _ else _) _ = _
    cases outcome.success <;> rfl

theorem void_stopRecord_blank (kind : FaultKind) {name : String} (h : Text.trim name = "") :
    (stopRecord settings kind name).void = .done () := by
  rw [stopRecord, if_pos h]
  rfl

theorem void_stopRecord (kind : FaultKind) {name : String} (h : Text.trim name ≠ "") :
    (stopRecord settings kind name).void =
      .step id fun l =>
        if ((l.registry kind.resource).get? (Text.trim name)).isNone &&
            !kind.owns (Text.trim name) then .done ()
        else
          .ask (.cluster (.delete kind.resource (Text.trim name) settings.namespaceName))
            fun deleted =>
              if deleted then
                .step (Ledger.forget (kind.resource, Text.trim name)) fun _ => .done ()
              else .done () := by
  rw [stopRecord, if_neg h]
  refine congrArg (Dialogue.step _) (funext fun l => ?_)
  show Dialogue.andThen (if _ then _ else _) _ = _
  split
  · rfl
  · refine congrArg (Dialogue.ask _) (funext fun deleted => ?_)
    cases deleted <;> rfl

theorem void_stopAll (kind : ResourceKind) :
    (stopAll settings kind).void =
      .step (fun l => (l.updateRegistry kind (·.drain)).2) fun l =>
        .ask (.cluster (.list kind settings.namespaceName)) fun names =>
          (deleteListed settings kind names
            { cleared := UInt64.ofNat (l.registry kind).records.values.length }).void := by
  rfl

theorem void_sweep (kind : ResourceKind) (now : Instant) :
    (sweep settings kind now).void =
      .step (fun l => (l.updateRegistry kind (·.removeIf (·.isExpiredAt now))).2) fun l =>
        (deleteRecords settings kind
          ((l.registry kind).removeIf (·.isExpiredAt now)).1).void :=
  congrArg (Dialogue.step _) (funext fun _ => Dialogue.void_bind_pure _ _)

end

end Injection

end FaultPlane
