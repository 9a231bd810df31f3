import FaultPlane.Proofs.Injection.Stages

/-!
# Tracked faults and their resources

When no job is under way, the resource of a tracked fault is missing exactly if some job has deleted
it after it was created and has not looked at the ledger since the fault was tracked
(`missing_iff`). So jobs that overlap can leave a fault tracked whose resource is gone
(`ghost_of_overlap`), but only a stop and a stop-all do.
-/

namespace FaultPlane.Injection

open Cluster (ClusterCall)

variable {settings : InjectionSettings} {catalog : Catalog}

/-! ### The invariant -/

/-- What holds of a configuration in which jobs go on side by side. -/
structure Coherent (settings : InjectionSettings) (catalog : Catalog) (c : Config) : Prop where
  chronicle : Chronicle c.ledger c.history
  /-- The cluster has what was created and not deleted since. -/
  present_iff : ∀ r, .created r ∈ c.history →
    (r ∈ c.cluster ↔ ∀ i, ¬ Before (.created r) (.deleted i r) c.history)
  known : ∀ i r, .deleted i r ∈ c.history → i < c.tasks.length
  made : ∀ {i : Nat} {task : Task} {r : Resource}, c.tasks[i]? = some task → task.makes? = some r →
    idNumber r.2 ≤ c.ledger.clock.last
  /-- No two jobs make the same resource. -/
  apart : ∀ {i j : Nat} {task other : Task} {r : Resource}, c.tasks[i]? = some task →
    c.tasks[j]? = some other → task.makes? = some r →
    other.makes? = some r → i = j
  stage : ∀ {i : Nat} {task : Task}, c.tasks[i]? = some task →
    Stage settings catalog i c.ledger c.history task

theorem coherent_init (cluster : Set Resource) : Coherent settings catalog { cluster } where
  chronicle := by
    refine ⟨Int.le_refl 0, ?_, ?_, ?_⟩
    · intro r created
      cases created
    · intro r tracked
      cases tracked
    · rintro ⟨kind, id⟩ tracks
      cases kind <;> cases tracks
  present_iff := by
    intro r created
    cases created
  known := by
    intro i r deleted
    cases deleted
  made := by
    intro i task r here
    simp at here
  apart := by
    intro i j task other r here
    simp at here
  stage := by
    intro i task here
    simp at here

/-! ### What a step leaves to the other jobs -/

variable {i j : Nat} {job : Job} {makes? makes?' : Option Resource} {l l' : Ledger}
  {history new : List Happening} {cluster cluster' : Set Resource} {call : ClusterCall}
  {answer : call.Answer}

theorem Progress.frame (progress : Progress catalog job makes? l l' history) (other : i ≠ j)
    (apart : ∀ r, makes? = some r → makes?' ≠ some r) :
    Frame j makes?' l history l' (l.gained l' ++ .stepped i :: history) where
  keeps := by
    intro e inside
    exact List.mem_append_right _ (List.mem_cons_of_mem _ inside)
  deleted := by
    intro r deleted
    exact deleted_mem_step.1 deleted
  before := by
    intro e before
    refine (before_step ?_ ?_).1 before
    · simp [mem_gained]
    · intro same
      cases same
      exact other rfl
  fresh := by
    intro r tracks
    by_cases hold : l.Tracks r
    · exact Or.inl hold
    · exact Or.inr (progress.gained r tracks hold).2.2
  uncreated := by
    intro r _ uncreated created
    exact uncreated (created_mem_step.1 created)
  untracked := by
    intro r makes untracked tracked
    rcases tracked_mem_step.1 tracked with ⟨now, before⟩ | old
    · exact apart r (progress.gained r now before).1 makes
    · exact untracked old

theorem Truthful.cases_new (truthful : Truthful i makes? cluster call answer cluster' new)
    {e : Happening} (h : e ∈ new) :
    (∃ r, e = .created r ∧ makes? = some r) ∨ ∃ r, e = .deleted i r := by
  cases truthful with
  | created named =>
    cases List.mem_singleton.1 h
    exact Or.inl ⟨_, rfl, named⟩
  | deleted =>
    cases List.mem_singleton.1 h
    exact Or.inr ⟨_, rfl⟩
  | refused => cases h
  | kept => cases h
  | listed => cases h

theorem Truthful.tracked_not_mem (truthful : Truthful i makes? cluster call answer cluster' new)
    (r : Resource) : .tracked r ∉ new := by
  intro h
  rcases truthful.cases_new h with ⟨r', created, -⟩ | ⟨r', deleted⟩
  · cases created
  · cases deleted

theorem Truthful.stepped_not_mem (truthful : Truthful i makes? cluster call answer cluster' new)
    (j : Nat) : .stepped j ∉ new := by
  intro h
  rcases truthful.cases_new h with ⟨r', created, -⟩ | ⟨r', deleted⟩
  · cases created
  · cases deleted

theorem Truthful.makes_of_created (truthful : Truthful i makes? cluster call answer cluster' new)
    {r : Resource} (h : .created r ∈ new) : makes? = some r := by
  rcases truthful.cases_new h with ⟨r', created, makes⟩ | ⟨r', deleted⟩
  · cases created
    exact makes
  · cases deleted

theorem Truthful.job_of_deleted (truthful : Truthful i makes? cluster call answer cluster' new)
    {r : Resource} (h : .deleted j r ∈ new) : j = i := by
  rcases truthful.cases_new h with ⟨r', created, makes⟩ | ⟨r', deleted⟩
  · cases created
  · cases deleted
    rfl

theorem Truthful.frame (truthful : Truthful i makes? cluster call answer cluster' new)
    (other : i ≠ j) (apart : ∀ r, makes? = some r → makes?' ≠ some r) :
    Frame j makes?' l history l (new ++ history) where
  keeps := by
    intro e inside
    exact List.mem_append_right new inside
  deleted := by
    intro r deleted
    rcases List.mem_append.1 deleted with now | old
    · exact absurd (truthful.job_of_deleted now).symm other
    · exact old
  before := by
    intro e before
    exact (before_append (truthful.stepped_not_mem j)).1 before
  fresh := by
    intro r tracks
    exact Or.inl tracks
  uncreated := by
    intro r makes uncreated created
    rcases List.mem_append.1 created with now | old
    · exact apart r (truthful.makes_of_created now) makes
    · exact uncreated old
  untracked := by
    intro r _ untracked tracked
    rcases List.mem_append.1 tracked with now | old
    · exact truthful.tracked_not_mem r now
    · exact untracked old

/-! ### The ledger, the cluster and the history -/

theorem Chronicle.after_step (h : Chronicle l history)
    (progress : Progress catalog job makes? l l' history) :
    Chronicle l' (l.gained l' ++ .stepped i :: history) where
  last_nonneg := Int.le_trans h.last_nonneg progress.clock_le
  number_le := by
    intro r created
    exact Int.le_trans (h.number_le r (created_mem_step.1 created)) progress.clock_le
  created := by
    intro r tracked
    rw [created_mem_step]
    rcases tracked_mem_step.1 tracked with ⟨now, before⟩ | old
    · exact (progress.gained r now before).2.1
    · exact h.created r old
  tracked := by
    intro r tracks
    rw [tracked_mem_step]
    by_cases hold : l.Tracks r
    · exact Or.inr (h.tracked r hold)
    · exact Or.inl ⟨tracks, hold⟩

theorem Chronicle.after_call (h : Chronicle l history)
    (truthful : Truthful i makes? cluster call answer cluster' new)
    (made : ∀ r, makes? = some r → idNumber r.2 ≤ l.clock.last) :
    Chronicle l (new ++ history) where
  last_nonneg := h.last_nonneg
  number_le := by
    intro r created
    rcases List.mem_append.1 created with now | old
    · exact made r (truthful.makes_of_created now)
    · exact h.number_le r old
  created := by
    intro r tracked
    rcases List.mem_append.1 tracked with now | old
    · exact absurd now (truthful.tracked_not_mem r)
    · exact List.mem_append_right new (h.created r old)
  tracked := by
    intro r tracks
    exact List.mem_append_right new (h.tracked r tracks)

theorem Truthful.present_iff (truthful : Truthful i makes? cluster call answer cluster' new)
    (before : ∀ r, .created r ∈ history →
      (r ∈ cluster ↔ ∀ k, ¬ Before (.created r) (.deleted k r) history))
    (fresh : ∀ r, .created r ∈ new → .created r ∉ history) (r : Resource)
    (h : .created r ∈ new ++ history) :
    r ∈ cluster' ↔ ∀ k, ¬ Before (.created r) (.deleted k r) (new ++ history) := by
  cases truthful with
  | @created _ _ made =>
    have hbefore : ∀ k, Before (.created r) (.deleted k r) ([.created made] ++ history) ↔
        Before (.created r) (.deleted k r) history := by
      intro k
      exact before_append (by simp)
    simp only [hbefore, Set.mem_insert_iff]
    by_cases hr : r = made
    · have hnever : ∀ k, ¬ Before (.created r) (.deleted k r) history := by
        intro k earlier
        exact fresh r (by simp [hr]) earlier.mem
      exact iff_of_true (Or.inl hr) hnever
    · have hold : .created r ∈ history := by
        rcases List.mem_cons.1 h with now | old
        · cases now
          exact absurd rfl hr
        · exact old
      rw [or_iff_right hr]
      exact before r hold
  | @deleted kind name _ =>
    have hold : .created r ∈ history := by
      rcases List.mem_cons.1 h with now | old
      · cases now
      · exact old
    simp only [Set.mem_sdiff, Set.mem_singleton_iff, before r hold]
    by_cases hr : r = (kind, name)
    · subst hr
      refine iff_of_false (fun present => present.2 rfl) ?_
      intro never
      exact never i (Or.inl ⟨rfl, hold⟩)
    · have hbefore : ∀ k, Before (.created r) (.deleted k r)
          ([.deleted i (kind, name)] ++ history) ↔ Before (.created r) (.deleted k r) history := by
        intro k
        refine before_append ?_
        intro same
        cases List.mem_singleton.1 same
        exact hr rfl
      simp only [hbefore, hr, not_false_eq_true, and_true]
  | refused => exact before r h
  | kept => exact before r h
  | listed => exact before r h

/-! ### Every step keeps the invariant -/

theorem Coherent.start {c : Config} (h : Coherent settings catalog c) (job : Job) :
    Coherent settings catalog
      { c with tasks := c.tasks ++ [{ job, rest := job.dialogue settings catalog }] } where
  chronicle := h.chronicle
  present_iff := h.present_iff
  known := by
    intro i r deleted
    rw [List.length_append]
    exact Nat.lt_add_right 1 (h.known i r deleted)
  made := by
    intro i task r here makes
    rcases getElem?_append_cases here with ⟨-, rfl⟩ | old
    · cases makes
    · exact h.made old makes
  apart := by
    intro i j task other r here there makes makes'
    rcases getElem?_append_cases here with ⟨-, rfl⟩ | old
    · cases makes
    · rcases getElem?_append_cases there with ⟨-, rfl⟩ | old'
      · cases makes'
      · exact h.apart old old' makes makes'
  stage := by
    intro i task here
    rcases getElem?_append_cases here with ⟨rfl, rfl⟩ | old
    · refine .begun ?_
      intro r deleted
      exact Nat.lt_irrefl _ (h.known _ r deleted)
    · exact h.stage old

theorem Coherent.goes {c : Config} (h : Coherent settings catalog c) {task : Task}
    {change : Ledger → Ledger} {next : Ledger → Dialogue Ledger Unit}
    (here : c.tasks[i]? = some task) (rest : task.rest = .step change next) :
    Coherent settings catalog
      { c with
        ledger := change c.ledger
        tasks := c.tasks.set i
          { task with
            makes? := task.makes?.or (task.job.makes? catalog c.ledger)
            rest := next c.ledger }
        history := c.ledger.gained (change c.ledger) ++ .stepped i :: c.history } := by
  obtain ⟨job, makes?, _⟩ := task
  cases rest
  obtain ⟨progress, stage⟩ := (h.stage here).goes h.chronicle
  refine ⟨h.chronicle.after_step progress, ?_, ?_, ?_, ?_, ?_⟩
  · intro r created
    have hbefore : ∀ k, Before (.created r) (.deleted k r)
        (c.ledger.gained (change c.ledger) ++ .stepped i :: c.history) ↔
          Before (.created r) (.deleted k r) c.history := by
      intro k
      refine before_step ?_ nofun
      simp [mem_gained]
    simp only [hbefore]
    exact h.present_iff r (created_mem_step.1 created)
  · intro k r deleted
    rw [List.length_set]
    exact h.known k r (deleted_mem_step.1 deleted)
  · intro k other r there makes
    rcases getElem?_set_cases there with ⟨rfl, rfl⟩ | ⟨-, old⟩
    · rcases progress.makes r makes with before | ⟨-, issued⟩
      · exact Int.le_trans (h.made here before) progress.clock_le
      · exact issued
    · exact Int.le_trans (h.made old makes) progress.clock_le
  · -- A new id ends in a number above all those of the resources that the others make.
    have hnew : ∀ {k other r}, i ≠ k → c.tasks[k]? = some other →
        makes?.or (job.makes? catalog c.ledger) = some r → other.makes? ≠ some r := by
      intro k other r hik there makes makes'
      rcases progress.makes r makes with before | ⟨above, -⟩
      · exact hik (h.apart here there before makes')
      · have hle := h.made there makes'
        omega
    intro k m task other r there there' makes makes'
    rcases getElem?_set_cases there with ⟨rfl, rfl⟩ | ⟨hk, old⟩
    · rcases getElem?_set_cases there' with ⟨rfl, -⟩ | ⟨hm, old'⟩
      · rfl
      · exact absurd makes' (hnew hm old' makes)
    · rcases getElem?_set_cases there' with ⟨rfl, rfl⟩ | ⟨hm, old'⟩
      · exact absurd makes (hnew hk old makes')
      · exact h.apart old old' makes makes'
  · intro k other there
    rcases getElem?_set_cases there with ⟨rfl, rfl⟩ | ⟨hk, old⟩
    · exact stage
    · refine (h.stage old).frame (progress.frame hk ?_)
      intro r makes makes'
      exact hk (h.apart here old makes makes')

theorem Coherent.calls {c : Config} (h : Coherent settings catalog c) {task : Task}
    {next : call.Answer → Dialogue Ledger Unit} (here : c.tasks[i]? = some task)
    (rest : task.rest = .ask (.cluster call) next)
    (truthful : Truthful i task.makes? c.cluster call answer cluster' new) :
    Coherent settings catalog
      { c with
        cluster := cluster'
        tasks := c.tasks.set i { task with rest := next answer }
        history := new ++ c.history } := by
  obtain ⟨job, makes?, _⟩ := task
  cases rest
  obtain ⟨fresh, stage⟩ := (h.stage here).calls truthful
  refine ⟨h.chronicle.after_call truthful fun r makes => h.made here makes,
    truthful.present_iff h.present_iff fresh, ?_, ?_, ?_, ?_⟩
  · intro k r deleted
    rw [List.length_set]
    rcases List.mem_append.1 deleted with now | old
    · rw [truthful.job_of_deleted now]
      exact (List.getElem?_eq_some_iff.1 here).1
    · exact h.known k r old
  · intro k other r there makes
    rcases getElem?_set_cases there with ⟨rfl, rfl⟩ | ⟨-, old⟩
    · exact h.made here makes
    · exact h.made old makes
  · intro k m task other r there there' makes makes'
    rcases getElem?_set_cases there with ⟨rfl, rfl⟩ | ⟨hk, old⟩
    · rcases getElem?_set_cases there' with ⟨rfl, -⟩ | ⟨hm, old'⟩
      · rfl
      · exact h.apart here old' makes makes'
    · rcases getElem?_set_cases there' with ⟨rfl, rfl⟩ | ⟨hm, old'⟩
      · exact h.apart old here makes makes'
      · exact h.apart old old' makes makes'
  · intro k other there
    rcases getElem?_set_cases there with ⟨rfl, rfl⟩ | ⟨hk, old⟩
    · exact stage
    · refine (h.stage old).frame (truthful.frame hk ?_)
      intro r makes makes'
      exact hk (h.apart here old makes makes')

theorem Coherent.step {c c' : Config} (h : Coherent settings catalog c)
    (step : Step settings catalog c c') : Coherent settings catalog c' := by
  cases step with
  | start job => exact h.start job
  | ledger here rest => exact h.goes here rest
  | call here rest truthful => exact h.calls here rest truthful

theorem coherent_of_reachable {c : Config} (h : Reachable settings catalog c) :
    Coherent settings catalog c := by
  induction h with
  | init cluster => exact coherent_init cluster
  | step _ step ih => exact ih.step step

/-! ### Missing resources -/

/-- The fault of a resource is tracked only after the resource was created. When no job is under
way, the resource of a tracked fault is missing exactly if a job that is there to stop the fault has
deleted it after it was created, and has made its last step on the ledger before the fault was
tracked. -/
theorem missing_iff {c : Config} (reachable : Reachable settings catalog c) (quiet : c.Quiet)
    {r : Resource} (tracks : c.ledger.Tracks r) :
    .created r ∈ c.history ∧
      (r ∉ c.cluster ↔ ∃ i task, c.tasks[i]? = some task ∧ task.job.Stops r ∧
        Before (.created r) (.deleted i r) c.history ∧
          ¬ Before (.tracked r) (.stepped i) c.history) := by
  have hcoherent := coherent_of_reachable reachable
  have hcreated := hcoherent.chronicle.created r (hcoherent.chronicle.tracked r tracks)
  refine ⟨hcreated, ?_⟩
  rw [hcoherent.present_iff r hcreated]
  constructor
  · intro missing
    obtain ⟨i, hbefore⟩ := not_forall_not.1 missing
    have hknown := hcoherent.known i r hbefore.mem_later
    have here : c.tasks[i]? = some c.tasks[i] := List.getElem?_eq_getElem hknown
    have hover := quiet c.tasks[i] (List.getElem_mem hknown)
    obtain ⟨stops, hlate⟩ := (hcoherent.stage here).blame hover hbefore.mem_later tracks
    exact ⟨i, c.tasks[i], here, stops, hbefore, hlate⟩
  · rintro ⟨i, -, -, -, hbefore, -⟩ never
    exact never i hbefore

/-! ### Overlapping jobs -/

section

variable {tasks : List Task}

theorem Reachable.goes {change : Ledger → Ledger} {next : Ledger → Dialogue Ledger Unit}
    (h : Reachable settings catalog
      ⟨l, cluster, tasks ++ [⟨job, makes?, .step change next⟩], history⟩) :
    ∃ history, Reachable settings catalog
      ⟨change l, cluster, tasks ++ [⟨job, makes?.or (job.makes? catalog l), next l⟩], history⟩ := by
  have hstep := h.step (.ledger List.getElem?_concat_length rfl)
  rw [List.set_append_right _ _ (Nat.le_refl _), Nat.sub_self, List.set_cons_zero] at hstep
  exact ⟨_, hstep⟩

theorem Reachable.calls {next : call.Answer → Dialogue Ledger Unit}
    (h : Reachable settings catalog
      ⟨l, cluster, tasks ++ [⟨job, makes?, .ask (.cluster call) next⟩], history⟩)
    (truthful : Truthful tasks.length makes? cluster call answer cluster' new) :
    ∃ history, Reachable settings catalog
      ⟨l, cluster', tasks ++ [⟨job, makes?, next answer⟩], history⟩ := by
  have hstep := h.step (.call List.getElem?_concat_length rfl truthful)
  rw [List.set_append_right _ _ (Nat.le_refl _), Nat.sub_self, List.set_cons_zero] at hstep
  exact ⟨_, hstep⟩

/-- An apply can come to the point where the resource is created and its fault not tracked yet. -/
theorem Reachable.apply (h : Reachable settings catalog ⟨l, cluster, tasks, history⟩)
    {now : Time.Instant} {request : Request} {plan : Plan} {record : FaultRecord}
    (planned : request.plan catalog = .ok plan)
    (recorded : plan.record? request.kind l now = some record) :
    ∃ history, Reachable settings catalog
      ⟨(l.issue now).2, insert (request.kind.resource, record.id) cluster,
        tasks ++ [⟨.apply now request, some (request.kind.resource, record.id),
          .step (Ledger.track request.kind.resource record) fun _ => .done ()⟩], history⟩ := by
  have hid := plan.id_of_record? now request.kind l recorded
  have hstart := h.step (.start (.apply now request))
  simp only [Job.dialogue, apply_planned settings now planned, void_inject] at hstart
  obtain ⟨_, hissued⟩ := hstart.goes
  simp only [Job.makes?, planned, recorded, Option.none_or, ← hid] at hissued
  have hanswer : Truthful tasks.length (some (request.kind.resource, record.id)) cluster
      (.apply (plan.manifest settings (plan.recordId request.kind l now) (l.issue now).1))
      (⟨true, ""⟩ : Cluster.ApplyOutcome) _ _ := .created rfl
  exact hissued.calls hanswer

/-- A stop-all pass can forget everything and then delete the only resource. -/
theorem Reachable.stopAll {kind : ResourceKind} {name : String}
    (h : Reachable settings catalog ⟨l, cluster, tasks, history⟩)
    (only : ∀ id, (kind, id) ∈ cluster ↔ id = name)
    (free : settings.protectedNames.contains name = false) :
    ∃ history, Reachable settings catalog
      ⟨(l.updateRegistry kind (·.drain)).2, cluster \ {(kind, name)},
        tasks ++ [⟨.stopAll kind, none, .done ()⟩], history⟩ := by
  have hstart := h.step (.start (.stopAll kind))
  simp only [Job.dialogue, void_stopAll] at hstart
  obtain ⟨_, hdrained⟩ := hstart.goes
  have hlist : Truthful tasks.length none cluster (.list kind settings.namespaceName) [name]
      cluster [] := .listed fun id => by rw [only, List.mem_singleton]
  obtain ⟨_, hlisted⟩ := hdrained.calls hlist
  simp only [deleteListed, free, Bool.false_eq_true, if_false] at hlisted
  have hdelete : Truthful tasks.length none cluster (.delete kind name settings.namespaceName) true
      _ _ := .deleted
  exact hlisted.calls hdelete

end

/-- A stop-all pass that runs while an apply waits for the cluster empties the ledger, finds the new
resource and deletes it; the fault is tracked after that. -/
theorem ghost_of_overlap {now : Time.Instant} {request : Request} {plan : Plan}
    {record : FaultRecord} (planned : request.plan catalog = .ok plan)
    (recorded : plan.record? request.kind {} now = some record)
    (free : settings.protectedNames.contains record.id = false) :
    ∃ c, Reachable settings catalog c ∧ c.Quiet ∧
      c.ledger.Tracks (request.kind.resource, record.id) ∧
        (request.kind.resource, record.id) ∉ c.cluster := by
  obtain ⟨_, happlied⟩ := (Reachable.init ∅).apply planned recorded
  have honly : ∀ id, (request.kind.resource, id) ∈ insert (request.kind.resource, record.id)
      (∅ : Set Resource) ↔ id = record.id := by simp
  obtain ⟨_, hstopped⟩ := happlied.stopAll honly free
  have hghost := hstopped.step (.ledger (i := 0) rfl rfl)
  refine ⟨_, hghost, ?_, ?_, ?_⟩
  · intro task member
    rcases List.mem_cons.1 member with rfl | last
    · rfl
    · rw [List.mem_singleton.1 last]
  · exact tracks_track.2 (Or.inl rfl)
  · exact fun present => present.2 rfl

/-- Ten seconds of delay for the service checkout, and a stop-all pass at the same time. -/
theorem ghost_checkout :
    ∃ c, Reachable ⟨"chaos", 9277, []⟩ {} c ∧ c.Quiet ∧
      c.ledger.Tracks (.networkChaos, "network-delay-checkout-1") ∧
        (.networkChaos, "network-delay-checkout-1") ∉ c.cluster := by
  let request : Request :=
    .networkDelay { service := "checkout", delaySeconds := some 10, durationMinutes := some 5 }
  let plan : Plan := ⟨"checkout", "checkout", 10, 5, .network "checkout" "checkout"⟩
  have planned : request.plan {} = .ok plan := by rfl
  have recorded : plan.record? request.kind {} ⟨0, 0⟩ =
      some ⟨"network-delay-checkout-1", "checkout", .networkDelay, 10, 5, ⟨0, 0⟩, ⟨300, 0⟩,
        .active⟩ := by rfl
  exact ghost_of_overlap planned recorded rfl

theorem ghost_checkout_stopped :
    ∃ c, Reachable ⟨"chaos", 9277, []⟩ {} c ∧ c.Quiet ∧ ∃ i task, c.tasks[i]? = some task ∧
      task.job.Stops (.networkChaos, "network-delay-checkout-1") ∧
        .deleted i (.networkChaos, "network-delay-checkout-1") ∈ c.history := by
  obtain ⟨c, reachable, quiet, tracks, missing⟩ := ghost_checkout
  obtain ⟨-, hmissing⟩ := missing_iff reachable quiet tracks
  obtain ⟨i, task, here, stops, before, -⟩ := hmissing.1 missing
  exact ⟨c, reachable, quiet, i, task, here, stops, before.mem_later⟩

/-- Not every tracked fault has its resource when no job is under way. -/
theorem not_always_present :
    ¬ ∀ (settings : InjectionSettings) (catalog : Catalog) (c : Config),
      Reachable settings catalog c → c.Quiet → ∀ r, c.ledger.Tracks r → r ∈ c.cluster := by
  intro always
  obtain ⟨c, reachable, quiet, tracks, missing⟩ := ghost_checkout
  exact missing (always _ _ c reachable quiet _ tracks)

end FaultPlane.Injection
