import FaultPlane.Plane.Basic
import FaultPlane.Proofs.Discovery.Reflection

/-!
# The order of polls in a pass

The polls of a pass over all services go on side by side, and any of them may make its next step.
When the answers of a service depend on the service only, the directory holds the same after a pass
as if the services had been polled one after the other, and what it holds of one service has nothing
to do with the others (`pass_settled`).
-/

namespace FaultPlane

open Discovery (Directory Observation)
open FaultPlane.Time (Instant)

namespace Discovery

section

variable {servicePort : UInt16} {world : World Unit} {d d' : Directory}

/-! ### Services whose answers depend on the call only -/

/-- The answers to the poll of a service. -/
def Observation.expected (servicePort : UInt16) (world : World Unit) (i : ServiceEntry × Instant) :
    Observation where
  service := i.1
  now := i.2
  info := (world (.service (i.1.endpoint servicePort) .info) ()).1
  status := (world (.service (i.1.endpoint servicePort) .status) ()).1

theorem run_pollAll (now : Instant) (services : List ServiceEntry) (d : Directory) :
    (pollAll servicePort now services).run world d () =
      ((), ((services.map (·, now)).map (Observation.expected servicePort world)).foldl
        Directory.note d, ()) := by
  induction services generalizing d with
  | nil => rfl
  | cons service services ih =>
    have hpoll := run_poll world servicePort now service d ()
    rw [pollAll, Dialogue.run_bind, hpoll]
    exact ih _

/-- What can come of some polls that go on side by side until all are done. -/
def Pass (servicePort : UInt16) (world : World Unit) (polls : List (ServiceEntry × Instant))
    (d d' : Directory) : Prop :=
  ∃ tasks, Concurrent (program servicePort) d d' tasks ∧ (tasks.map (·.label)).Perm polls ∧
    ∀ task ∈ tasks, task.rest = .done () ∧ ∀ e ∈ task.had, e.2 = (world e.1 ()).1

/-! ### The polls of a pass -/

theorem eq_expected {o : Observation}
    (answered : ∀ e ∈ o.exchanges servicePort, e.2 = (world e.1 ()).1) :
    o = .expected servicePort world (o.service, o.now) := by
  have hinfo := answered _ List.mem_cons_self
  have hstatus := answered _ (List.mem_cons_of_mem _ List.mem_cons_self)
  obtain ⟨service, now, info, status⟩ := o
  dsimp only at hinfo hstatus
  rw [hinfo, hstatus]
  rfl

theorem entry_foldl_perm {history history' : List Observation} (perm : history.Perm history')
    (once : (history.map (·.service.id)).Nodup) (k : String) :
    (history.foldl Directory.note d).entry k = (history'.foldl Directory.note d).entry k := by
  by_cases polled : ∃ o ∈ history, o.service.id = k
  · obtain ⟨o, inside, rfl⟩ := polled
    have once' := (perm.map (·.service.id)).nodup_iff.1 once
    rw [entry_foldl_of_mem once inside, entry_foldl_of_mem once' (perm.mem_iff.1 inside)]
  · have hnone : ∀ o ∈ history, o.service.id ≠ k := fun o inside same => polled ⟨o, inside, same⟩
    rw [entry_foldl_of_unpolled hnone,
      entry_foldl_of_unpolled fun o inside => hnone o (perm.mem_iff.2 inside)]

/-- After a pass the directory holds what the polls note, in whatever order. -/
theorem Pass.entry {polls : List (ServiceEntry × Instant)} (h : Pass servicePort world polls d d')
    (once : (polls.map (·.1.id)).Nodup) (k : String) :
    d'.entry k =
      ((polls.map (Observation.expected servicePort world)).foldl Directory.note d).entry k := by
  obtain ⟨tasks, hsteps, hperm, hended⟩ := h
  have honce : (tasks.map fun task => task.label.1.id).Nodup := by
    have hids := (hperm.map fun i => i.1.id).nodup_iff.2 once
    rwa [List.map_map] at hids
  have hapart := hsteps.apart (fun _ => local_poll) honce
  have htasks : ∀ task ∈ tasks,
      task = (Observation.expected servicePort world task.label).finished servicePort := by
    rintro ⟨⟨service, now⟩, had, rest⟩ inside
    obtain ⟨hdone, hanswered⟩ := hended _ inside
    cases hdone
    obtain ⟨t, hyields, -⟩ := (hapart.alone _ inside).finished
    obtain ⟨o, same, hexchanges, -⟩ := yields_poll hyields
    cases same
    cases hexchanges
    exact congrArg (Observation.finished servicePort) (eq_expected hanswered)
  let observations := (tasks.map (·.label)).map (Observation.expected servicePort world)
  have hfinished : tasks = observations.map (·.finished servicePort) := by
    rw [List.map_map, List.map_map]
    exact (List.map_id tasks).symm.trans (List.map_congr_left htasks)
  have hobserved : (observations.map (·.service.id)).Nodup := by
    rw [List.map_map, List.map_map]
    exact honce
  rw [hfinished] at hsteps
  rw [entry_concurrent hsteps hobserved]
  exact entry_foldl_perm (hperm.map _) hobserved k

end

end Discovery

/-! ### Passes over the configured services -/

namespace Plane

variable (p : Plane)

/-- A pass over the services of a control plane, each polled at its time. -/
def Passes (world : World Unit) (times : ServiceEntry → Instant) : Directory → Directory → Prop :=
  Discovery.Pass p.servicePort world (p.config.services.map fun service => (service, times service))

/-- From one directory to another, the order in which the services were polled has not mattered. -/
structure Settled (world : World Unit) (times : ServiceEntry → Instant) (d d' : Directory) :
    Prop where
  /-- Polling the services one after the other comes to the same. -/
  sequential : ∀ now, (∀ service ∈ p.config.services, times service = now) → ∀ ledger id,
    let after := ((p.pollAll now).run world ⟨ledger, d⟩ ()).2.1.directory
    d'.infos.get? id = after.infos.get? id ∧ d'.statuses.get? id = after.statuses.get? id
  /-- A pass in which another service answers otherwise leaves the same of this one. -/
  isolated : ∀ service ∈ p.config.services, ∀ world' times' t t', p.Passes world' times' t t' →
    times' service = times service →
    (∀ c, (world' (.service (service.endpoint p.servicePort) c) ()).1 =
      (world (.service (service.endpoint p.servicePort) c) ()).1) →
    t.entry service.id = d.entry service.id → t'.entry service.id = d'.entry service.id
  others : ∀ id, id ∉ p.config.services.map (·.id) → d'.entry id = d.entry id
  kept_info : ∀ id ∈ d.infos.keys, id ∈ d'.infos.keys
  kept_status : ∀ id ∈ d.statuses.keys, id ∈ d'.statuses.keys
  polled : ∀ service ∈ p.config.services, service.id ∈ d'.statuses.keys

section

variable {p : Plane} {world : World Unit} {times : ServiceEntry → Instant} {d d' : Directory}

theorem Passes.entry (pass : p.Passes world times d d')
    (distinct : (p.config.services.map (·.id)).Nodup) {service : ServiceEntry}
    (inside : service ∈ p.config.services) :
    d'.entry service.id =
      (d.note (.expected p.servicePort world (service, times service))).entry service.id := by
  have hpolls : ((p.config.services.map fun service => (service, times service)).map
      (·.1.id)).Nodup := by
    rwa [List.map_map]
  rw [Discovery.Pass.entry pass hpolls]
  refine Discovery.entry_foldl_of_mem (o := .expected p.servicePort world (service, times service))
    ?_ ?_
  · rw [List.map_map]
    exact hpolls
  · exact List.mem_map_of_mem (List.mem_map_of_mem inside)

theorem Passes.entry_of_not_mem (pass : p.Passes world times d d')
    (distinct : (p.config.services.map (·.id)).Nodup) {id : String}
    (outside : id ∉ p.config.services.map (·.id)) : d'.entry id = d.entry id := by
  rw [Discovery.Pass.entry pass (by rwa [List.map_map])]
  refine Discovery.entry_foldl_of_unpolled fun o member same => outside ?_
  simp only [List.map_map, List.mem_map] at member
  obtain ⟨service, inside, rfl⟩ := member
  exact List.mem_map.2 ⟨service, inside, same⟩

theorem Passes.mem_infos (pass : p.Passes world times d d')
    (distinct : (p.config.services.map (·.id)).Nodup) {id : String} (known : id ∈ d.infos.keys) :
    id ∈ d'.infos.keys := by
  obtain ⟨info, hinfo⟩ := (d.infos.mem_keys_iff).1 known
  refine (d'.infos.mem_keys_iff).2 ?_
  by_cases inside : id ∈ p.config.services.map (·.id)
  · obtain ⟨service, member, rfl⟩ := List.mem_map.1 inside
    let o : Observation := .expected p.servicePort world (service, times service)
    have hentry : d'.infos.get? service.id = (o.info? service.id).or (some info) := by
      rw [← hinfo, ← Discovery.infos_note]
      exact congrArg Prod.fst (pass.entry distinct member)
    -- The poll has got a description, or the former one is still there.
    cases hgot : o.info? service.id with
    | none => exact ⟨info, by rw [hentry, hgot, Option.none_or]⟩
    | some got => exact ⟨got, by rw [hentry, hgot, Option.some_or]⟩
  · exact ⟨info, (congrArg Prod.fst (pass.entry_of_not_mem distinct inside)).trans hinfo⟩

theorem Passes.mem_statuses (pass : p.Passes world times d d')
    (distinct : (p.config.services.map (·.id)).Nodup) {service : ServiceEntry}
    (inside : service ∈ p.config.services) : service.id ∈ d'.statuses.keys := by
  let o : Observation := .expected p.servicePort world (service, times service)
  have hentry : d'.statuses.get? service.id = (d.note o).statuses.get? service.id :=
    congrArg Prod.snd (pass.entry distinct inside)
  exact (d'.statuses.mem_keys_iff).2 ⟨_, hentry.trans (Discovery.statuses_note d o)⟩

/-- When services with different ids answer as they do whatever the order of the calls is, the order
of the polls in a pass does not matter either. -/
theorem pass_settled (distinct : (p.config.services.map (·.id)).Nodup)
    (pass : p.Passes world times d d') : p.Settled world times d d' where
  sequential now same ledger id := by
    intro after
    have hpolls : (p.config.services.map fun service => (service, times service)) =
        p.config.services.map (·, now) :=
      List.map_congr_left fun service inside => by rw [same service inside]
    have hafter : after = ((p.config.services.map (·, now)).map
        (Observation.expected p.servicePort world)).foldl Directory.note d := by
      have hrun := run_onDirectory world
        (Discovery.pollAll p.servicePort now p.config.services) ⟨ledger, d⟩ ()
      rw [Discovery.run_pollAll] at hrun
      exact congrArg (fun result => result.2.1.directory) hrun
    have hentry := Discovery.Pass.entry pass (by rwa [List.map_map]) id
    rw [hpolls, ← hafter] at hentry
    exact ⟨congrArg Prod.fst hentry, congrArg Prod.snd hentry⟩
  isolated service inside world' times' t t' pass' sameTime sameAnswers sameEntry := by
    have hsame : Observation.expected p.servicePort world' (service, times' service) =
        .expected p.servicePort world (service, times service) := by
      simp only [Observation.expected, sameTime, sameAnswers]
    rw [pass'.entry distinct inside, pass.entry distinct inside, hsame]
    exact Directory.entry_note_congr sameEntry _
  others id := pass.entry_of_not_mem distinct
  kept_info id := pass.mem_infos distinct
  kept_status id known := by
    by_cases inside : id ∈ p.config.services.map (·.id)
    · obtain ⟨service, member, rfl⟩ := List.mem_map.1 inside
      exact pass.mem_statuses distinct member
    · obtain ⟨status, hstatus⟩ := (d.statuses.mem_keys_iff).1 known
      have hentry := congrArg Prod.snd (pass.entry_of_not_mem distinct inside)
      exact (d'.statuses.mem_keys_iff).2 ⟨status, hentry.trans hstatus⟩
  polled service := pass.mem_statuses distinct

end

/-! The service ts-order fails while the service ts-seat answers, and their polls overlap. -/

def pairPlane : Plane :=
  ⟨{ services := [⟨"ts-order", "Orders", none⟩, ⟨"ts-seat", "Seats", none⟩] }, {}⟩

/-- Everyone is well but ts-order. -/
def withoutOrders : World Unit
  | .service endpoint .info, w =>
    (if endpoint.serviceId = "ts-order" then .error (.refused 503) else .ok {}, w)
  | .service endpoint .status, w =>
    (if endpoint.serviceId = "ts-order" then .error (.refused 503) else .ok {}, w)
  | .service _ (.command c), w => (.ok (.failure c.faultId ""), w)
  | .cluster (.apply _), w => (⟨false, ""⟩, w)
  | .cluster (.delete ..), w => (false, w)
  | .cluster (.list ..), w => ([], w)

/-- What is known of ts-order from before. -/
def knownOrders : Directory :=
  Directory.putInfo {} "ts-order" { faults := [{ id := "slow-sql" }] }

theorem pass_settled_pair :
    (pairPlane.config.services.map (·.id)).Nodup ∧
      ∃ d, pairPlane.Passes withoutOrders (fun _ => ⟨1, 0⟩) knownOrders d ∧
        (d.statuses.get? "ts-order").map (fun t => (t.reachable, t.faults)) =
          some (false, [{ id := "slow-sql" }]) ∧
        (d.statuses.get? "ts-seat").map (fun t => (t.reachable, t.serviceName)) =
          some (true, "Seats") := by
  have distinct : (pairPlane.config.services.map (·.id)).Nodup := by decide
  let answer (c : Call) : c.Answer := (withoutOrders c ()).1
  have first : Concurrent (Discovery.program pairPlane.servicePort) knownOrders knownOrders [] :=
    .init
  have started := (first.start (⟨"ts-order", "Orders", none⟩, ⟨1, 0⟩)).start
    (⟨"ts-seat", "Seats", none⟩, ⟨1, 0⟩)
  have both := (started.answer (n := 1) (answer _) rfl).answer (n := 0) (answer _) rfl
  have failed := both.answer (n := 0) (answer _) rfl
  have described := (failed.step (n := 1) rfl).answer (n := 1) (answer _) rfl
  have looked := (described.step (n := 0) rfl).step (n := 1) rfl
  have noted := looked.step (n := 0) rfl
  obtain ⟨d, pass⟩ : ∃ d, pairPlane.Passes withoutOrders (fun _ => ⟨1, 0⟩) knownOrders d := by
    refine ⟨_, _, noted, List.Perm.refl _, ?_⟩
    simp [answer]
  have hsame := (pass_settled distinct pass).sequential ⟨1, 0⟩ (fun _ _ => rfl) {}
  refine ⟨distinct, d, pass, ?_, ?_⟩
  · rw [(hsame "ts-order").2]
    rfl
  · rw [(hsame "ts-seat").2]
    rfl

end Plane

end FaultPlane
