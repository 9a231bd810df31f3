import FaultPlane.Discovery.Poll
import FaultPlane.Proofs.Dialogue.Locality

/-!
# What polls observe

A poll of a service has two answers, and these alone decide what it notes in the directory
(`yields_poll`). It only touches what is noted under the id of its service (`local_poll`). So polls
of different services may go on side by side: they leave the same behind as one after the other
(`entry_concurrent`).
-/

namespace FaultPlane

open Contract (ServiceInfo ServiceStatus Toggle)
open Dialogue (Exchange)
open Service (Endpoint ServiceFailure)
open FaultPlane.Time (Instant)

/-- Where a configured service is reached. -/
def ServiceEntry.endpoint (service : ServiceEntry) (servicePort : UInt16) : Endpoint :=
  ⟨service.id, service.baseUrl servicePort⟩

namespace Discovery

/-- A poll of a service and the answers to it. -/
structure Observation where
  service : ServiceEntry
  now : Instant
  info : Except ServiceFailure ServiceInfo
  status : Except ServiceFailure ServiceStatus

namespace Observation

/-- The calls of a poll, with their answers. -/
def exchanges (servicePort : UInt16) (o : Observation) : List Exchange :=
  let endpoint : Endpoint := ⟨o.service.id, o.service.baseUrl servicePort⟩
  [⟨.service endpoint .info, o.info⟩, ⟨.service endpoint .status, o.status⟩]

/-- The state that is noted of a service with some switches. -/
def noted (o : Observation) (toggles : List Toggle) : ServiceStatus :=
  match o.status with
  | .ok status => identified o.service status
  | .error failure =>
    let details := "Service unreachable: " ++ failure.message o.service.id
    .offline o.service.id o.service.name details toggles o.now

end Observation

namespace Directory

def noteInfo (d : Directory) (id : String) : Except ServiceFailure ServiceInfo → Directory
  | .ok info => d.putInfo id info
  | .error _ => d

def noteStatus (d : Directory) (o : Observation) : Directory :=
  d.putStatus o.service.id (o.noted (d.knownToggles o.service.id))

def note (d : Directory) (o : Observation) : Directory :=
  (d.noteInfo o.service.id o.info).noteStatus o

/-- What is known of one service. -/
def entry (d : Directory) (id : String) : Option ServiceInfo × Option ServiceStatus :=
  (d.infos.get? id, d.statuses.get? id)

theorem entry_putInfo (d : Directory) (id k : String) (info : ServiceInfo) :
    (d.putInfo id info).entry k = if k = id then (some info, (d.entry k).2) else d.entry k := by
  simp only [entry, putInfo, Table.get?_insert]
  split <;> rfl

theorem entry_putStatus (d : Directory) (id k : String) (status : ServiceStatus) :
    (d.putStatus id status).entry k =
      if k = id then ((d.entry k).1, some status) else d.entry k := by
  simp only [entry, putStatus, Table.get?_insert]
  split <;> rfl

theorem knownToggles_congr {d t : Directory} {id : String} (h : d.entry id = t.entry id) :
    d.knownToggles id = t.knownToggles id := by
  have hinfo : d.infos.get? id = t.infos.get? id := congrArg Prod.fst h
  simp only [knownToggles, hinfo]

theorem entry_noteInfo_of_ne (d : Directory) {id k : String} (other : k ≠ id)
    (answer : Except ServiceFailure ServiceInfo) : (d.noteInfo id answer).entry k = d.entry k := by
  cases answer with
  | error failure => rfl
  | ok info => rw [noteInfo, entry_putInfo, if_neg other]

theorem entry_noteInfo_congr {d t : Directory} {id : String} (h : d.entry id = t.entry id)
    (answer : Except ServiceFailure ServiceInfo) :
    (d.noteInfo id answer).entry id = (t.noteInfo id answer).entry id := by
  cases answer with
  | error failure => exact h
  | ok info => rw [noteInfo, noteInfo, entry_putInfo, entry_putInfo, h]

theorem entry_note_of_ne (d : Directory) {o : Observation} {k : String} (other : k ≠ o.service.id) :
    (d.note o).entry k = d.entry k := by
  rw [note, noteStatus, entry_putStatus, if_neg other, d.entry_noteInfo_of_ne other]

/-- What is noted of a service depends on what was known of that service only. -/
theorem entry_note_congr {d t : Directory} {k : String} (h : d.entry k = t.entry k)
    (o : Observation) : (d.note o).entry k = (t.note o).entry k := by
  by_cases mine : k = o.service.id
  · subst mine
    have hinfo := entry_noteInfo_congr h o.info
    rw [note, note, noteStatus, noteStatus, entry_putStatus, entry_putStatus, hinfo,
      knownToggles_congr hinfo]
  · rw [d.entry_note_of_ne mine, t.entry_note_of_ne mine, h]

end Directory

/-! ### Polls -/

section

variable {servicePort : UInt16} {now : Instant} {service : ServiceEntry}

theorem yields_pollStatus {endpoint : Endpoint} {exchanges : List Exchange} {d d' : Directory}
    (h : (pollStatus service endpoint now).Yields exchanges d d')
    (info : Except ServiceFailure ServiceInfo) :
    ∃ status, exchanges = [⟨.service endpoint .status, status⟩] ∧
      d' = d.noteStatus ⟨service, now, info, status⟩ := by
  cases h with
  | @ask _ _ status _ _ _ answered =>
    refine ⟨status, ?_⟩
    cases status with
    | ok status =>
      cases answered with
      | step put =>
        cases put with
        | done => exact ⟨rfl, rfl⟩
    | error failure =>
      cases answered with
      | step looked =>
        cases looked with
        | step put =>
          cases put with
          | done => exact ⟨rfl, rfl⟩

/-- Whatever a poll is answered, it makes its two calls and notes the answers. -/
theorem yields_poll {exchanges : List Exchange} {d d' : Directory}
    (h : (poll servicePort now service).Yields exchanges d d') :
    ∃ o : Observation, (o.service, o.now) = (service, now) ∧
      exchanges = o.exchanges servicePort ∧ d' = d.note o := by
  cases h with
  | @ask _ _ info rest _ _ answered =>
    have hstatus : (pollStatus service ⟨service.id, service.baseUrl servicePort⟩ now).Yields rest
        (d.noteInfo service.id info) d' := by
      cases info with
      | error failure => exact answered
      | ok info =>
        cases answered with
        | step put => exact put
    obtain ⟨status, rfl, rfl⟩ := yields_pollStatus hstatus info
    exact ⟨⟨service, now, info, status⟩, rfl, rfl, rfl⟩

theorem local_putInfo (id : String) (info : ServiceInfo) :
    (Dialogue.change (Directory.putInfo · id info)).Local Directory.entry id := by
  refine .step ?_ ?_ (fun _ _ _ => rfl) fun _ => .done ()
  · intro d t agree
    rw [Directory.entry_putInfo, Directory.entry_putInfo, agree]
  · intro d k other
    rw [Directory.entry_putInfo, if_neg other]

theorem local_putStatus (id : String) (status : ServiceStatus) :
    (Dialogue.change (Directory.putStatus · id status)).Local Directory.entry id := by
  refine .step ?_ ?_ (fun _ _ _ => rfl) fun _ => .done ()
  · intro d t agree
    rw [Directory.entry_putStatus, Directory.entry_putStatus, agree]
  · intro d k other
    rw [Directory.entry_putStatus, if_neg other]

theorem local_poll : (poll servicePort now service).Local Directory.entry service.id := by
  refine .bind (.ask fun answer => ?_) fun _ => .ask fun answer => ?_
  · cases answer with
    | ok info => exact local_putInfo service.id info
    | error failure => exact .done ()
  · cases answer with
    | ok status => exact local_putStatus service.id (identified service status)
    | error failure =>
      -- The look reads the description of the same service only.
      refine .step (fun _ _ agree => agree) (fun _ _ _ => rfl) (fun d t agree => ?_) fun d => ?_
      · simp only [Directory.knownToggles_congr agree]
      · exact local_putStatus service.id _

end

/-! ### Runs -/

section

variable {ω : Type} (world : World ω) (servicePort : UInt16) (now : Instant)

theorem run_pollInfo (service : ServiceEntry) (endpoint : Endpoint) (d : Directory) (w : ω) :
    (pollInfo service endpoint).run world d w =
      ((), d.noteInfo service.id (world (.service endpoint .info) w).1,
        (world (.service endpoint .info) w).2) := by
  simp only [pollInfo, Dialogue.run_bind, Dialogue.run_service]
  cases (world (.service endpoint .info) w).1 <;> rfl

theorem run_pollStatus (service : ServiceEntry) (endpoint : Endpoint) (d : Directory) (w : ω)
    (info : Except ServiceFailure ServiceInfo) :
    (pollStatus service endpoint now).run world d w =
      ((), d.noteStatus ⟨service, now, info, (world (.service endpoint .status) w).1⟩,
        (world (.service endpoint .status) w).2) := by
  simp only [pollStatus, Dialogue.run_bind, Dialogue.run_service]
  cases hstatus : (world (.service endpoint .status) w).1 <;>
    simp [Directory.noteStatus, Observation.noted]

theorem run_poll (service : ServiceEntry) (d : Directory) (w : ω) :
    let first := world (.service (service.endpoint servicePort) .info) w
    let second := world (.service (service.endpoint servicePort) .status) first.2
    (poll servicePort now service).run world d w =
      ((), d.note ⟨service, now, first.1, second.1⟩, second.2) := by
  intro first second
  show (pollInfo service (service.endpoint servicePort) >>= fun _ =>
    pollStatus service (service.endpoint servicePort) now).run world d w = _
  rw [Dialogue.run_bind, run_pollInfo]
  exact run_pollStatus world now service _ _ _ first.1

end

/-! ### Polls one after the other -/

section

variable {history : List Observation} {d t : Directory} {k : String}

theorem entry_foldl_of_unpolled (h : ∀ o ∈ history, o.service.id ≠ k) :
    (history.foldl Directory.note d).entry k = d.entry k := by
  induction history generalizing d with
  | nil => rfl
  | cons o history ih =>
    have hfirst : k ≠ o.service.id := fun same => h o List.mem_cons_self same.symm
    rw [List.foldl_cons, ih fun x inside => h x (List.mem_cons_of_mem o inside),
      d.entry_note_of_ne hfirst]

theorem entry_foldl_congr (h : d.entry k = t.entry k) :
    (history.foldl Directory.note d).entry k = (history.foldl Directory.note t).entry k := by
  induction history generalizing d t with
  | nil => exact h
  | cons o history ih => exact ih (Directory.entry_note_congr h o)

/-- If every service is polled once, what is noted of each comes from its poll. -/
theorem entry_foldl_of_mem (once : (history.map (·.service.id)).Nodup) {o : Observation}
    (inside : o ∈ history) :
    (history.foldl Directory.note d).entry o.service.id = (d.note o).entry o.service.id := by
  induction history generalizing d with
  | nil => cases inside
  | cons x history ih =>
    obtain ⟨fresh, hrest⟩ := List.nodup_cons.1 once
    rw [List.foldl_cons]
    rcases List.mem_cons.1 inside with rfl | later
    · refine entry_foldl_of_unpolled fun y member same => fresh ?_
      exact List.mem_map.2 ⟨y, member, same⟩
    · have hother : o.service.id ≠ x.service.id :=
        fun same => fresh (List.mem_map.2 ⟨o, later, same⟩)
      rw [ih hrest later]
      exact Directory.entry_note_congr (d.entry_note_of_ne hother) o

end

/-! ### Polls side by side -/

/-- The poll of a service at some time. -/
def program (servicePort : UInt16) (i : ServiceEntry × Instant) : Dialogue Directory Unit :=
  poll servicePort i.2 i.1

/-- A poll that has come to its end. -/
def Observation.finished (servicePort : UInt16) (o : Observation) :
    Task (ServiceEntry × Instant) Directory Unit :=
  ⟨(o.service, o.now), o.exchanges servicePort, .done ()⟩

theorem Observation.eq_of_exchanges {servicePort : UInt16} {o o' : Observation}
    (same : (o'.service, o'.now) = (o.service, o.now))
    (h : o.exchanges servicePort = o'.exchanges servicePort) : o' = o := by
  obtain ⟨service, now, info, status⟩ := o
  obtain ⟨service', now', info', status'⟩ := o'
  cases same
  simp only [exchanges, List.cons.injEq, Sigma.mk.injEq, heq_eq_eq, true_and, and_true] at h
  rw [h.1, h.2]

/-- Polls of different services note the same side by side as one after the other. -/
theorem entry_concurrent {servicePort : UInt16} {observations : List Observation}
    {d d' : Directory}
    (h : Concurrent (program servicePort) d d' (observations.map (·.finished servicePort)))
    (once : (observations.map (·.service.id)).Nodup) (k : String) :
    d'.entry k = (observations.foldl Directory.note d).entry k := by
  have hkeys : (observations.map (·.finished servicePort)).map (fun task => task.label.1.id) =
      observations.map (·.service.id) := by
    rw [List.map_map]
    rfl
  have hapart : Apart Directory.entry (fun i => i.1.id) (program servicePort) d d'
      (observations.map (·.finished servicePort)) :=
    h.apart (fun _ => local_poll) (by rw [hkeys]; exact once)
  by_cases polled : ∃ o ∈ observations, o.service.id = k
  · obtain ⟨o, inside, rfl⟩ := polled
    have halone := hapart.alone (o.finished servicePort) (List.mem_map_of_mem inside)
    obtain ⟨t, hyields, hentry⟩ := halone.finished
    obtain ⟨o', same, hexchanges, rfl⟩ := yields_poll hyields
    rw [Observation.eq_of_exchanges same hexchanges] at hentry
    exact hentry.trans (entry_foldl_of_mem once inside).symm
  · have hnone : ∀ o ∈ observations, o.service.id ≠ k :=
      fun o inside same => polled ⟨o, inside, same⟩
    rw [entry_foldl_of_unpolled hnone]
    refine hapart.others k ?_
    rw [hkeys]
    intro inside
    obtain ⟨o, member, same⟩ := List.mem_map.1 inside
    exact hnone o member same

end Discovery

end FaultPlane
