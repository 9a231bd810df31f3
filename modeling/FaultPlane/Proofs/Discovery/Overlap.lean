import FaultPlane.Discovery.Toggling
import FaultPlane.Proofs.Dialogue.Timeline
import FaultPlane.Proofs.Discovery.Observation

/-!
# Polls that overlap with a toggle

A poll fetches the state of a service and notes it later, and nothing is compared when it is noted:
what was noted last stays. So when no job about a service is under way, the directory holds what the
last of them has noted. A toggle fetches after its command was accepted. What another poll has noted
after it may still have been fetched before (`held_after_toggle`, `not_always_fresh`).
-/

namespace FaultPlane

open Contract (Command Reply Toggle)
open Dialogue (Exchange)
open Service (Endpoint)
open FaultPlane.Time (Instant)

theorem Dialogue.void_eq_self {σ : Type} (d : Dialogue σ Unit) : d.void = d := by
  show d.andThen (fun _ => .done ()) = d
  induction d with
  | done a => rfl
  | step change next ih => exact congrArg (Dialogue.step change) (funext ih)
  | ask call next ih => exact congrArg (Dialogue.ask call) (funext ih)

namespace Discovery

/-! ### Jobs -/

/-- What is done about one service: a poll, whether for a pass over all services or for this one
alone, or a toggle. -/
inductive Job where
  | poll (now : Instant) (service : ServiceEntry)
  | toggle (now : Instant) (serviceId : String) (command : Command)

namespace Job

def serviceId : Job → String
  | .poll _ service => service.id
  | .toggle _ serviceId _ => serviceId

def dialogue (services : List ServiceEntry) (servicePort : UInt16) : Job → Dialogue Directory Unit
  | .poll now service => Discovery.poll servicePort now service
  | .toggle now serviceId command =>
    (Discovery.toggle services servicePort now serviceId command).void

end Job

section

variable {services : List ServiceEntry} {servicePort : UInt16} {now : Instant}
  {service : ServiceEntry} {turns before : List (Option Exchange)} {d : Dialogue Directory Unit}

theorem void_refresh (id : String) :
    (refresh services servicePort now id).void =
      match services.find? (·.id == id) with
      | some service => poll servicePort now service
      | none => .done () := by
  unfold refresh
  cases services.find? (·.id == id) with
  | none => rfl
  | some service =>
    exact (Dialogue.void_bind_pure _ fun _ => true).trans (Dialogue.void_eq_self _)

theorem dialogue_toggle (services : List ServiceEntry) (servicePort : UInt16) (now : Instant)
    (serviceId : String) (command : Command) :
    (Job.toggle now serviceId command).dialogue services servicePort = .done () ∨
      (Job.toggle now serviceId command).dialogue services servicePort =
        .ask (.service ⟨serviceId, Config.baseUrlOf services servicePort serviceId⟩
          (.command command)) fun
          | .ok _ => (refresh services servicePort now serviceId).void
          | .error _ => .done () := by
  show (toggle services servicePort now serviceId command).void = _ ∨
    (toggle services servicePort now serviceId command).void = _
  unfold toggle
  split
  · exact Or.inl rfl
  · split
    · exact Or.inl rfl
    · refine Or.inr (congrArg (Dialogue.ask _) (funext fun answer => ?_))
      cases answer with
      | ok reply => exact Dialogue.void_bind_pure _ fun _ => reply
      | error failure => rfl

/-! ### What is left of a job -/

/-- What can be left of a job about a service after some turns. Whoever notes a state has fetched
it before. -/
inductive Rest (id : String) (turns : List (Option Exchange)) : Dialogue Directory Unit → Prop where
  | asks {call : Call} {next : call.Answer → Dialogue Directory Unit}
      (stepless : ∀ answer, next answer = .done () → none ∉ turns) : Rest id turns (.ask call next)
  | keeps {change : Directory → Directory} {next : Directory → Dialogue Directory Unit}
      (kept : ∀ d k, (change d).statuses.get? k = d.statuses.get? k)
      (onward : ∀ d, next d ≠ .done ()) : Rest id turns (.step change next)
  | notes {change : Directory → Directory} {next : Directory → Dialogue Directory Unit}
      (o : Observation) (toggles : List Toggle) (endpoint : Endpoint) (own : o.service.id = id)
      (asked : endpoint.serviceId = id)
      (fetched : some ⟨.service endpoint .status, o.status⟩ ∈ turns)
      (noted : ∀ d k, (change d).statuses.get? k =
        if k = id then some (o.noted toggles) else d.statuses.get? k) :
      Rest id turns (.step change next)
  | ended : Rest id turns (.done ())

/-- A command that was sent to a service, with the answer. -/
def IsCommand : Option Exchange → Prop
  | some ⟨.service _ (.command _), _⟩ => True
  | _ => False

/-- A poll after some other turns. It has made a step when it is over, and it sends no command. -/
structure PollRest (id : String) (before turns : List (Option Exchange))
    (d : Dialogue Directory Unit) : Prop where
  rest : Rest id (before ++ turns) d
  stepped : d = .done () → none ∈ turns
  silent : ∀ turn ∈ turns, ¬ IsCommand turn

theorem PollRest.prepend {id : String} (more : List (Option Exchange))
    (silent : ∀ turn ∈ more, ¬ IsCommand turn) (h : PollRest id (before ++ more) turns d) :
    PollRest id before (more ++ turns) d where
  rest := List.append_assoc before more turns ▸ h.rest
  stepped ended := List.mem_append_right more (h.stepped ended)
  silent turn inside := (List.mem_append.1 inside).elim (silent turn) (h.silent turn)

theorem pollRest_status {endpoint : Endpoint} (asked : endpoint.serviceId = service.id)
    (h : (pollStatus service endpoint now).Leads turns d) : PollRest service.id before turns d := by
  cases h with
  | refl =>
    refine ⟨.asks fun answer ended => ?_, fun ended => ?_, by simp⟩
    · cases answer <;> cases ended
    · cases ended
  | ask answer rest =>
    let o : Observation := ⟨service, now, .error (.refused 0), answer⟩
    have fetched : ∀ later, some ⟨.service endpoint .status, o.status⟩ ∈
        before ++ some ⟨.service endpoint .status, answer⟩ :: later :=
      fun later => List.mem_append_right before List.mem_cons_self
    cases answer with
    | ok status =>
      cases rest with
      | refl =>
        refine ⟨.notes o [] endpoint rfl asked (fetched []) ?_, fun ended => ?_,
          by simp [IsCommand]⟩
        · exact fun d k => Table.get?_insert _ _ _ _
        · cases ended
      | step d rest =>
        cases rest with
        | refl => exact ⟨.ended, by simp, by simp [IsCommand]⟩
    | error failure =>
      cases rest with
      | refl =>
        refine ⟨.keeps (fun _ _ => rfl) fun d ended => ?_, fun ended => ?_, by simp [IsCommand]⟩
        · cases ended
        · cases ended
      | step d rest =>
        cases rest with
        | refl =>
          refine ⟨.notes o (d.knownToggles service.id) endpoint rfl asked (fetched [none]) ?_,
            fun ended => ?_, by simp [IsCommand]⟩
          · exact fun d k => Table.get?_insert _ _ _ _
          · cases ended
        | step d' rest =>
          cases rest with
          | refl => exact ⟨.ended, by simp, by simp [IsCommand]⟩

theorem pollRest_poll (before : List (Option Exchange))
    (h : (poll servicePort now service).Leads turns d) : PollRest service.id before turns d := by
  cases h with
  | refl =>
    refine ⟨.asks fun answer ended => ?_, fun ended => ?_, by simp⟩
    · cases answer <;> cases ended
    · cases ended
  | ask answer rest =>
    cases answer with
    | error failure =>
      exact .prepend [_] (by simp [IsCommand]) (pollRest_status rfl rest)
    | ok info =>
      cases rest with
      | refl =>
        refine ⟨.keeps (fun _ _ => rfl) fun d ended => ?_, fun ended => ?_, by simp [IsCommand]⟩
        · cases ended
        · cases ended
      | step d rest =>
        exact .prepend [_, none] (by simp [IsCommand]) (pollRest_status rfl rest)

theorem leads_refresh {id : String} (h : (refresh services servicePort now id).void.Leads turns d) :
    services.find? (·.id == id) = none ∧ turns = [] ∧ d = .done () ∨
      ∃ service, services.find? (·.id == id) = some service ∧ service.id = id ∧
        (poll servicePort now service).Leads turns d := by
  rw [void_refresh] at h
  cases hfind : services.find? (·.id == id) with
  | none =>
    rw [hfind] at h
    cases h with
    | refl => exact Or.inl ⟨rfl, rfl, rfl⟩
  | some service =>
    rw [hfind] at h
    exact Or.inr ⟨service, rfl, by simpa using List.find?_some hfind, h⟩

theorem leads_toggle {serviceId : String} {command : Command}
    (h : ((Job.toggle now serviceId command).dialogue services servicePort).Leads turns d) :
    turns = [] ∧ Rest serviceId [] d ∨ ∃ endpoint answer later, endpoint.serviceId = serviceId ∧
      turns = some ⟨.service endpoint (.command command), answer⟩ :: later ∧
        match answer with
        | .ok _ => (refresh services servicePort now serviceId).void.Leads later d
        | .error _ => later = [] ∧ d = .done () := by
  rcases dialogue_toggle services servicePort now serviceId command with ended | asks
  · rw [ended] at h
    cases h with
    | refl => exact Or.inl ⟨rfl, .ended⟩
  · rw [asks] at h
    cases h with
    | refl => exact Or.inl ⟨rfl, .asks fun _ _ => List.not_mem_nil⟩
    | ask answer rest =>
      refine Or.inr ⟨_, answer, _, rfl, rfl, ?_⟩
      cases answer with
      | ok reply => exact rest
      | error failure =>
        cases rest with
        | refl => exact ⟨rfl, rfl⟩

theorem Job.rest_of_leads {job : Job} (h : (job.dialogue services servicePort).Leads turns d) :
    Rest job.serviceId turns d := by
  cases job with
  | poll now service => exact (pollRest_poll [] h).rest
  | toggle now serviceId command =>
    rcases leads_toggle h with ⟨rfl, unsent⟩ | ⟨endpoint, answer, later, -, rfl, answered⟩
    · exact unsent
    · cases answer with
      | error failure =>
        obtain ⟨-, rfl⟩ := answered
        exact .ended
      | ok reply =>
        rcases leads_refresh answered with ⟨-, -, rfl⟩ | ⟨service, -, same, polls⟩
        · exact .ended
        · exact same ▸ (pollRest_poll [_] polls).rest

/-- A job with an accepted command is a toggle of the service. Its command came first, and it has
polled the service when it is over. -/
theorem Job.accepted_of_leads {job : Job} (h : (job.dialogue services servicePort).Leads turns d)
    {endpoint : Endpoint} {command : Command} {reply : Reply}
    (accepted : some ⟨.service endpoint (.command command), .ok reply⟩ ∈ turns)
    (configured : services.find? (·.id == endpoint.serviceId) = some service) :
    job.serviceId = endpoint.serviceId ∧
      ∃ later, turns = some ⟨.service endpoint (.command command), .ok reply⟩ :: later ∧
        (∀ turn ∈ later, ¬ IsCommand turn) ∧ (d = .done () → none ∈ later) := by
  cases job with
  | poll now service => exact absurd trivial ((pollRest_poll [] h).silent _ accepted)
  | toggle now serviceId command' =>
    rcases leads_toggle h with ⟨rfl, -⟩ | ⟨endpoint', answer, later, rfl, rfl, answered⟩
    · cases accepted
    · cases answer with
      | error failure =>
        obtain ⟨rfl, -⟩ := answered
        simp at accepted
      | ok reply' =>
        rcases leads_refresh answered with ⟨hnone, rfl, -⟩ | ⟨service, -, -, polls⟩
        · cases List.mem_singleton.1 accepted
          rw [hnone] at configured
          cases configured
        · obtain ⟨-, hstepped, hsilent⟩ := pollRest_poll [] polls
          rcases List.mem_cons.1 accepted with first | later
          · cases first
            exact ⟨rfl, _, rfl, hsilent, hstepped⟩
          · exact absurd trivial (hsilent _ later)

end

/-! ### Who has noted the state that is held -/

section

variable {id : String} {d d' : Directory} {tasks : List (Job × Dialogue Directory Unit)}
  {turns : List Turn}

/-- A job about a service has noted the state that a directory holds of it, in one turn, from the
answer that it was given in another. -/
structure Held (id : String) (d : Directory) (tasks : List (Job × Dialogue Directory Unit))
    (turns : List Turn) (n notedAt fetchedAt : Nat) (o : Observation) : Prop where
  about : ∃ job rest, tasks[n]? = some (job, rest) ∧ job.serviceId = id
  own : o.service.id = id
  noted : turns[notedAt]? = some (n, none)
  fetched : ∃ endpoint, endpoint.serviceId = id ∧
    turns[fetchedAt]? = some (n, some ⟨.service endpoint .status, o.status⟩)
  before : fetchedAt < notedAt
  held : ∃ toggles, d.statuses.get? id = some (o.noted toggles)

/-- No job about a service that has made a step from some turn on is over. -/
def Unfinished (id : String) (tasks : List (Job × Dialogue Directory Unit)) (turns : List Turn)
    (start : Nat) : Prop :=
  ∀ t n job rest, start ≤ t → turns[t]? = some (n, none) → tasks[n]? = some (job, rest) →
    job.serviceId = id → rest ≠ .done ()

theorem Unfinished.start {start : Nat} (h : Unfinished id tasks turns start)
    (known : ∀ turn ∈ turns, turn.1 < tasks.length) (task : Job × Dialogue Directory Unit) :
    Unfinished id (tasks ++ [task]) turns start := by
  intro t n job rest le turn here
  rcases getElem?_append_cases here with ⟨rfl, -⟩ | old
  · exact absurd (known _ (List.mem_of_getElem? turn)) (Nat.lt_irrefl _)
  · exact h t n job rest le turn old

/-- A task goes on. If it is over then, it has not made any step. -/
theorem Unfinished.set {start n : Nat} (h : Unfinished id tasks turns start) {job : Job}
    {rest : Dialogue Directory Unit} {e : Option Exchange}
    (stepless : job.serviceId = id → rest = .done () → e ≠ none ∧ (n, none) ∉ turns) :
    Unfinished id (tasks.set n (job, rest)) (turns ++ [(n, e)]) start := by
  intro t m job' rest' le turn here about ended
  rcases getElem?_set_cases here with ⟨rfl, same⟩ | ⟨other, old⟩
  · cases same
    obtain ⟨hanswered, hnone⟩ := stepless about ended
    rcases getElem?_append_cases turn with ⟨-, new⟩ | earlier
    · cases new
      exact hanswered rfl
    · exact hnone (List.mem_of_getElem? earlier)
  · rcases getElem?_append_cases turn with ⟨-, new⟩ | earlier
    · cases new
      exact other rfl
    · exact h t m job' rest' le earlier old about ended

variable {n notedAt fetchedAt : Nat} {o : Observation}

theorem Held.start (h : Held id d tasks turns n notedAt fetchedAt o)
    (task : Job × Dialogue Directory Unit) :
    Held id d (tasks ++ [task]) turns n notedAt fetchedAt o := by
  obtain ⟨job, rest, here, about⟩ := h.about
  have hlength := (List.getElem?_eq_some_iff.1 here).1
  exact { h with about := ⟨job, rest, (List.getElem?_append_left hlength).trans here, about⟩ }

theorem getElem?_append_old {turn turn' : Turn} {t : Nat} (h : turns[t]? = some turn) :
    (turns ++ [turn'])[t]? = some turn :=
  (List.getElem?_append_left (List.getElem?_eq_some_iff.1 h).1).trans h

theorem Held.set (h : Held id d tasks turns n notedAt fetchedAt o) {m : Nat} {job : Job}
    {rest rest' : Dialogue Directory Unit} (here : tasks[m]? = some (job, rest))
    (e : Option Exchange) (same : d'.statuses.get? id = d.statuses.get? id) :
    Held id d' (tasks.set m (job, rest')) (turns ++ [(m, e)]) n notedAt fetchedAt o := by
  obtain ⟨endpoint, asked, hfetched⟩ := h.fetched
  refine ⟨?_, h.own, getElem?_append_old h.noted, ⟨endpoint, asked, getElem?_append_old hfetched⟩,
    h.before, same ▸ h.held⟩
  obtain ⟨job', rest'', there, about⟩ := h.about
  by_cases mine : m = n
  · subst mine
    rw [here] at there
    cases there
    exact ⟨job, rest', List.getElem?_set_self (List.getElem?_eq_some_iff.1 here).1, about⟩
  · exact ⟨job', rest'', (List.getElem?_set_ne mine).trans there, about⟩

/-- Either no job about a service is over that has made a step, or the directory holds what one of
them has noted, and none that has made a step since is over. -/
def Tracked (id : String) (d : Directory) (tasks : List (Job × Dialogue Directory Unit))
    (turns : List Turn) : Prop :=
  Unfinished id tasks turns 0 ∨ ∃ n notedAt fetchedAt o,
    Held id d tasks turns n notedAt fetchedAt o ∧ Unfinished id tasks turns (notedAt + 1)

theorem Tracked.set (h : Tracked id d tasks turns) {m : Nat} {job : Job}
    {rest rest' : Dialogue Directory Unit} (here : tasks[m]? = some (job, rest))
    {e : Option Exchange} (same : d'.statuses.get? id = d.statuses.get? id)
    (stepless : job.serviceId = id → rest' = .done () → e ≠ none ∧ (m, none) ∉ turns) :
    Tracked id d' (tasks.set m (job, rest')) (turns ++ [(m, e)]) := by
  rcases h with none | ⟨n, notedAt, fetchedAt, o, hheld, hafter⟩
  · exact Or.inl (none.set stepless)
  · exact Or.inr ⟨n, notedAt, fetchedAt, o, hheld.set here e same, hafter.set stepless⟩

section

variable {services : List ServiceEntry} {servicePort : UInt16} {d₀ : Directory}

theorem tracked_of_timeline
    (h : Timeline (Job.dialogue services servicePort) d₀ d tasks turns) (id : String) :
    Tracked id d tasks turns := by
  induction h with
  | init =>
    refine Or.inl fun t n job rest _ turn => ?_
    cases turn
  | start job before ih =>
    rcases ih with none | ⟨n, notedAt, fetchedAt, o, hheld, hafter⟩
    · exact Or.inl (none.start before.lt_length _)
    · exact Or.inr ⟨n, notedAt, fetchedAt, o, hheld.start _, hafter.start before.lt_length _⟩
  | @step d tasks turns m job change next before here ih =>
    cases Job.rest_of_leads (before.leads here) with
    | keeps kept onward =>
      exact ih.set here (kept d id) fun _ ended => absurd ended (onward d)
    | notes o toggles endpoint own asked fetched noted =>
      by_cases about : job.serviceId = id
      · subst about
        have hinside := (List.getElem?_eq_some_iff.1 here).1
        obtain ⟨t, hlt, hfetched⟩ := List.mem_iff_getElem.1 (mem_ownTurns.1 fetched)
        have hturn : turns[t]? = some _ := List.getElem?_eq_some_iff.2 ⟨hlt, hfetched⟩
        -- What is noted now takes the place of what was held, and no turn comes after it.
        have hstatus := noted d job.serviceId
        rw [if_pos rfl] at hstatus
        refine Or.inr ⟨m, turns.length, t, o, ?_, ?_⟩
        · exact ⟨⟨job, _, List.getElem?_set_self hinside, rfl⟩, own, by simp,
            ⟨endpoint, asked, getElem?_append_old hturn⟩, hlt, toggles, hstatus⟩
        · intro t' n _ _ le turn
          have hbound := (List.getElem?_eq_some_iff.1 turn).1
          rw [List.length_append, List.length_singleton] at hbound
          omega
      · refine ih.set here ?_ fun mine => absurd mine about
        rw [noted, if_neg fun same => about same.symm]
  | @answer d tasks turns m job call next a before here ih =>
    cases Job.rest_of_leads (before.leads here) with
    | asks stepless =>
      refine ih.set here rfl fun _ ended => ⟨Option.some_ne_none _, fun inside => ?_⟩
      exact stepless a ended (mem_ownTurns.2 inside)

/-- Every job about a service is over or has not been answered anything yet. -/
def Quiet (id : String) (tasks : List (Job × Dialogue Directory Unit)) (turns : List Turn) : Prop :=
  ∀ n job rest, tasks[n]? = some (job, rest) → job.serviceId = id →
    rest = .done () ∨ ∀ turn ∈ turns, turn.1 ≠ n

/-- When no job about a service is under way and a toggle of it was accepted, the directory holds
what the last job has noted that has made a step. It was fetched after the toggle was accepted,
unless that job is another one, which was told before and has noted after the toggle has. -/
theorem held_after_toggle {service : ServiceEntry}
    (reached : Timeline (Job.dialogue services servicePort) d₀ d tasks turns) {endpoint : Endpoint}
    (configured : services.find? (·.id == endpoint.serviceId) = some service)
    (quiet : Quiet endpoint.serviceId tasks turns) {i acceptedAt : Nat} {command : Command}
    {reply : Reply}
    (accepted : turns[acceptedAt]? =
      some (i, some ⟨.service endpoint (.command command), .ok reply⟩)) :
    ∃ n notedAt fetchedAt o, Held endpoint.serviceId d tasks turns n notedAt fetchedAt o ∧
      (∀ t m job rest, notedAt < t → turns[t]? = some (m, none) →
        tasks[m]? = some (job, rest) → job.serviceId ≠ endpoint.serviceId) ∧
      (acceptedAt < fetchedAt ∨ fetchedAt < acceptedAt ∧ n ≠ i ∧
        ∃ ownAt, acceptedAt < ownAt ∧ ownAt < notedAt ∧ turns[ownAt]? = some (i, none)) := by
  have hmem := List.mem_of_getElem? accepted
  obtain ⟨⟨job, rest⟩, here⟩ : ∃ task, tasks[i]? = some task :=
    ⟨_, List.getElem?_eq_getElem (reached.lt_length _ hmem)⟩
  obtain ⟨about, later, hturns, silent, stepped⟩ :=
    Job.accepted_of_leads (reached.leads here) (mem_ownTurns.2 hmem) configured
  have hover : rest = .done () :=
    (quiet i job rest here about).resolve_right fun none => none _ hmem rfl
  have once : some ⟨.service endpoint (.command command), .ok reply⟩ ∉ later :=
    fun again => silent _ again trivial
  -- The poll of the toggle has noted what it fetched.
  obtain ⟨ownAt, hown⟩ : ∃ ownAt, turns[ownAt]? = some (i, none) := by
    refine List.mem_iff_getElem?.1 (mem_ownTurns.1 ?_)
    rw [hturns]
    exact List.mem_cons_of_mem _ (stepped hover)
  have hlt : acceptedAt < ownAt := lt_of_ownTurns hturns once accepted hown (by simp)
  rcases tracked_of_timeline reached endpoint.serviceId with
    unfinished | ⟨n, notedAt, fetchedAt, o, hheld, hafter⟩
  · exact absurd hover (unfinished ownAt i job rest (Nat.zero_le _) hown here about)
  have hlast : ∀ t m job rest, notedAt < t → turns[t]? = some (m, none) →
      tasks[m]? = some (job, rest) → job.serviceId ≠ endpoint.serviceId := by
    intro t m job rest lt turn there mine
    rcases quiet m job rest there mine with ended | none
    · exact hafter t m job rest lt turn there mine ended
    · exact none _ (List.mem_of_getElem? turn) rfl
  refine ⟨n, notedAt, fetchedAt, o, hheld, hlast, ?_⟩
  obtain ⟨endpoint', -, hfetched⟩ := hheld.fetched
  rcases Nat.lt_trichotomy acceptedAt fetchedAt with after | same | earlier
  · exact Or.inl after
  · rw [same, hfetched] at accepted
    cases accepted
  · have hother : n ≠ i := by
      rintro rfl
      have hfirst := lt_of_ownTurns hturns once accepted hfetched (by simp)
      omega
    have hle : ¬ notedAt < ownAt := fun lt => hlast ownAt i job rest lt hown here about
    have hne : ownAt ≠ notedAt := by
      rintro rfl
      rw [hheld.noted] at hown
      cases hown
      exact hother rfl
    exact Or.inr ⟨earlier, hother, ownAt, hlt, by omega, hown⟩

end

end

/-! ### A poll that is overtaken by a toggle -/

/-- The state of a service that is held was fetched after some turn. -/
def Fresh (id : String) (d : Directory) (turns : List Turn) (start : Nat) : Prop :=
  ∃ (n fetchedAt : Nat) (o : Observation) (endpoint : Endpoint) (toggles : List Toggle),
    start < fetchedAt ∧ endpoint.serviceId = id ∧
      turns[fetchedAt]? = some (n, some ⟨.service endpoint .status, o.status⟩) ∧
      d.statuses.get? id = some (o.noted toggles)

def orderEntry : ServiceEntry := ⟨"ts-order", "Orders", none⟩

def slowOn : Command := { faultId := "slow", enable := true }

def slowOff : Toggle := .off "slow"

/-- A poll is told that a fault is off. It notes so after a toggle has switched the fault on, and
has noted that. -/
def overtaken : List Turn :=
  let endpoint := orderEntry.endpoint 8080
  [(0, some ⟨.service endpoint .info, .ok {}⟩), (0, none),
    (0, some ⟨.service endpoint .status, .ok { faults := [slowOff] }⟩),
    (1, some ⟨.service endpoint (.command slowOn), .ok { success := true }⟩),
    (1, some ⟨.service endpoint .info, .ok {}⟩), (1, none),
    (1, some ⟨.service endpoint .status, .ok { faults := [{ slowOff with enabled := true }] }⟩),
    (1, none), (0, none)]

theorem timeline_overtaken : ∃ d tasks,
    Timeline (Job.dialogue [orderEntry] 8080) {} d tasks overtaken ∧
      Quiet "ts-order" tasks overtaken ∧
      (d.statuses.get? "ts-order").map (·.faults) = some [slowOff] := by
  let info : Call := .service (orderEntry.endpoint 8080) .info
  let status : Call := .service (orderEntry.endpoint 8080) .status
  let command : Call := .service (orderEntry.endpoint 8080) (.command slowOn)
  let described : info.Answer := .ok {}
  let off : status.Answer := .ok { faults := [slowOff] }
  let on : status.Answer := .ok { faults := [{ slowOff with enabled := true }] }
  let carriedOut : command.Answer := .ok { success := true }
  have first : Timeline (Job.dialogue [orderEntry] 8080) {} {} [] [] := .init
  have started := (first.start (.poll ⟨0, 0⟩ orderEntry)).start (.toggle ⟨0, 0⟩ "ts-order" slowOn)
  have settled := (started.answer (n := 0) described rfl).step (n := 0) rfl
  have fetched := settled.answer (n := 0) off rfl
  have accepted := fetched.answer (n := 1) carriedOut rfl
  have polled := ((accepted.answer (n := 1) described rfl).step (n := 1) rfl).answer (n := 1) on rfl
  have noted := (polled.step (n := 1) rfl).step (n := 0) rfl
  refine ⟨_, _, noted, ?_, rfl⟩
  intro n job rest here _
  left
  match n with
  | 0 | 1 =>
    cases here
    rfl

theorem not_fresh_overtaken {d : Directory}
    (off : (d.statuses.get? "ts-order").map (·.faults) = some [slowOff]) :
    ¬ Fresh "ts-order" d overtaken 3 := by
  rintro ⟨n, fetchedAt, ⟨service, now, described, answer⟩, endpoint, toggles, after, -, fetched,
    held⟩
  -- Only one state was fetched after the command, and there the fault is on.
  match fetchedAt with
  | 4 | 5 | 7 | 8 => cases fetched
  | 6 =>
    cases fetched
    rw [held] at off
    cases off

theorem held_after_toggle_overtaken : ∃ d tasks,
    Timeline (Job.dialogue [orderEntry] 8080) {} d tasks overtaken ∧
      Quiet "ts-order" tasks overtaken ∧
      ∃ n notedAt fetchedAt o, Held "ts-order" d tasks overtaken n notedAt fetchedAt o ∧
        fetchedAt < 3 ∧ n ≠ 1 := by
  obtain ⟨d, tasks, reached, quiet, off⟩ := timeline_overtaken
  let endpoint := orderEntry.endpoint 8080
  have configured : [orderEntry].find? (·.id == endpoint.serviceId) = some orderEntry := rfl
  have accepted : overtaken[3]? =
    some (1, some ⟨.service endpoint (.command slowOn), .ok { success := true }⟩) := rfl
  obtain ⟨n, notedAt, fetchedAt, o, hheld, -, horder⟩ :=
    held_after_toggle reached configured quiet accepted
  refine ⟨d, tasks, reached, quiet, n, notedAt, fetchedAt, o, hheld, ?_⟩
  rcases horder with after | ⟨earlier, other, -⟩
  · obtain ⟨endpoint, asked, hfetched⟩ := hheld.fetched
    obtain ⟨toggles, hstatus⟩ := hheld.held
    exact absurd ⟨n, fetchedAt, o, endpoint, toggles, after, asked, hfetched, hstatus⟩
      (not_fresh_overtaken off)
  · exact ⟨earlier, other⟩

/-- What is held after a toggle may have been fetched before. -/
theorem not_always_fresh :
    ¬ ∀ (services : List ServiceEntry) (servicePort : UInt16) (d₀ d : Directory)
      (tasks : List (Job × Dialogue Directory Unit)) (turns : List Turn) (service : ServiceEntry)
      (endpoint : Endpoint) (i acceptedAt : Nat) (command : Command) (reply : Reply),
      Timeline (Job.dialogue services servicePort) d₀ d tasks turns →
        services.find? (·.id == endpoint.serviceId) = some service →
        Quiet endpoint.serviceId tasks turns →
        turns[acceptedAt]? = some (i, some ⟨.service endpoint (.command command), .ok reply⟩) →
        Fresh endpoint.serviceId d turns acceptedAt := by
  intro always
  obtain ⟨d, tasks, reached, quiet, off⟩ := timeline_overtaken
  exact not_fresh_overtaken off (always [orderEntry] 8080 {} d tasks overtaken orderEntry
    (orderEntry.endpoint 8080) 1 3 slowOn _ reached rfl quiet rfl)

end Discovery

end FaultPlane
