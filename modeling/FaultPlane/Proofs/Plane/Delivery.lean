import FaultPlane.Proofs.Plane.Polling

/-!
# Commands to services

A command with a blank name in it is not sent. Any other is sent once, to the endpoint where
discovery asks the service if it is configured, and to the conventional one if it is not. Unless the
service accepts it nothing else happens; a configured service that accepts it is polled once
(`toggle_delivers`). What is known of other services stays as it is.
-/

namespace FaultPlane

open Contract (Command Reply)
open Dialogue (Exchange)
open Discovery
open Service (Endpoint ServiceFailure)
open FaultPlane.Time (Instant)

theorem Config.id_of_service? {c : Config} {id : String} {service : ServiceEntry}
    (configured : c.service? id = some service) : service.id = id := by
  simpa using List.find?_some configured

namespace Discovery

/-! ### The calls of polls -/

/-- The calls of a poll at an endpoint. -/
def pollCalls (endpoint : Endpoint) : List Call :=
  [.service endpoint .info, .service endpoint .status]

theorem calls_exchanges (servicePort : UInt16) (o : Observation) :
    (o.exchanges servicePort).map (·.1) = pollCalls (o.service.endpoint servicePort) := rfl

section

variable {ω : Type} (world : World ω) (servicePort : UInt16) (now : Instant)

theorem Observes.calls {world : World ω} {servicePort : UInt16} {α : Type}
    {dialogue : Dialogue Directory α} {polls : List (ServiceEntry × Instant)}
    (h : Observes world servicePort dialogue polls) (d : Directory) (w : ω) :
    dialogue.calls world d w = polls.flatMap fun i => pollCalls (i.1.endpoint servicePort) := by
  obtain ⟨observations, rfl, htranscript, -⟩ := h d w
  rw [Dialogue.calls_eq_map, htranscript, List.map_flatMap, List.flatMap_map]
  simp only [calls_exchanges]

theorem calls_pollAll (services : List ServiceEntry) (d : Directory) (w : ω) :
    (pollAll servicePort now services).calls world d w =
      services.flatMap fun service => pollCalls (service.endpoint servicePort) := by
  rw [(observes_pollAll world servicePort now services).calls, List.flatMap_map]

theorem calls_refresh (services : List ServiceEntry) (id : String) (d : Directory) (w : ω) :
    (refresh services servicePort now id).calls world d w =
      (services.find? (·.id == id)).toList.flatMap fun service =>
        pollCalls (service.endpoint servicePort) := by
  rw [(observes_refresh world servicePort now services id).calls, List.flatMap_map]

end

theorem refresh_of_find? {services : List ServiceEntry} {servicePort : UInt16} {now : Instant}
    {id : String} {service : ServiceEntry} (h : services.find? (·.id == id) = some service) :
    refresh services servicePort now id = poll servicePort now service >>= fun _ => pure true := by
  rw [refresh, h]

/-! ### Toggles -/

section

variable (services : List ServiceEntry) (servicePort : UInt16) (now : Instant) {id : String}
variable {command : Command}

theorem toggle_of_blank (h : Text.allBlank id = true ∨ Text.allBlank command.faultId = true) :
    ∃ message, toggle services servicePort now id command =
      pure (.failure command.faultId message) := by
  unfold toggle
  split
  · exact ⟨_, rfl⟩
  · rename_i named
    rw [if_pos (h.resolve_left named)]
    exact ⟨_, rfl⟩

theorem toggle_of_named (named : Text.allBlank id = false)
    (fault : Text.allBlank command.faultId = false) :
    toggle services servicePort now id command =
      .ask (.service ⟨id, Config.baseUrlOf services servicePort id⟩ (.command command)) fun
        | .ok reply => refresh services servicePort now id >>= fun _ => pure reply
        | .error failure => pure (undelivered id command.faultId failure) := by
  rw [toggle, if_neg (by simp [named]), if_neg (by simp [fault])]
  refine congrArg (Dialogue.ask _) (funext fun answer => ?_)
  cases answer <;> rfl

theorem undelivered_eq (id faultId : String) (failure : ServiceFailure) :
    ∃ message, undelivered id faultId failure = .failure faultId message := by
  cases failure <;> exact ⟨_, rfl⟩

end

end Discovery

namespace Plane

/-- A reply that reports that nothing was switched. -/
def Refusal (command : Command) (reply : Reply) : Prop :=
  reply.success = false ∧ reply.enabled = false ∧ reply.faultId = command.faultId

theorem refusal_failure (command : Command) (message : String) :
    Refusal command (.failure command.faultId message) := ⟨rfl, rfl, rfl⟩

/-- Where the service with an id is asked to take a command. -/
def endpointOf (p : Plane) (id : String) : Endpoint := ⟨id, p.baseUrlOf id⟩

/-- What comes after a call that a service has accepted: the poll of the service if it is
configured. -/
structure Refreshed (p : Plane) (now : Instant) (id : String) (s s' : State)
    (exchanges : List Exchange) : Prop where
  configured : ∀ service, p.config.service? id = some service →
    (p.poll now service).Yields exchanges s s' ∧
      exchanges.map (·.1) = pollCalls (p.endpointOf id)
  unconfigured : p.config.service? id = none → exchanges = [] ∧ s' = s

/-- What a command to a service does to a control plane, with its reply and the exchanges that it
has. -/
structure Delivered (p : Plane) (now : Instant) (id : String) (command : Command) (s s' : State)
    (reply : Reply) (exchanges : List Exchange) : Prop where
  blank : Text.allBlank id = true ∨ Text.allBlank command.faultId = true →
    exchanges = [] ∧ s' = s ∧ Refusal command reply
  asked : Text.allBlank id = false → Text.allBlank command.faultId = false →
    ∃ (answer : Except ServiceFailure Reply) (later : List Exchange),
      exchanges = ⟨.service (p.endpointOf id) (.command command), answer⟩ :: later ∧
      (∀ failure, answer = .error failure → later = [] ∧ s' = s ∧ Refusal command reply) ∧
      (∀ accepted, answer = .ok accepted → reply = accepted ∧ p.Refreshed now id s s' later)
  others : ∀ k, k ≠ id → s'.directory.entry k = s.directory.entry k
  ledger : s'.ledger = s.ledger

/-- Discovery asks the service with an id at an endpoint, and nowhere else if the services have
different ids. -/
structure PolledAt (p : Plane) (id : String) (endpoint : Endpoint) : Prop where
  refreshed : ∀ {ω : Type} (world : World ω) now s w,
    (p.refresh now id).calls world s w = pollCalls endpoint
  passed : ∀ {ω : Type} (world : World ω) now s w, ∀ call ∈ pollCalls endpoint,
    call ∈ (p.pollAll now).calls world s w
  only : (p.config.services.map (·.id)).Nodup →
    ∀ {ω : Type} (world : World ω) now s w e call, e.serviceId = id →
      .service e call ∈ (p.pollAll now).calls world s w → e = endpoint

section

variable {ω : Type} (p : Plane) (world : World ω) (now : Instant) (id : String)
  (command : Command) (s : State) (w : ω)

theorem transcript_onDirectory {α : Type} (d : Dialogue Directory α) :
    (onDirectory d).transcript world s w = d.transcript world s.directory w :=
  Dialogue.transcript_within world (fun _ _ => rfl) d s w

theorem calls_onDirectory {α : Type} (d : Dialogue Directory α) :
    (onDirectory d).calls world s w = d.calls world s.directory w := by
  rw [Dialogue.calls_eq_map, transcript_onDirectory, ← Dialogue.calls_eq_map]

theorem endpointOf_configured {id : String} {service : ServiceEntry}
    (configured : p.config.service? id = some service) :
    p.endpointOf id = service.endpoint p.servicePort := by
  have hid := Config.id_of_service? configured
  rw [Config.service?] at configured
  rw [endpointOf, baseUrlOf, Config.baseUrlOf, configured, ServiceEntry.endpoint, hid]

theorem polledAt {id : String} {service : ServiceEntry}
    (configured : p.config.service? id = some service) : p.PolledAt id (p.endpointOf id) := by
  have inside : service ∈ p.config.services := List.mem_of_find?_eq_some configured
  have hid := Config.id_of_service? configured
  rw [p.endpointOf_configured configured]
  rw [Config.service?] at configured
  refine ⟨?_, ?_, ?_⟩
  · intro ω world now s w
    rw [refresh, calls_onDirectory, calls_refresh, configured]
    rfl
  · intro ω world now s w call asked
    rw [pollAll, calls_onDirectory, calls_pollAll]
    exact List.mem_flatMap.2 ⟨service, inside, asked⟩
  · intro distinct ω world now s w e call same asked
    rw [pollAll, calls_onDirectory, calls_pollAll] at asked
    obtain ⟨other, member, hcall⟩ := List.mem_flatMap.1 asked
    have he : e = other.endpoint p.servicePort := by
      simp only [pollCalls, List.mem_cons, Call.service.injEq, List.not_mem_nil, or_false] at hcall
      rcases hcall with ⟨rfl, -⟩ | ⟨rfl, -⟩ <;> rfl
    subst he
    rw [List.inj_on_of_nodup_map distinct member inside (same.trans hid.symm)]

theorem refreshed_run :
    p.Refreshed now id s ((p.refresh now id).run world s w).2.1
      ((p.refresh now id).transcript world s w) := by
  constructor
  · intro service configured
    have hcalls := (p.polledAt configured).refreshed world now s w
    rw [Dialogue.calls_eq_map] at hcalls
    refine ⟨?_, hcalls⟩
    have hyields := Dialogue.yields_run world (p.poll now service) s w
    rw [poll, transcript_onDirectory, run_onDirectory] at hyields
    rw [refresh, transcript_onDirectory, run_onDirectory, refresh_of_find? configured,
      Dialogue.transcript_bind, Dialogue.transcript_pure, List.append_nil, Dialogue.run_bind,
      Dialogue.run_pure]
    exact hyields
  · intro unconfigured
    rw [Config.service?] at unconfigured
    have hrefresh : Discovery.refresh p.config.services p.servicePort now id = pure false := by
      rw [Discovery.refresh, unconfigured]
    rw [refresh, transcript_onDirectory, run_onDirectory, hrefresh]
    exact ⟨rfl, rfl⟩

theorem entry_refresh {k : String} (other : k ≠ id) :
    ((p.refresh now id).run world s w).2.1.directory.entry k = s.directory.entry k := by
  rw [refresh, run_onDirectory]
  cases hfind : p.config.service? id with
  | none =>
    rw [Config.service?] at hfind
    rw [Discovery.refresh, hfind]
    rfl
  | some service =>
    have hid := Config.id_of_service? hfind
    rw [refresh_of_find? hfind, Dialogue.run_bind, Dialogue.run_pure, run_poll]
    exact s.directory.entry_note_of_ne (hid ▸ other)

/-! ### The command -/

theorem toggle_of_blank {id : String} {command : Command}
    (blank : Text.allBlank id = true ∨ Text.allBlank command.faultId = true) :
    ∃ message, p.toggle now id command = pure (.failure command.faultId message) := by
  obtain ⟨message, htoggle⟩ :=
    Discovery.toggle_of_blank p.config.services p.servicePort now blank
  exact ⟨message, congrArg onDirectory htoggle⟩

variable {id command} (named : Text.allBlank id = false)
  (fault : Text.allBlank command.faultId = false)

include named fault

theorem toggle_of_named :
    p.toggle now id command =
      .ask (.service (p.endpointOf id) (.command command)) fun
        | .ok reply => p.refresh now id >>= fun _ => pure reply
        | .error failure => pure (undelivered id command.faultId failure) := by
  rw [toggle, Discovery.toggle_of_named _ _ _ named fault, onDirectory, Dialogue.within]
  refine congrArg (Dialogue.ask _) (funext fun answer => ?_)
  cases answer with
  | ok reply => exact Dialogue.within_bind _ _ _ _
  | error failure => rfl

theorem toggle_of_error {failure : ServiceFailure} {w' : ω}
    (failed : world (.service (p.endpointOf id) (.command command)) w = (.error failure, w')) :
    (p.toggle now id command).run world s w = (undelivered id command.faultId failure, s, w') ∧
      (p.toggle now id command).transcript world s w =
        [⟨.service (p.endpointOf id) (.command command), .error failure⟩] := by
  rw [p.toggle_of_named now named fault, Dialogue.run, Dialogue.transcript, failed]
  exact ⟨rfl, rfl⟩

theorem toggle_of_ok {reply : Reply} {w' : ω}
    (accepted : world (.service (p.endpointOf id) (.command command)) w = (.ok reply, w')) :
    (p.toggle now id command).run world s w = (reply, ((p.refresh now id).run world s w').2) ∧
      (p.toggle now id command).transcript world s w =
        ⟨.service (p.endpointOf id) (.command command), .ok reply⟩ ::
          (p.refresh now id).transcript world s w' := by
  rw [p.toggle_of_named now named fault, Dialogue.run, Dialogue.transcript, accepted]
  simp only [Dialogue.run_bind, Dialogue.run_pure, Dialogue.transcript_bind,
    Dialogue.transcript_pure, List.append_nil, and_self]

end

section

variable {ω : Type} (p : Plane) (world : World ω) (now : Instant) (id : String)
  (command : Command) (s : State) (w : ω)

/-- A command changes nothing itself: what changes is what the poll after it notes. -/
theorem state_toggle :
    ((p.toggle now id command).run world s w).2.1 = s ∨
      ∃ w', ((p.toggle now id command).run world s w).2.1 =
        ((p.refresh now id).run world s w').2.1 := by
  by_cases blank : Text.allBlank id = true ∨ Text.allBlank command.faultId = true
  · obtain ⟨message, htoggle⟩ := p.toggle_of_blank now blank
    rw [htoggle]
    exact Or.inl rfl
  · obtain ⟨named, fault⟩ : Text.allBlank id = false ∧ Text.allBlank command.faultId = false := by
      simpa using blank
    rcases hworld : world (.service (p.endpointOf id) (.command command)) w with ⟨answer, w'⟩
    cases answer with
    | error failure =>
      rw [(p.toggle_of_error world now s w named fault hworld).1]
      exact Or.inl rfl
    | ok reply =>
      rw [(p.toggle_of_ok world now s w named fault hworld).1]
      exact Or.inr ⟨w', rfl⟩

theorem delivered :
    p.Delivered now id command s ((p.toggle now id command).run world s w).2.1
      ((p.toggle now id command).run world s w).1
      ((p.toggle now id command).transcript world s w) := by
  refine ⟨?_, ?_, ?_, ?_⟩
  · intro blank
    obtain ⟨message, htoggle⟩ := p.toggle_of_blank now blank
    rw [htoggle]
    exact ⟨rfl, rfl, refusal_failure command message⟩
  · intro named fault
    rcases hworld : world (.service (p.endpointOf id) (.command command)) w with ⟨answer, w'⟩
    cases answer with
    | error failure =>
      obtain ⟨hrun, htranscript⟩ := p.toggle_of_error world now s w named fault hworld
      obtain ⟨message, hmessage⟩ := undelivered_eq id command.faultId failure
      rw [hrun, htranscript, hmessage]
      refine ⟨.error failure, [], rfl, fun _ _ => ⟨rfl, rfl, ?_⟩, fun _ accepted => ?_⟩
      · exact refusal_failure command message
      · cases accepted
    | ok reply =>
      obtain ⟨hrun, htranscript⟩ := p.toggle_of_ok world now s w named fault hworld
      rw [hrun, htranscript]
      refine ⟨.ok reply, _, rfl, fun _ failed => ?_, fun accepted same => ?_⟩
      · cases failed
      · cases same
        exact ⟨rfl, p.refreshed_run world now id s w'⟩
  · intro k other
    rcases p.state_toggle world now id command s w with hstate | ⟨w', hstate⟩
    · rw [hstate]
    · rw [hstate, p.entry_refresh world now id s w' other]
  · rw [toggle, run_onDirectory]

/-- Whatever is answered to a command for a service, nothing is left behind unless the service accepts
it, and then its poll is all that follows. The command goes where discovery asks the service, or to
the conventional address of a service that is not configured. -/
theorem toggle_delivers (p : Plane) (now : Instant) (id : String) (command : Command) :
    (∀ {ω : Type} (world : World ω) (s : State) (w : ω),
      p.Delivered now id command s ((p.toggle now id command).run world s w).2.1
        ((p.toggle now id command).run world s w).1
        ((p.toggle now id command).transcript world s w)) ∧
      (∀ service, p.config.service? id = some service → p.PolledAt id (p.endpointOf id)) ∧
      (p.config.service? id = none →
        p.endpointOf id = ⟨id, "http://" ++ id ++ ":" ++ Decimal.ofNat p.servicePort.toNat⟩) := by
  refine ⟨fun world s w => p.delivered world now id command s w, ?_, ?_⟩
  · exact fun service configured => p.polledAt configured
  · intro unconfigured
    rw [Config.service?] at unconfigured
    rw [endpointOf, baseUrlOf, Config.baseUrlOf, unconfigured]
    rfl

/-- A service that refuses every call. -/
theorem toggle_delivers_refused :
    let p : Plane :=
      ⟨{ services := [⟨"ts-order", "Orders", some "http://10.0.0.7:9000/"⟩] }, {}⟩
    let world : World Unit := fun
      | .service _ _, w => (.error (.refused 500), w)
      | .cluster (.apply _), w => (⟨false, ""⟩, w)
      | .cluster (.delete ..), w => (false, w)
      | .cluster (.list ..), w => ([], w)
    let slow : Command := { faultId := "slow-sql", enable := true }
    let order := (p.toggle ⟨0, 0⟩ "ts-order" slow).run world {} ()
    p.config.service? "ts-order" ≠ none ∧ p.config.service? "ts-food" = none ∧
      p.PolledAt "ts-order" ⟨"ts-order", "http://10.0.0.7:9000"⟩ ∧
      p.endpointOf "ts-food" = ⟨"ts-food", "http://ts-food:8080"⟩ ∧
      order.2.1 = {} ∧ Refusal slow order.1 := by
  intro p world slow order
  obtain ⟨hdelivered, hpolled, -⟩ := p.toggle_delivers ⟨0, 0⟩ "ts-order" slow
  obtain ⟨-, -, hconventional⟩ := p.toggle_delivers ⟨0, 0⟩ "ts-food" slow
  have named : Text.allBlank "ts-order" = false := by decide
  have fault : Text.allBlank slow.faultId = false := by decide
  obtain ⟨answer, later, hexchanges, hfailed, -⟩ := (hdelivered world {} ()).asked named fault
  have hanswer : answer = .error (.refused 500) := by
    have hcall := (p.toggle_of_error world ⟨0, 0⟩ {} () named fault rfl).2
    rw [hcall] at hexchanges
    simp only [List.cons.injEq, Sigma.mk.injEq, heq_eq_eq, true_and] at hexchanges
    exact hexchanges.1.symm
  obtain ⟨-, hstate, hrefusal⟩ := hfailed _ hanswer
  have hfood := (hconventional (by decide)).trans
    (by decide : _ = (⟨"ts-food", "http://ts-food:8080"⟩ : Endpoint))
  exact ⟨by decide, by decide, hpolled _ rfl, hfood, hstate, hrefusal⟩

end

end Plane

end FaultPlane
