import FaultPlane.Plane.Api
import FaultPlane.Proofs.Discovery.Reflection
import FaultPlane.Proofs.Service.Network

/-!
# Toggles through the control plane

A command for a configured service that is sent through the control plane does to the agent of the
service what it does when it is sent there directly, and the reply is the same. The directory shows
it at once (`toggle_simulates`). Nothing else changes.
-/

namespace FaultPlane

open Agent (SwitchSet)
open Contract (ServiceInfo ServiceStatus Command Reply)
open Discovery (Directory Observation)
open Service (Endpoint ServiceFailure Network Fleet)
open FaultPlane.Time (Instant)

namespace Discovery

/-! ### Runs -/

section

variable {ω : Type} (world : World ω) (servicePort : UInt16) (now : Instant)

theorem find?_of_mem {services : List ServiceEntry} (distinct : (services.map (·.id)).Nodup)
    {service : ServiceEntry} (inside : service ∈ services) :
    services.find? (·.id == service.id) = some service := by
  cases hfind : services.find? (·.id == service.id) with
  | none => simpa using List.find?_eq_none.1 hfind service inside
  | some other =>
    have same : other.id = service.id := by simpa using List.find?_some hfind
    rw [List.inj_on_of_nodup_map distinct (List.mem_of_find?_eq_some hfind) inside same]

/-- A command that its service has accepted, and the poll after it. -/
theorem run_toggle {services : List ServiceEntry} (distinct : (services.map (·.id)).Nodup)
    {service : ServiceEntry} (inside : service ∈ services) {command : Command}
    (named : Text.allBlank service.id = false) (fault : Text.allBlank command.faultId = false)
    {reply : Reply} {info : Except ServiceFailure ServiceInfo}
    {status : Except ServiceFailure ServiceStatus} {w₀ w₁ w₂ w₃ : ω}
    (accepted : world (.service (service.endpoint servicePort) (.command command)) w₀ =
      (.ok reply, w₁))
    (described : world (.service (service.endpoint servicePort) .info) w₁ = (info, w₂))
    (reported : world (.service (service.endpoint servicePort) .status) w₂ = (status, w₃))
    (d : Directory) :
    (toggle services servicePort now service.id command).run world d w₀ =
      (reply, d.note ⟨service, now, info, status⟩, w₃) := by
  have hfind := find?_of_mem distinct inside
  have hurl : Config.baseUrlOf services servicePort service.id = service.baseUrl servicePort := by
    rw [Config.baseUrlOf, hfind]
  have hpoll := run_poll world servicePort now service d w₁
  simp only [described, reported] at hpoll
  rw [toggle, if_neg (by simp [named]), if_neg (by simp [fault])]
  simp only [hurl, refresh, hfind, Dialogue.run_bind, Dialogue.run_service]
  rw [← ServiceEntry.endpoint, accepted]
  simp only [Dialogue.run_bind, Dialogue.run_pure, hpoll]

end

end Discovery

namespace Plane

/-! ### Services with an agent of their own -/

/-- Every configured service has an agent of its own, and the calls to the service get there. -/
def Served (p : Plane) (net : Network) : Prop :=
  ∀ service ∈ p.config.services, net.Serves (service.endpoint p.servicePort)

/-- Everything that is said when a service is toggled is carried: the command, the reply, and what
the agent answers to the poll after it. -/
structure Carried (net : Network) (fleet : Fleet) (id : String) (command : Command) : Prop where
  sent : Command.codec.Carries command
  reply : Reply.codec.Carries ((fleet.agents id).control command).1
  info : ServiceInfo.codec.Carries ((fleet.agents id).control command).2.info
  status : ServiceStatus.codec.Carries
    (((fleet.agents id).control command).2.status (net.clock (fleet.served + 2)))

/-- From one state of a control plane and the agents to another, a service was toggled as if its
agent had taken the command directly. The agent reported its state at some time after that. -/
structure Toggled (service : ServiceEntry) (command : Command) (reported : Instant)
    (s s' : State) (fleet fleet' : Fleet) : Prop where
  agent : fleet'.agents service.id = ((fleet.agents service.id).control command).2
  info : s'.directory.infos.get? service.id = some (fleet'.agents service.id).info
  status : s'.directory.statuses.get? service.id =
    let status := (fleet'.agents service.id).status reported
    some { status with
      serviceId := if status.serviceId = "" then service.id else status.serviceId
      serviceName := if status.serviceName = "" then service.name else status.serviceName
      reachable := true }
  others : ∀ id, id ≠ service.id → fleet'.agents id = fleet.agents id ∧
    s'.directory.infos.get? id = s.directory.infos.get? id ∧
    s'.directory.statuses.get? id = s.directory.statuses.get? id
  ledger : s'.ledger = s.ledger

section

variable {p : Plane} {net : Network} {fleet : Fleet} {service : ServiceEntry} {command : Command}

theorem run_toggle_served (distinct : (p.config.services.map (·.id)).Nodup) (served : p.Served net)
    (inside : service ∈ p.config.services) (named : Text.allBlank service.id = false)
    (fault : Text.allBlank command.faultId = false)
    (carried : Carried net fleet service.id command) (now : Instant) (d : Directory) :
    let agent := ((fleet.agents service.id).control command).2
    (Discovery.toggle p.config.services p.servicePort now service.id command).run net.world d
        fleet =
      (((fleet.agents service.id).control command).1,
        d.note ⟨service, now, .ok agent.info, .ok (agent.status (net.clock (fleet.served + 2)))⟩,
        ⟨Function.update fleet.agents service.id agent, fleet.served + 3⟩) := by
  intro agent
  have hserves := served service inside
  have hcommand := hserves.answer_command carried.sent carried.reply
  -- The poll gets to the same agent, which the command has already changed.
  have hagent : (Function.update fleet.agents service.id agent) service.id = agent :=
    Function.update_self ..
  have hinfo := hserves.answer_info
    ⟨Function.update fleet.agents service.id agent, fleet.served + 1⟩
  have hstatus := hserves.answer_status
    ⟨Function.update fleet.agents service.id agent, fleet.served + 2⟩
  simp only [ServiceEntry.endpoint, hagent] at hinfo hstatus
  exact Discovery.run_toggle net.world p.servicePort now distinct inside named fault hcommand
    (hinfo carried.info) (hstatus carried.status) d

theorem toggled_note (s : State) (now reported : Instant) (n : Nat) :
    let agent := ((fleet.agents service.id).control command).2
    let o : Observation := ⟨service, now, .ok agent.info, .ok (agent.status reported)⟩
    Toggled service command reported s { s with directory := s.directory.note o } fleet
      ⟨Function.update fleet.agents service.id agent, n⟩ := by
  intro agent o
  have hagent : Function.update fleet.agents service.id agent service.id = agent :=
    Function.update_self ..
  refine ⟨hagent, ?_, ?_, ?_, rfl⟩
  · simp only [hagent, Discovery.infos_note, Observation.info?, o, Except.toOption, if_pos,
      Option.some_or]
  · simp only [hagent]
    exact Discovery.statuses_note s.directory o
  · intro id other
    have hentry := s.directory.entry_note_of_ne (o := o) other
    exact ⟨Function.update_of_ne other .., congrArg Prod.fst hentry, congrArg Prod.snd hentry⟩

theorem method_of_route {r : Http.Request} (h : r.route Route.ofPath Route.method = .ok .control) :
    r.method = .post := by
  unfold Http.Request.route at h
  split at h
  · cases h
  · split at h
    · rename_i allowed
      cases h
      rcases allowed with post | ⟨-, get⟩
      · exact post
      · cases get
    · cases h

/-- A request with a command in its body is answered with the reply to the command. -/
theorem run_handle_control {ω : Type} (world : World ω) {r : Http.Request} {a : AddressedCommand}
    (uptime : Nat) (now : Instant) (route : r.route Route.ofPath Route.method = .ok .control)
    (sent : r.json AddressedCommand.codec = .ok a) {reply : Reply} {s s' : State} {w w' : ω}
    (toggled : (p.toggle now a.serviceId a.command).run world s w = (reply, s', w')) :
    (p.handle uptime now r).run world s w = (.json (Reply.codec.write reply), s', w') := by
  have hmethod := method_of_route route
  have hserve : p.serve uptime now r .control = .ok (do
      let reply ← p.toggle now a.serviceId a.command
      pure (.json (Reply.codec.write reply))) := by
    show (r.json AddressedCommand.codec >>= _) = _
    rw [sent]
    rfl
  rw [p.handle_of_serve (by simp [hmethod]) (by simp [hmethod]) route hserve]
  simp only [Dialogue.run_bind, Dialogue.run_pure, toggled]

/-- A command for a configured service does through the control plane what it does to the agent of
the service directly. So does every request over HTTP that has the command in its body. -/
theorem toggle_simulates (distinct : (p.config.services.map (·.id)).Nodup) (served : p.Served net)
    (inside : service ∈ p.config.services) (named : Text.allBlank service.id = false)
    (fault : Text.allBlank command.faultId = false)
    (carried : Carried net fleet service.id command) (now : Instant) (s : State) :
    let reply := ((fleet.agents service.id).control command).1
    ∃ s' fleet', Toggled service command (net.clock (fleet.served + 2)) s s' fleet fleet' ∧
      (p.toggle now service.id command).run net.world s fleet = (reply, s', fleet') ∧
      ∀ (uptime : Nat) (r : Http.Request), r.route Route.ofPath Route.method = .ok .control →
        r.json AddressedCommand.codec = .ok ⟨service.id, command⟩ →
        (p.handle uptime now r).run net.world s fleet =
          (.json (Reply.codec.write reply), s', fleet') := by
  intro reply
  have htoggle := run_toggle_served distinct served inside named fault carried now s.directory
  have hrun := run_onDirectory net.world
    (Discovery.toggle p.config.services p.servicePort now service.id command) s fleet
  rw [htoggle] at hrun
  refine ⟨_, _, toggled_note s now _ (fleet.served + 3), hrun, fun uptime r route sent => ?_⟩
  exact run_handle_control net.world uptime now route sent hrun

end

/-! ### The agent of the service ts-order -/

/-- The service ts-order at an address of its own. -/
def awayEntry : ServiceEntry := ⟨"ts-order", "Orders", some "http://10.0.0.7:9000/"⟩

def ordersAway : Plane := ⟨{ services := [awayEntry, ⟨"ts-seat", "Seats", none⟩] }, {}⟩

def ordersNetwork : Network where
  site url :=
    if Text.startsWith "http://10.0.0.7:9000/" url then some "ts-order"
    else if Text.startsWith "http://ts-seat:8080/" url then some "ts-seat"
    else none
  clock n := ⟨n, 0⟩
  cluster
    | .apply _ => ⟨false, ""⟩
    | .delete .. => false
    | .list .. => []

theorem served_orders : ordersAway.Served ordersNetwork := by
  intro service inside c
  have hservice : service = awayEntry ∨ service = ⟨"ts-seat", "Seats", none⟩ := by
    simpa [ordersAway] using inside
  have hpath : c.path = "/fault/info" ∨ c.path = "/fault/status" ∨ c.path = "/fault/control" := by
    cases c <;> simp [Service.ServiceCall.path]
  rw [Service.ServiceCall.url]
  rcases hservice with rfl | rfl
  · refine ⟨"http://10.0.0.7:9000" ++ c.path, ?_⟩
    rcases hpath with h | h | h <;> rw [h] <;> exact ⟨rfl, by decide⟩
  · refine ⟨"http://ts-seat:8080" ++ c.path, ?_⟩
    rcases hpath with h | h | h <;> rw [h] <;> exact ⟨rfl, by decide⟩

def ordersFleet : Fleet where
  agents id :=
    if id = "ts-order" then
      ⟨{ faults := [{ id := "slow" }] }, .ofList [("slow", Contract.Toggle.off "slow")]⟩
    else ⟨{}, .empty⟩

/-- A command with a delay that is out of bounds. -/
def slowOrders : Command := { faultId := "slow", enable := true, delayMs := some (-5) }

def slowOrdersRequest : Http.Request where
  method := .post
  path := ["api", "control"]
  query := ""
  contentType := some "application/json"
  body := AddressedCommand.codec.encode ⟨"ts-order", slowOrders⟩

set_option maxRecDepth 1000 in
theorem carried_orders : Carried ordersNetwork ordersFleet "ts-order" slowOrders := by
  refine ⟨?_, ?_, ?_, ?_⟩ <;> apply Json.Codec.carries_of_read <;> decide

theorem toggle_simulates_orders :
    (ordersAway.config.services.map (·.id)).Nodup ∧ ordersAway.Served ordersNetwork ∧
      Carried ordersNetwork ordersFleet "ts-order" slowOrders ∧
      ∃ s fleet, (ordersAway.handle 0 ⟨0, 0⟩ slowOrdersRequest).run ordersNetwork.world {}
          ordersFleet =
        (.json (Reply.codec.write
          ⟨true, "Fault slow enabled with delay 0ms", "slow", true⟩), s, fleet) ∧
      (fleet.agents "ts-order").delayFor "slow" = some 0 ∧
      (s.directory.statuses.get? "ts-order").map (fun t => (t.serviceName, t.details)) =
        some ("Orders", "1 of 1 faults enabled") := by
  have distinct : (ordersAway.config.services.map (·.id)).Nodup := by decide
  have inside : awayEntry ∈ ordersAway.config.services := List.mem_cons_self
  have sent : slowOrdersRequest.json AddressedCommand.codec = .ok ⟨"ts-order", slowOrders⟩ :=
    Service.json_of_carries rfl rfl (Json.Codec.carries_of_read (by decide))
  obtain ⟨s, fleet, htoggled, -, hhandle⟩ := toggle_simulates distinct served_orders inside
    (by decide) (by decide) carried_orders ⟨0, 0⟩ {}
  refine ⟨distinct, served_orders, carried_orders, s, fleet,
    hhandle 0 slowOrdersRequest rfl sent, ?_, ?_⟩
  · have hagent : fleet.agents "ts-order" = _ := htoggled.agent
    rw [hagent]
    decide
  · have hstatus : s.directory.statuses.get? "ts-order" = _ := htoggled.status
    rw [hstatus, htoggled.agent]
    decide

end Plane

end FaultPlane
