import FaultPlane.Agent.Endpoints
import FaultPlane.Dialogue
import FaultPlane.Proofs.Json.Carried
import FaultPlane.Service.Address
import Mathlib.Logic.Function.Basic

/-!
# Services with an agent of their own

The calls to a service become requests over HTTP: they go to the address that its base address leads
to, and an agent answers them there. All that is said crosses as JSON text. What the caller gets is
what the agent says, if the texts are read as what was written (`answer_info`, `answer_status`,
`answer_command`).
-/

namespace FaultPlane

open Agent (SwitchSet)
open Contract (ServiceInfo ServiceStatus Command Reply)
open FaultPlane.Time (Instant)

namespace Service

/-! ### Requests -/

theorem isJsonType_json : Http.isJsonType "application/json" = true := rfl

theorem json_of_carries {α : Type} {codec : Json.Codec α} {a : α} {r : Http.Request}
    (type : r.contentType = some "application/json") (body : r.body = codec.encode a)
    (h : codec.Carries a) : r.json codec = .ok a := by
  rw [Http.Request.json, type, Option.any_some, if_pos isJsonType_json, body,
    Json.Codec.decodeFront_of_decode h]
  rfl

/-- A call as a request over HTTP. -/
def ServiceCall.request (c : ServiceCall) : Http.Request where
  method := match c with
    | .command _ => .post
    | _ => .get
  path := (Http.splitTarget c.path).1
  query := ""
  contentType := c.body?.map fun _ => "application/json"
  body := c.body?.getD ""

def bodyText : Http.Response → String
  | .json body => body.compact
  | .notFound text => text
  | .empty | .rejected _ => ""

section

variable (agent : SwitchSet) (now : Instant)

theorem handle_info : agent.handle now ServiceCall.info.request =
    (.json (ServiceInfo.codec.write agent.info), agent) := rfl

theorem handle_status : agent.handle now ServiceCall.status.request =
    (.json (ServiceStatus.codec.write (agent.status now)), agent) := rfl

theorem path_command (command : Command) :
    (ServiceCall.command command).request.path = ["fault", "control"] := by
  simp only [ServiceCall.request, ServiceCall.path]
  decide

theorem route_command (command : Command) :
    (ServiceCall.command command).request.route Agent.Route.ofPath Agent.Route.method =
      .ok .control := by
  rw [Http.Request.route, path_command]
  rfl

theorem json_command {command : Command} (h : Command.codec.Carries command) :
    (ServiceCall.command command).request.json Command.codec = .ok command :=
  json_of_carries rfl rfl h

theorem handle_command {command : Command} (h : Command.codec.Carries command) :
    agent.handle now (ServiceCall.command command).request =
      (.json (Reply.codec.write (agent.control command).1), (agent.control command).2) := by
  have hserve : agent.serve now (ServiceCall.command command).request .control =
      .ok (.json (Reply.codec.write (agent.control command).1), (agent.control command).2) := by
    rw [SwitchSet.serve, json_command h]
    rfl
  have hroute : ((ServiceCall.command command).request.route Agent.Route.ofPath
      Agent.Route.method >>= agent.serve now (ServiceCall.command command).request) =
        agent.serve now (ServiceCall.command command).request .control := by
    rw [route_command]
    rfl
  rw [SwitchSet.handle, hroute, hserve]
  rfl

end

theorem readAnswer_of_carried {c : ServiceCall} {a : c.Payload} (h : c.payloadCodec.Carries a) :
    c.readAnswer 200 (c.payloadCodec.encode a) = .ok a := by
  have hdecode : Contract.decode c.payloadCodec (c.payloadCodec.encode a) = .ok a := by
    rw [Contract.decode, h]
    rfl
  rw [ServiceCall.readAnswer, if_pos rfl, hdecode]
  rfl

/-! ### Agents at addresses -/

/-- Which agent answers at an address, and what the clocks of the agents show. -/
structure Network where
  site : String → Option String
  clock : Nat → Instant
  /-- What the cluster answers, which is not a matter of the agents. -/
  cluster : (c : Cluster.ClusterCall) → c.Answer

/-- The agents by the ids of their services, and the number of requests that they have answered. -/
structure Fleet where
  agents : String → SwitchSet
  served : Nat := 0

namespace Network

variable (net : Network)

/-- The agent of a service answers a call. -/
def deliver (id : String) (c : ServiceCall) (fleet : Fleet) : c.Answer × Fleet :=
  let (response, agent) := (fleet.agents id).handle (net.clock fleet.served) c.request
  (c.readAnswer response.status (bodyText response),
    ⟨Function.update fleet.agents id agent, fleet.served + 1⟩)

/-- Sends a call to its address, where an agent answers it. -/
def answer (endpoint : Endpoint) (c : ServiceCall) (fleet : Fleet) : c.Answer × Fleet :=
  match c.url endpoint with
  | .error failure => (.error failure, fleet)
  | .ok url =>
    match net.site url with
    | none => (.error (sendFailure url "connection refused"), fleet)
    | some id => net.deliver id c fleet

def world : World Fleet
  | .cluster c, fleet => (net.cluster c, fleet)
  | .service endpoint c, fleet => net.answer endpoint c fleet

/-- Every call to an endpoint gets to the agent of its service. -/
def Serves (endpoint : Endpoint) : Prop :=
  ∀ c : ServiceCall, ∃ url, c.url endpoint = .ok url ∧ net.site url = some endpoint.serviceId

section

variable {net} {endpoint : Endpoint} {fleet : Fleet}

theorem deliver_of_handle {id : String} {c : ServiceCall} {a : c.Payload} {agent : SwitchSet}
    (handled : (fleet.agents id).handle (net.clock fleet.served) c.request =
      (.json (c.payloadCodec.write a), agent))
    (carried : c.payloadCodec.Carries a) :
    net.deliver id c fleet =
      (.ok a, ⟨Function.update fleet.agents id agent, fleet.served + 1⟩) := by
  have hread : c.readAnswer 200 (c.payloadCodec.write a).compact = .ok a :=
    readAnswer_of_carried carried
  rw [deliver, handled]
  simp only [Http.Response.status, bodyText, hread]

theorem Serves.delivers (serves : net.Serves endpoint) (c : ServiceCall) :
    net.world (.service endpoint c) fleet = net.deliver endpoint.serviceId c fleet := by
  obtain ⟨url, hurl, hsite⟩ := serves c
  simp only [world, answer, hurl, hsite]

theorem Serves.answer_info (serves : net.Serves endpoint) (fleet : Fleet)
    (carried : ServiceInfo.codec.Carries (fleet.agents endpoint.serviceId).info) :
    net.world (.service endpoint .info) fleet =
      (.ok (fleet.agents endpoint.serviceId).info, ⟨fleet.agents, fleet.served + 1⟩) := by
  rw [serves.delivers, deliver_of_handle (handle_info _ _) carried, Function.update_eq_self]

theorem Serves.answer_status (serves : net.Serves endpoint) (fleet : Fleet)
    (carried : ServiceStatus.codec.Carries
      ((fleet.agents endpoint.serviceId).status (net.clock fleet.served))) :
    net.world (.service endpoint .status) fleet =
      (.ok ((fleet.agents endpoint.serviceId).status (net.clock fleet.served)),
        ⟨fleet.agents, fleet.served + 1⟩) := by
  rw [serves.delivers, deliver_of_handle (handle_status _ _) carried, Function.update_eq_self]

theorem Serves.answer_command (serves : net.Serves endpoint) {command : Command}
    (carried : Command.codec.Carries command)
    (back : Reply.codec.Carries ((fleet.agents endpoint.serviceId).control command).1) :
    net.world (.service endpoint (.command command)) fleet =
      (.ok ((fleet.agents endpoint.serviceId).control command).1,
        ⟨Function.update fleet.agents endpoint.serviceId
          ((fleet.agents endpoint.serviceId).control command).2, fleet.served + 1⟩) := by
  rw [serves.delivers, deliver_of_handle (handle_command _ _ carried) back]

end

end Network

end Service

end FaultPlane
