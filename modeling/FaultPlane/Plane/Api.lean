import FaultPlane.Http.Message
import FaultPlane.Plane.Basic

/-!
# The HTTP interface of the control plane

Every route carries out one operation. Requests that change something are always answered with
success on the level of HTTP; whether the operation went well stands in the body.
-/

namespace FaultPlane.Plane

open Contract (ServiceInfo ServiceStatus Command Reply)
open Injection (FaultKind FaultRecord ActionResponse StopAllResponse)
open Injection (NetworkRequest ExceptionRequest LatencyRequest)
open FaultPlane.Json (Codec Field Fields)
open FaultPlane.Time (Instant)
open Http (Method Request Response Rejection)

/-! ### Routes -/

inductive Route where
  | health
  | statuses
  | status (segment : String)
  | infos
  | info (segment : String)
  | refresh
  | control
  | apply (kind : FaultKind)
  | stop (kind : FaultKind)
  | stopAll
  | active
  | interfaces
  | filteredInterfaces
  deriving DecidableEq, Repr

namespace Route

def ofPath : List String → Option Route
  | ["health"] => some .health
  | ["api", "status"] => some .statuses
  | ["api", "status", segment] => if segment = "" then none else some (.status segment)
  | ["api", "info"] => some .infos
  | ["api", "info", segment] => if segment = "" then none else some (.info segment)
  | ["api", "refresh"] => some .refresh
  | ["api", "control"] => some .control
  | ["api", "chaos", "apply"] => some (.apply .networkDelay)
  | ["api", "chaos", "stop"] => some (.stop .networkDelay)
  | ["api", "chaos", "stop-all"] => some .stopAll
  | ["api", "chaos", "active"] => some .active
  | ["api", "jvm", "apply"] => some (.apply .jvmException)
  | ["api", "jvm", "stop"] => some (.stop .jvmException)
  | ["api", "jvm", "latency", "apply"] => some (.apply .jvmLatency)
  | ["api", "jvm", "latency", "stop"] => some (.stop .jvmLatency)
  | ["api", "service", "interfaces"] => some .interfaces
  | ["api", "service", "interfaces", "filtered"] => some .filteredInterfaces
  | _ => none

def method : Route → Method
  | .refresh | .control | .apply _ | .stop _ | .stopAll => .post
  | _ => .get

end Route

/-! ### Bodies -/

/-- A command that names the service it is for. -/
structure AddressedCommand where
  serviceId : String
  command : Command
  deriving DecidableEq, Repr

def AddressedCommand.codec : Codec AddressedCommand :=
  Codec.record "ControlApiRequest"
    (.cons (.withDefault "serviceId" .text "") <|
      .cons (.withDefault "faultId" .text "") <|
      .cons (.withDefault "enable" .bool false) <|
      .cons (.optional "delayMs" .int64) <|
      .cons (.optional "errorCode" .int32) <|
      .cons (.optional "probability" .real) .nil)
    (fun (serviceId, faultId, enable, delayMs, errorCode, probability, ()) =>
      ⟨serviceId, ⟨faultId, enable, delayMs, errorCode, probability⟩⟩)
    (fun a => (a.serviceId, a.command.faultId, a.command.enable, a.command.delayMs,
      a.command.errorCode, a.command.probability, ()))

/-- The request for a fault of some kind in a body. -/
def readRequest (kind : FaultKind) (r : Request) : Except Rejection Injection.Request :=
  match kind with
  | .networkDelay => (r.json NetworkRequest.codec).map .networkDelay
  | .jvmException => (r.json ExceptionRequest.codec).map .jvmException
  | .jvmLatency => (r.json LatencyRequest.codec).map .jvmLatency

/-- What a refresh did. -/
def refreshBody (success : Bool) (message : String) : Json :=
  .object [("success", .bool success), ("message", .text message)]

/-! ### Operations -/

/-- What a look at the state shows, or a plain refusal for an unknown service. -/
def found {α : Type} (codec : Codec α) (id : String) : Option α → Response
  | some a => .json (codec.write a)
  | none => .notFound ("Unknown service " ++ id)

def showInterfaces (interfaces : List Interface) : Response :=
  .json ((Codec.list Interface.codec).write interfaces)

theorem showInterfaces_eq (interfaces : List Interface) :
    showInterfaces interfaces = .json (.list (interfaces.map Interface.codec.write)) := rfl

/-- Polls one service, or all services if none is named. -/
def serveRefresh (p : Plane) (now : Instant) (id : Option String) : Dialogue State Response :=
  match id.filter (fun id => !Text.allBlank id) with
  | some id => do
    if ← p.refresh now id then
      pure (.json (refreshBody true ("Service " ++ id ++ " status refreshed")))
    else pure (.json (refreshBody false ("Unknown service " ++ id)))
  | none => do
    p.pollAll now
    pure (.json (refreshBody true "All service status refreshed"))

/-- The names of the fields that queries for interfaces have. -/
def interfaceFields : List String := ["serviceName", "directUpstreamServices"]

/-- Carries out a request on a route. `uptime` is the time in seconds since the start. -/
def serve (p : Plane) (uptime : Nat) (now : Instant) (r : Request) :
    Route → Except Rejection (Dialogue State Response)
  | .health =>
    pure (pure (.json (.object [("status", .text "UP"), ("uptimeSeconds", .integer uptime),
      ("services", .integer p.config.services.length)])))
  | .statuses =>
    pure (Dialogue.look fun s =>
      .json ((Codec.list ServiceStatus.codec).write s.directory.allStatuses))
  | .status segment => do
    let id ← Http.segmentText segment
    pure (Dialogue.look fun s => found ServiceStatus.codec id (s.directory.statuses.get? id))
  | .infos =>
    pure (Dialogue.look fun s => .json ((Codec.list ServiceInfo.codec).write s.directory.allInfos))
  | .info segment => do
    let id ← Http.segmentText segment
    pure (Dialogue.look fun s => found ServiceInfo.codec id (s.directory.infos.get? id))
  | .refresh => do
    let field ← r.fields ["serviceId"]
    pure (p.serveRefresh now (field "serviceId"))
  | .control => do
    let a ← r.json AddressedCommand.codec
    pure do
      let reply ← p.toggle now a.serviceId a.command
      pure (.json (Reply.codec.write reply))
  | .apply kind => do
    let request ← readRequest kind r
    pure do
      let response ← p.apply now request
      pure (.json (ActionResponse.codec.write response))
  | .stop kind => do
    let field ← r.fields ["chaosName"]
    pure do
      let response ← p.stop kind ((field "chaosName").getD "")
      pure (.json (ActionResponse.codec.write response))
  | .stopAll =>
    pure do
      let response ← p.stopEverything
      pure (.json (StopAllResponse.codec.write response))
  | .active =>
    pure (Dialogue.look fun s => .json ((Codec.list FaultRecord.codec).write s.ledger.active))
  | .interfaces => do
    let field ← r.fields interfaceFields
    pure (pure (showInterfaces (p.catalog.interfaces ((field "serviceName").getD ""))))
  | .filteredInterfaces => do
    let field ← r.fields interfaceFields
    let callers := Text.commaItems ((field "directUpstreamServices").getD "")
    pure (pure (showInterfaces (p.catalog.calledBy ((field "serviceName").getD "") callers)))

/-- Answers a request. Questions about the options of a route are answered for every path, so that
pages from anywhere may use the interface. -/
def handle (p : Plane) (uptime : Nat) (now : Instant) (r : Request) : Dialogue State Response :=
  if r.method = .options then pure .empty
  else
    match r.route Route.ofPath Route.method >>= p.serve uptime now r with
    | .ok operation => do pure (r.respond (← operation))
    | .error why => pure (.rejected why)

theorem handle_of_serve (p : Plane) {uptime : Nat} {now : Instant} {r : Request} {route : Route}
    {operation : Dialogue State Response} (noOptions : r.method ≠ .options)
    (noHead : r.method ≠ .head) (routed : r.route Route.ofPath Route.method = .ok route)
    (served : p.serve uptime now r route = .ok operation) :
    p.handle uptime now r = operation := by
  have hserve : (r.route Route.ofPath Route.method >>= p.serve uptime now r) = .ok operation := by
    rw [routed]
    exact served
  have hrespond : r.respond = id := funext (Http.Request.respond_of_ne_head noHead)
  rw [handle, if_neg noOptions, hserve, hrespond]
  exact operation.andThen_done

end FaultPlane.Plane
