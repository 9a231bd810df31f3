import FaultPlane.Catalog.Basic
import FaultPlane.Config.Basic
import FaultPlane.Injection.Kind
import FaultPlane.Injection.Manifest
import FaultPlane.Injection.Request

/-!
# Plans

A request is checked and completed before anything is done about it. What remains is a plan, from
which the manifest follows once the fault has an id.
-/

namespace FaultPlane.Injection

/-! ### Requests that cannot be planned -/

/-- The first thing wrong with a request. -/
inductive RequestProblem where
  | missing (field : String)
  | notPositive (field : String) (value : Int64)
  | durationTooLong (minutes : UInt64)
  | unsupportedFaultType (name : String)
  | unknownService (name : String)
  | unknownInterface (name : String)
  | noMethodNorInterface
  | endOutOfRange (minutes : UInt64)
  deriving DecidableEq, Repr

/-- The longest duration the cluster accepts, in minutes. -/
def maxDurationMinutes : UInt64 := 153722867

def RequestProblem.message : RequestProblem → String
  | .missing field => field ++ " is required"
  | .notPositive field value =>
    field ++ " must be greater than 0, got " ++ Decimal.ofInt value.toInt
  | .durationTooLong minutes =>
    "durationMinutes must be at most " ++ Decimal.ofNat maxDurationMinutes.toNat ++ ", got " ++
      Decimal.ofNat minutes.toNat
  | .unsupportedFaultType name => "unsupported faultType: " ++ name
  | .unknownService name => "service not found: " ++ name
  | .unknownInterface name => "no method known for interface " ++ name
  | .noMethodNorInterface => "methodName or interfaceName is required"
  | .endOutOfRange minutes =>
    "durationMinutes " ++ Decimal.ofNat minutes.toNat ++ " is out of range"

/-! ### Checks -/

/-- A trimmed text that is not blank. -/
def requiredText (field value : String) : Except RequestProblem String :=
  match Text.trim value with
  | "" => throw (.missing field)
  | text => pure text

/-- A number above zero. -/
def positive (field : String) : Option Int64 → Except RequestProblem UInt64
  | none => throw (.missing field)
  | some n => if 0 < n then pure n.toUInt64 else throw (.notPositive field n)

/-- A duration that the cluster accepts. -/
def duration (minutes : Option Int64) : Except RequestProblem UInt64 := do
  let n ← positive "durationMinutes" minutes
  if maxDurationMinutes < n then throw (.durationTooLong n) else pure n

/-- A trimmed text, if there is one that is not blank. -/
def nonBlank? (value : Option String) : Option String := (value.map Text.trim).filter (· ≠ "")

/-! ### Plans -/

/-- The fault itself, without the id that it will have in the cluster. -/
inductive Rule where
  | network (source target : String)
  | jvm (service className methodName : String) (effect : JvmEffect)
  deriving DecidableEq, Repr

/-- A request that can be carried out. -/
structure Plan where
  service : String
  /-- The part of the record id that names the service. -/
  idFragment : String
  delaySeconds : UInt64
  durationMinutes : UInt64
  rule : Rule
  deriving DecidableEq, Repr

/-- Where faults are injected and what a stop-all leaves alone. -/
structure InjectionSettings where
  namespaceName : String
  jvmPort : UInt16
  protectedNames : List String
  deriving DecidableEq, Repr

def InjectionSettings.ofChaos (s : ChaosSettings) : InjectionSettings :=
  ⟨s.namespaceName, s.jvmPort, s.protectedNames⟩

/-- The manifest of a plan under an id, which ends in the number `nonce`. -/
def Plan.manifest (p : Plan) (settings : InjectionSettings) (id : String) (nonce : Int) : String :=
  match p.rule with
  | .network source target =>
    NetworkSpec.manifest
      ⟨id, settings.namespaceName, source, target, p.delaySeconds, p.durationMinutes⟩
  | .jvm service className methodName effect =>
    JvmSpec.manifest
      ⟨id, settings.namespaceName, service, p.durationMinutes, settings.jvmPort, className,
        methodName, effect, nonce⟩

/-! ### Network delays -/

/-- A service name without the marker that chaos tooling puts before it. -/
def withoutMarker (service : String) : String := Text.dropLeading "chaos_" service

/-- The two ends of a delay. Both are the service itself unless the request asks for the traffic
between two services and names them. -/
def networkEnds (r : NetworkRequest) (clean : String) : String × String :=
  match r.betweenServices, r.sourceService.filter (· ≠ ""), r.targetService.filter (· ≠ "") with
  | some true, some source, some target => (withoutMarker source, withoutMarker target)
  | _, _, _ => (clean, clean)

/-- Plans a network delay. -/
def NetworkRequest.plan (r : NetworkRequest) : Except RequestProblem Plan := do
  let service ← requiredText "serviceName" r.service
  match r.faultType.filter (· ≠ "") with
  | some name => unless name = FaultKind.networkDelay.name do throw (.unsupportedFaultType name)
  | none => pure ()
  let delaySeconds ← positive "delaySeconds" r.delaySeconds
  let durationMinutes ← duration r.durationMinutes
  let clean := withoutMarker service
  let (source, target) := networkEnds r clean
  pure ⟨service, clean, delaySeconds, durationMinutes, .network source target⟩

/-! ### JVM rules -/

/-- A method that was found. -/
structure ResolvedMethod where
  service : String
  interfaceName : String
  methodName : String
  className : String
  durationMinutes : UInt64
  deriving DecidableEq, Repr

/-- The method that a target names, directly or by its interface. -/
def JvmTarget.method (t : JvmTarget) (catalog : Catalog) (service : String) :
    Except RequestProblem String :=
  match nonBlank? t.methodName, nonBlank? t.interfaceName with
  | some methodName, _ => pure methodName
  | none, some interfaceName =>
    match catalog.methodFor? service interfaceName with
    | some methodName => pure methodName
    | none => throw (.unknownInterface interfaceName)
  | none, none => throw .noMethodNorInterface

/-- Finds the method that a target names. An interface that is neither given nor in the catalog
has the name of the method. -/
def JvmTarget.resolve (t : JvmTarget) (catalog : Catalog) :
    Except RequestProblem ResolvedMethod := do
  let service ← requiredText "serviceName" t.service
  unless catalog.contains service do throw (.unknownService service)
  let durationMinutes ← duration t.durationMinutes
  let methodName ← t.method catalog service
  let interfaceName :=
    (nonBlank? t.interfaceName).getD ((catalog.interfaceFor? service methodName).getD methodName)
  let className := catalog.className service interfaceName methodName t.className
  pure ⟨service, interfaceName, methodName, className, durationMinutes⟩

/-- The part of the id of a JVM fault that names the service. -/
def jvmFragment (service : String) : String := Text.deleteAll "ts-" service

/-- Plans a method that throws. -/
def ExceptionRequest.plan (r : ExceptionRequest) (catalog : Catalog) :
    Except RequestProblem Plan := do
  let m ← r.target.resolve catalog
  pure ⟨m.service, jvmFragment m.service, 0, m.durationMinutes,
    .jvm m.service m.className m.methodName (.throws m.interfaceName)⟩

/-- Plans a method that is slow. -/
def LatencyRequest.plan (r : LatencyRequest) (catalog : Catalog) :
    Except RequestProblem Plan := do
  let m ← r.target.resolve catalog
  let latencyMs ← positive "latencyMs" r.latencyMs
  pure ⟨m.service, jvmFragment m.service, latencyMs / 1000, m.durationMinutes,
    .jvm m.service m.className m.methodName (.delays latencyMs)⟩

/-! ### Requests of any kind -/

inductive Request where
  | networkDelay (r : NetworkRequest)
  | jvmException (r : ExceptionRequest)
  | jvmLatency (r : LatencyRequest)
  deriving DecidableEq, Repr

namespace Request

def kind : Request → FaultKind
  | .networkDelay _ => .networkDelay
  | .jvmException _ => .jvmException
  | .jvmLatency _ => .jvmLatency

/-- Plans a request. -/
def plan (catalog : Catalog) : Request → Except RequestProblem Plan
  | .networkDelay r => r.plan
  | .jvmException r => r.plan catalog
  | .jvmLatency r => r.plan catalog

end Request

end FaultPlane.Injection
