import FaultPlane.Json.Record

/-!
# Requests to inject a fault

A request for each kind of fault. Requests are read leniently, with nearly every field optional;
whether a request can be carried out is decided when it is planned.
-/

namespace FaultPlane.Injection

open FaultPlane.Json (Codec Field Fields)

/-! ### Network delay -/

/-- Delays the traffic of a service or, where both ends are given, the traffic between two. -/
structure NetworkRequest where
  service : String := ""
  faultType : Option String := none
  delaySeconds : Option Int64 := none
  durationMinutes : Option Int64 := none
  targetService : Option String := none
  sourceService : Option String := none
  betweenServices : Option Bool := none
  deriving DecidableEq, Repr, Inhabited

def NetworkRequest.codec : Codec NetworkRequest :=
  Codec.record "NetworkDelayRequest"
    (.cons (.withDefault "serviceName" .text "") <|
      .cons (.nullable "faultType" .text) <|
      .cons (.nullable "delaySeconds" .int64) <|
      .cons (.nullable "durationMinutes" .int64) <|
      .cons (.nullable "targetService" .text) <|
      .cons (.nullable "sourceService" .text) <|
      .cons (.nullable "delayUpstream" .bool) .nil)
    (fun (service, faultType, delay, duration, target, source, between, ()) =>
      ⟨service, faultType, delay, duration, target, source, between⟩)
    (fun r => (r.service, r.faultType, r.delaySeconds, r.durationMinutes, r.targetService,
      r.sourceService, r.betweenServices, ()))

/-! ### JVM rules -/

/-- The method that a JVM rule is for, and for how long. -/
structure JvmTarget where
  service : String := ""
  interfaceName : Option String := none
  methodName : Option String := none
  httpMethod : Option String := none
  className : Option String := none
  durationMinutes : Option Int64 := none
  deriving DecidableEq, Repr, Inhabited

/-- Makes a method throw. -/
structure ExceptionRequest where
  target : JvmTarget := {}
  exceptionMessage : Option String := none
  errorCode : Option Int32 := none
  latencyMs : Option Int64 := none
  probability : Option Float := none
  deriving DecidableEq, Repr, Inhabited

def ExceptionRequest.codec : Codec ExceptionRequest :=
  Codec.record "JvmFaultRequest"
    (.cons (.withDefault "serviceName" .text "") <|
      .cons (.nullable "interfaceName" .text) <|
      .cons (.nullable "methodName" .text) <|
      .cons (.nullable "httpMethod" .text) <|
      .cons (.nullable "className" .text) <|
      .cons (.nullable "durationMinutes" .int64) <|
      .cons (.nullable "exceptionMessage" .text) <|
      .cons (.nullable "errorCode" .int32) <|
      .cons (.nullable "latencyMs" .int64) <|
      .cons (.nullable "probability" .real) .nil)
    (fun (service, interfaceName, methodName, httpMethod, className, duration, message, errorCode,
        latency, probability, ()) =>
      ⟨⟨service, interfaceName, methodName, httpMethod, className, duration⟩, message, errorCode,
        latency, probability⟩)
    (fun r => (r.target.service, r.target.interfaceName, r.target.methodName, r.target.httpMethod,
      r.target.className, r.target.durationMinutes, r.exceptionMessage, r.errorCode, r.latencyMs,
      r.probability, ()))

/-- Makes a method slow. -/
structure LatencyRequest where
  target : JvmTarget := {}
  latencyMs : Option Int64 := none
  probability : Option Float := none
  deriving DecidableEq, Repr, Inhabited

def LatencyRequest.codec : Codec LatencyRequest :=
  Codec.record "JvmLatencyFaultRequest"
    (.cons (.withDefault "serviceName" .text "") <|
      .cons (.nullable "interfaceName" .text) <|
      .cons (.nullable "methodName" .text) <|
      .cons (.nullable "httpMethod" .text) <|
      .cons (.nullable "className" .text) <|
      .cons (.nullable "durationMinutes" .int64) <|
      .cons (.nullable "latencyMs" .int64) <|
      .cons (.nullable "probability" .real) .nil)
    (fun (service, interfaceName, methodName, httpMethod, className, duration, latency,
        probability, ()) =>
      ⟨⟨service, interfaceName, methodName, httpMethod, className, duration⟩, latency,
        probability⟩)
    (fun r => (r.target.service, r.target.interfaceName, r.target.methodName, r.target.httpMethod,
      r.target.className, r.target.durationMinutes, r.latencyMs, r.probability, ()))

end FaultPlane.Injection
