import FaultPlane.Json.Variant
import FaultPlane.Text.Find

/-!
# Kinds of injected faults

Three kinds of fault are injected as cluster resources of two kinds. The name of a resource starts
with the id prefix of its kind of fault and a dash, so it tells which faults may have made it.
-/

namespace FaultPlane.Injection

open FaultPlane.Json (Codec)

/-! ### Resources -/

/-- The kinds of cluster resource that faults are injected as. -/
inductive ResourceKind where
  | networkChaos
  | jvmChaos
  deriving DecidableEq, Repr, Inhabited

/-- The name that the cluster has for the kind. -/
def ResourceKind.name : ResourceKind → String
  | .networkChaos => "networkchaos"
  | .jvmChaos => "jvmchaos"

/-! ### Faults -/

/-- The kinds of fault: delayed network traffic, a method that throws, a method that is slow. -/
inductive FaultKind where
  | networkDelay
  | jvmException
  | jvmLatency
  deriving DecidableEq, Repr, Inhabited

namespace FaultKind

def all : List FaultKind := [.networkDelay, .jvmException, .jvmLatency]

/-- The name that records carry. -/
def name : FaultKind → String
  | .networkDelay => "network-delay"
  | .jvmException => "jvm-500-error"
  | .jvmLatency => "jvm-latency"

def codec : Codec FaultKind := Codec.choice all name

/-- The name that responses use. -/
def label : FaultKind → String
  | .networkDelay => "Network delay fault"
  | .jvmException => "JVM fault"
  | .jvmLatency => "JVM latency fault"

/-- The kind of resource that a fault is injected as. -/
def resource : FaultKind → ResourceKind
  | .networkDelay => .networkChaos
  | .jvmException | .jvmLatency => .jvmChaos

/-- What the ids of the records start with, before the first dash that follows it. -/
def idPrefix : FaultKind → String
  | .networkDelay => "network-delay"
  | .jvmException => "jvm"
  | .jvmLatency => "jvm-latency"

/-- Whether an id starts with the prefix of this kind of fault and a dash. -/
def hasPrefix (kind : FaultKind) (id : String) : Bool :=
  match Text.afterPrefix? kind.idPrefix.toList id.toList with
  | some rest => rest.head? == some '-'
  | none => false

/-- Whether an id names a resource that a fault of this kind may have made. It has the prefix of the
kind, but a latency fault goes by the shorter prefix of all JVM faults, because both kinds of JVM
fault make resources of one kind. -/
def owns : FaultKind → String → Bool
  | .jvmLatency, id => Text.startsWith "jvm-" id
  | kind, id => kind.hasPrefix id

end FaultKind

end FaultPlane.Injection
