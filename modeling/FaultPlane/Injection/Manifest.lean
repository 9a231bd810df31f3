import FaultPlane.Decimal.Integer

/-!
# Manifests

The documents that the cluster turns into faults. A manifest is a list of lines; every value stands
on a line of its own, as it is and without quotes.
-/

namespace FaultPlane.Injection

/-! ### Parameters -/

/-- Delays the traffic to a service, or only that part of it which comes from another service. -/
structure NetworkSpec where
  name : String
  namespaceName : String
  source : String
  target : String
  delaySeconds : UInt64
  durationMinutes : UInt64
  deriving DecidableEq, Repr

/-- What a JVM rule does at its method. -/
inductive JvmEffect where
  | throws (interfaceName : String)
  | delays (latencyMs : UInt64)
  deriving DecidableEq, Repr

/-- A rule for one method of a service. The nonce keeps the names of rules inside the JVM
apart. -/
structure JvmSpec where
  name : String
  namespaceName : String
  service : String
  durationMinutes : UInt64
  portNumber : UInt16
  className : String
  methodName : String
  effect : JvmEffect
  nonce : Int
  deriving DecidableEq, Repr

/-! ### Templates -/

/-- A part of a line: text of the template, or a value that is filled in. -/
inductive Part where
  | fixed (text : String)
  | value (text : String)
  deriving DecidableEq, Repr

abbrev Line := List Part

instance : Coe String Part := ⟨.fixed⟩

instance : Coe String Line := ⟨fun text => [.fixed text]⟩

def Part.text : Part → String
  | .fixed text | .value text => text

def Line.text (line : Line) : String := String.join (line.map Part.text)

/-- The block that names the source, if it is another service than the target. -/
def NetworkSpec.sourceBlock (s : NetworkSpec) : List Line :=
  if s.source = s.target then [] else
    ["  target:",
      "    selector:",
      "      labelSelectors:",
      ["        app: ", .value s.source],
      "    mode: one"]

/-- The template of a network manifest. -/
def NetworkSpec.template (s : NetworkSpec) : List Line :=
  "apiVersion: chaos-mesh.org/v1alpha1" ::
    "kind: NetworkChaos" ::
    "metadata:" ::
    ["  name: ", .value s.name] ::
    ["  namespace: ", .value s.namespaceName] ::
    "spec:" ::
    "  action: delay" ::
    "  mode: one" ::
    "  selector:" ::
    "    labelSelectors:" ::
    ["      app: ", .value s.target] ::
    "  delay:" ::
    ["    latency: ", .value (Decimal.ofNat s.delaySeconds.toNat), "s"] ::
    "    correlation: '100'" ::
    "    jitter: 0ms" ::
    ["  duration: ", .value (Decimal.ofNat s.durationMinutes.toNat), "m"] ::
    s.sourceBlock

/-- The template of a rule that makes a method throw. -/
def JvmSpec.throwTemplate (s : JvmSpec) (interfaceName : String) : List Line :=
  ["kind: JVMChaos",
    "apiVersion: chaos-mesh.org/v1alpha1",
    "metadata:",
    ["  namespace: ", .value s.namespaceName],
    ["  name: ", .value s.name],
    "  annotations:",
    "    experiment.chaos-mesh.org/pause: 'false'",
    "spec:",
    "  selector:",
    "    namespaces:",
    ["      - ", .value s.namespaceName],
    "    labelSelectors:",
    ["      app: ", .value s.service],
    "  mode: all",
    ["  duration: ", .value (Decimal.ofNat s.durationMinutes.toNat), "m"],
    "  action: ruleData",
    ["  port: ", .value (Decimal.ofNat s.portNumber.toNat)],
    ["  name: '--ruleData-", .value (Decimal.ofInt s.nonce), "'"],
    "  value: ''",
    "  exception: ''",
    "  latency: 0",
    "  ruleData: |-",
    "    RULE Inject500Error",
    ["    CLASS ", .value s.className],
    ["    METHOD ", .value s.methodName],
    "    AT ENTRY",
    "    IF true",
    ["        DO throw new RuntimeException(\"Simulated server error for ", .value interfaceName,
      "\");"],
    "    ENDRULE"]

/-- The template of a rule that makes a method slow. -/
def JvmSpec.delayTemplate (s : JvmSpec) (latencyMs : UInt64) : List Line :=
  ["kind: JVMChaos",
    "apiVersion: chaos-mesh.org/v1alpha1",
    "metadata:",
    ["  namespace: ", .value s.namespaceName],
    ["  name: ", .value s.name],
    "spec:",
    "  selector:",
    "    namespaces:",
    ["      - ", .value s.namespaceName],
    "    labelSelectors:",
    ["      app: ", .value s.service],
    "  mode: all",
    ["  duration: ", .value (Decimal.ofNat s.durationMinutes.toNat), "m"],
    "  action: latency",
    ["  port: ", .value (Decimal.ofNat s.portNumber.toNat)],
    ["  class: ", .value s.className],
    ["  method: ", .value s.methodName],
    ["  name: ", .value s.className, "-latency-", .value (Decimal.ofInt s.nonce)],
    "  value: ''",
    "  exception: ''",
    ["  latency: ", .value (Decimal.ofNat latencyMs.toNat)],
    "  ruleData: ''"]

def JvmSpec.template (s : JvmSpec) : List Line :=
  match s.effect with
  | .throws interfaceName => s.throwTemplate interfaceName
  | .delays latencyMs => s.delayTemplate latencyMs

/-! ### Text -/

/-- A network manifest ends with a line break. -/
def NetworkSpec.manifest (s : NetworkSpec) : String :=
  String.intercalate "\n" (s.template.map Line.text) ++ "\n"

/-- A JVM manifest ends without a line break. -/
def JvmSpec.manifest (s : JvmSpec) : String :=
  String.intercalate "\n" (s.template.map Line.text)

end FaultPlane.Injection
