import FaultPlane.Config.Validity
import FaultPlane.Decimal.Integer

/-!
# Settings from the environment

Seven settings can be overridden by environment variables. The variables are looked at in a fixed
order, and a value that cannot be read ends it: what came before stays changed.
-/

namespace FaultPlane.Config

/-- A variable and what its value does to a configuration; nothing if it cannot be read. -/
structure Override where
  key : String
  apply : String → Config → Option Config

def readBool? (s : String) : Option Bool :=
  match Text.trim s with
  | "true" => some true
  | "false" => some false
  | _ => none

/-- The overrides in the order in which they are looked at. -/
def overrides : List Override :=
  [⟨"CONTROL_PLANE_PORT", fun value c => do
      let n ← Decimal.uint16? (Text.trim value)
      pure { c with server.portNumber := n }⟩,
    ⟨"CHAOS_NAMESPACE", fun value c => pure { c with chaos.namespaceName := value }⟩,
    ⟨"CHAOS_KUBECTL", fun value c => pure { c with chaos.kubectl := value }⟩,
    ⟨"CHAOS_PROTECTED_RESOURCES", fun value c =>
      pure { c with chaos.protectedNames := Text.commaItems value }⟩,
    ⟨"FAULT_DISCOVERY_ENABLED", fun value c => do
      let b ← readBool? value
      pure { c with discovery.enabled := b }⟩,
    ⟨"FAULT_DISCOVERY_SCAN_INTERVAL_MS", fun value c => do
      let n ← Decimal.uint64? (Text.trim value)
      pure { c with discovery.scanIntervalMs := n }⟩,
    ⟨"FAULT_DISCOVERY_TIMEOUT_MS", fun value c => do
      let n ← Decimal.uint64? (Text.trim value)
      pure { c with discovery.timeoutMs := n }⟩]

/-- Applies those of some overrides whose variable is set, up to the first value that cannot be
read. -/
def applyOverrides (lookup : String → Option String) :
    List Override → Config → Config × Except ConfigProblem Unit
  | [], c => (c, pure ())
  | o :: rest, c =>
    match lookup o.key with
    | none => applyOverrides lookup rest c
    | some value =>
      match o.apply value c with
      | some c' => applyOverrides lookup rest c'
      | none => (c, throw (.invalidVariable o.key value))

/-- Applies the environment and checks the result. The configuration is changed as far as the
variables could be read. -/
def applyEnvironment (lookup : String → Option String) (c : Config) :
    Config × Except ConfigProblem Unit :=
  match applyOverrides lookup overrides c with
  | (c', .ok ()) => (c', check c')
  | (c', .error problem) => (c', .error problem)

end FaultPlane.Config
