import FaultPlane.Cluster.Call
import FaultPlane.Decimal.Integer
import FaultPlane.Text.Blank
import FaultPlane.Text.Find
import FaultPlane.Text.Utf8

/-!
# The cluster's command line

Calls to the cluster are runs of a program. This module says which arguments and which input a call
has, and what the outcome of the run means.
-/

namespace FaultPlane.Cluster

/-! ### Commands -/

/-- The program and the time it may take. -/
structure Kubectl where
  binary : String := "kubectl"
  timeoutMs : Nat := 30000
  deriving DecidableEq, Repr

namespace ClusterCall

/-- The arguments of the program. -/
def arguments : ClusterCall → List String
  | .apply _ => ["apply", "-f", "-"]
  | .delete kind name namespaceName => ["delete", kind.name, name, "-n", namespaceName]
  | .list kind namespaceName =>
    ["get", kind.name, "-n", namespaceName, "-o", "jsonpath=\x7b.items[*].metadata.name\x7d"]

/-- What the program reads. -/
def input : ClusterCall → String
  | .apply manifest => manifest
  | _ => ""

end ClusterCall

/-- The command in words, for messages. -/
def Kubectl.describe (k : Kubectl) (call : ClusterCall) : String :=
  "`" ++ k.binary ++ " " ++ String.intercalate " " call.arguments ++ "`"

/-! ### Outcomes -/

/-- How a run of the program went. -/
inductive Outcome where
  | notStarted (reason : String)
  | brokenOff (reason : String)
  | timedOut
  | ended (success : Bool) (stdout stderr : List UInt8)
  deriving DecidableEq, Repr

/-- The octets of a stream as trimmed text. -/
def streamText (bytes : List UInt8) : String := Text.trim (Text.Utf8.decodeLossy bytes)

/-- The texts of both streams, on lines of their own, without an empty one. -/
def combined (stdout stderr : String) : String :=
  if stderr = "" then stdout else if stdout = "" then stderr else stdout ++ "\n" ++ stderr

/-- A length of time in the largest unit that leaves something before the point. -/
def durationText (ms : Nat) : String :=
  if ms = 0 then "0ns"
  else if ms < 1000 then Decimal.ofNat ms ++ "ms"
  else if ms % 1000 = 0 then Decimal.ofNat (ms / 1000) ++ "s"
  else Decimal.ofNat (ms / 1000) ++ "." ++
    Text.dropTrailing '0' (Decimal.padded 3 (ms % 1000)) ++ "s"

/-- What applying a manifest came to. -/
def Kubectl.applyOutcome (k : Kubectl) (call : ClusterCall) : Outcome → ApplyOutcome
  | .notStarted reason => ⟨false, "failed to spawn " ++ k.describe call ++ ": " ++ reason⟩
  | .brokenOff reason => ⟨false, "I/O with " ++ k.describe call ++ " failed: " ++ reason⟩
  | .timedOut => ⟨false, k.describe call ++ " timed out after " ++ durationText k.timeoutMs⟩
  | .ended success stdout stderr => ⟨success, combined (streamText stdout) (streamText stderr)⟩

/-- Whether a resource is gone. Deleting one that was not there counts. -/
def isGone : Outcome → Bool
  | .ended true _ _ => true
  | .ended false stdout stderr =>
    Text.containsIgnoringCase "not found" (combined (streamText stdout) (streamText stderr))
  | _ => false

/-- The names in a listing, which may stand in quotes, one by one or all together. -/
def parseNames (s : String) : List String :=
  ((Text.words s).map fun word =>
    String.ofList (Text.stripBoth (fun c => c = '\'' || c = '"') word.toList)).filter (· ≠ "")

/-- The names that a listing found; none if it failed. -/
def listedNames : Outcome → List String
  | .ended true stdout _ => parseNames (streamText stdout)
  | _ => []

/-- What a run of the program answers to the call that it was made for. -/
def Kubectl.answer (k : Kubectl) (outcome : Outcome) : (call : ClusterCall) → call.Answer
  | .apply manifest => k.applyOutcome (.apply manifest) outcome
  | .delete .. => isGone outcome
  | .list .. => listedNames outcome

end FaultPlane.Cluster
