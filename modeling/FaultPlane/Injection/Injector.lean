import FaultPlane.Dialogue
import FaultPlane.Injection.Ledger
import FaultPlane.Injection.Plan
import FaultPlane.Injection.Response

/-!
# Injecting and stopping faults

Applying a request, stopping a fault by its name, stopping everything, and sweeping out the faults
whose time is over. Each is a dialogue with the cluster over the ledger.
-/

namespace FaultPlane.Injection

open FaultPlane.Time (Instant)

/-! ### Apply -/

/-- The id of a record. -/
def recordId (kind : FaultKind) (fragment : String) (number : Int) : String :=
  kind.idPrefix ++ "-" ++ fragment ++ "-" ++ Decimal.ofInt number

/-- Injects a planned fault. It is tracked once the cluster has accepted the manifest. -/
def inject (settings : InjectionSettings) (now : Instant) (kind : FaultKind) (plan : Plan) :
    Dialogue Ledger ActionResponse := do
  let number ← Dialogue.take (·.issue now)
  let id := recordId kind plan.idFragment number
  match FaultRecord.active? id plan.service kind plan.delaySeconds plan.durationMinutes now with
  | none =>
    let problem := RequestProblem.endOutOfRange plan.durationMinutes
    pure (.failure ("Invalid request: " ++ problem.message))
  | some record =>
    let outcome ← Dialogue.cluster (.apply (plan.manifest settings id number))
    if outcome.success then
      Dialogue.take (·.updateRegistry kind.resource fun r => ((), r.put record))
      pure ((ActionResponse.ok (kind.label ++ " injection successful")).about id plan.service)
    else
      let message := kind.label ++ " injection failed: " ++ outcome.output
      pure ((ActionResponse.failure message).about id plan.service)

/-- Carries out a request. -/
def apply (settings : InjectionSettings) (catalog : Catalog) (now : Instant) (request : Request) :
    Dialogue Ledger ActionResponse :=
  match request.plan catalog with
  | .error problem => pure (.failure problem.message)
  | .ok plan => inject settings now request.kind plan

/-! ### Stop -/

/-- Why a fault was not stopped. -/
inductive StopProblem where
  | nameMissing
  | foreign (id : String) (kind : FaultKind)
  | notDeleted (resource : ResourceKind) (name : String)
  deriving DecidableEq, Repr

/-- Whether the request to stop was at fault, and not the cluster. -/
def StopProblem.isOfRequest : StopProblem → Bool
  | .nameMissing | .foreign .. => true
  | .notDeleted .. => false

def StopProblem.message : StopProblem → String
  | .nameMissing => "chaosName is required"
  | .foreign id kind => id ++ " is not a " ++ kind.name ++ " record"
  | .notDeleted resource name => "Could not delete " ++ resource.name ++ " " ++ name

/-- Deletes a resource and then forgets its record, which is answered if there was one. The name
must be that of a record, or one that this kind of fault gives its resources. -/
def stopRecord (settings : InjectionSettings) (kind : FaultKind) (name : String) :
    Dialogue Ledger (Except StopProblem (Option FaultRecord)) := do
  let id := Text.trim name
  if id = "" then pure (.error .nameMissing)
  else
    let tracked ← Dialogue.look fun l => (l.registry kind.resource).get? id
    if tracked.isNone && !kind.owns id then pure (.error (.foreign id kind))
    else
      let deleted ← Dialogue.cluster (.delete kind.resource id settings.namespaceName)
      if deleted then
        let record ← Dialogue.take (·.updateRegistry kind.resource (·.remove id))
        pure (.ok (record.map fun r => { r with status := .stopped }))
      else pure (.error (.notDeleted kind.resource id))

/-- The response to a stop. -/
def stopResponse (kind : FaultKind) : Except StopProblem (Option FaultRecord) → ActionResponse
  | .ok (some record) =>
    (ActionResponse.ok (kind.label ++ " stopped successfully")).about record.id record.service
  | .ok none => .ok (kind.label ++ " stopped successfully")
  | .error problem =>
    if problem.isOfRequest then .failure problem.message
    else .failure (kind.label ++ " stop failed: " ++ problem.message)

/-- Stops a fault by its name. -/
def stop (settings : InjectionSettings) (kind : FaultKind) (name : String) :
    Dialogue Ledger ActionResponse := do
  pure (stopResponse kind (← stopRecord settings kind name))

/-! ### Stop-all -/

/-- Deletes the resources with some names, except for protected ones, and counts. -/
def deleteListed (settings : InjectionSettings) (kind : ResourceKind) :
    List String → StopSummary → Dialogue Ledger StopSummary
  | [], summary => pure summary
  | name :: names, summary =>
    if settings.protectedNames.contains name then
      deleteListed settings kind names { summary with skipped := summary.skipped + 1 }
    else do
      let deleted ← Dialogue.cluster (.delete kind name settings.namespaceName)
      deleteListed settings kind names <|
        if deleted then { summary with deleted := summary.deleted + 1 }
        else { summary with failed := summary.failed + 1 }

/-- Forgets every record of a kind of resource and then deletes every resource of that kind that
the cluster lists, tracked or not, except for protected ones. -/
def stopAll (settings : InjectionSettings) (kind : ResourceKind) :
    Dialogue Ledger StopSummary := do
  let cleared ← Dialogue.take (·.updateRegistry kind (·.drain))
  let names ← Dialogue.cluster (.list kind settings.namespaceName)
  deleteListed settings kind names { cleared := UInt64.ofNat cleared.length }

/-- Stops the network faults and then the JVM faults. It is a success if no delete failed. -/
def stopEverything (settings : InjectionSettings) : Dialogue Ledger StopAllResponse := do
  let network ← stopAll settings .networkChaos
  let jvm ← stopAll settings .jvmChaos
  pure
    { success := network.failed == 0 && jvm.failed == 0
      message := "network: " ++ network.text ++ "; jvm: " ++ jvm.text
      network := network
      jvm := jvm }

/-! ### Sweep -/

/-- Deletes the resources of some records, whatever the cluster says to it. -/
def deleteRecords (settings : InjectionSettings) (kind : ResourceKind) :
    List FaultRecord → Dialogue Ledger Unit
  | [] => pure ()
  | record :: records => do
    let _ ← Dialogue.cluster (.delete kind record.id settings.namespaceName)
    deleteRecords settings kind records

/-- Forgets the records that have ended before an instant, deletes their resources and answers
them. -/
def sweep (settings : InjectionSettings) (kind : ResourceKind) (now : Instant) :
    Dialogue Ledger (List FaultRecord) := do
  let expired ← Dialogue.take (·.updateRegistry kind (·.removeIf (·.isExpiredAt now)))
  deleteRecords settings kind expired
  pure (expired.map fun r => { r with status := .expired })

end FaultPlane.Injection
