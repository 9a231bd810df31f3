import FaultPlane.Contract.ServiceInfo
import FaultPlane.Contract.ServiceStatus
import FaultPlane.Table

/-!
# The directory of services

What is known of the configured services: the last description that each one gave, and the state
that was last observed of it.
-/

namespace FaultPlane.Discovery

open Contract (ServiceInfo ServiceStatus Toggle)

structure Directory where
  infos : Table ServiceInfo := .empty
  statuses : Table ServiceStatus := .empty

namespace Directory

instance : Inhabited Directory := ⟨{}⟩

def putInfo (d : Directory) (id : String) (info : ServiceInfo) : Directory :=
  { d with infos := d.infos.insert id info }

def putStatus (d : Directory) (id : String) (status : ServiceStatus) : Directory :=
  { d with statuses := d.statuses.insert id status }

/-- The switches that a service is known to have, as if all were off. -/
def knownToggles (d : Directory) (id : String) : List Toggle :=
  match d.infos.get? id with
  | some info => info.faults.map fun f => Toggle.off f.id
  | none => []

/-- Every observed state, ordered by the service id that it carries. -/
def allStatuses (d : Directory) : List ServiceStatus :=
  d.statuses.values.mergeSort fun a b => a.serviceId ≤ b.serviceId

/-- Every description, ordered by the id of the service that gave it. -/
def allInfos (d : Directory) : List ServiceInfo :=
  (d.infos.keys.mergeSort fun a b => a ≤ b).filterMap d.infos.get?

end Directory

end FaultPlane.Discovery
