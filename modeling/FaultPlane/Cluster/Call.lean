import FaultPlane.Injection.Kind

/-!
# Calls to the cluster

The cluster creates resources from manifests, deletes them by name and lists the names there are.
-/

namespace FaultPlane.Cluster

open Injection (ResourceKind)

/-- The outcome of applying a manifest, with what the cluster said about it. -/
structure ApplyOutcome where
  success : Bool
  output : String
  deriving DecidableEq, Repr

inductive ClusterCall where
  | apply (manifest : String)
  | delete (kind : ResourceKind) (name namespaceName : String)
  | list (kind : ResourceKind) (namespaceName : String)
  deriving DecidableEq, Repr

/-- What a call answers. Deleting answers whether the resource is gone; a listing that fails is
empty. -/
@[reducible]
def ClusterCall.Answer : ClusterCall → Type
  | .apply _ => ApplyOutcome
  | .delete .. => Bool
  | .list .. => List String

end FaultPlane.Cluster
