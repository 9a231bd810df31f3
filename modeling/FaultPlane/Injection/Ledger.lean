import FaultPlane.Injection.IdClock
import FaultPlane.Injection.Registry

/-!
# The ledger of injected faults

The state of fault injection: one registry for each kind of resource, and the clock that issues
their ids.
-/

namespace FaultPlane.Injection

structure Ledger where
  clock : IdClock := {}
  network : Registry := .empty
  jvm : Registry := .empty
  deriving Inhabited

namespace Ledger

/-- The registry for a kind of resource. -/
def registry (l : Ledger) : ResourceKind → Registry
  | .networkChaos => l.network
  | .jvmChaos => l.jvm

def setRegistry (l : Ledger) (kind : ResourceKind) (r : Registry) : Ledger :=
  match kind with
  | .networkChaos => { l with network := r }
  | .jvmChaos => { l with jvm := r }

theorem registry_setRegistry (l : Ledger) (kind k : ResourceKind) (r : Registry) :
    (l.setRegistry kind r).registry k = if k = kind then r else l.registry k := by
  cases kind <;> cases k <;> rfl

@[simp] theorem setRegistry_registry (l : Ledger) (kind : ResourceKind) :
    l.setRegistry kind (l.registry kind) = l := by
  cases kind <;> rfl

/-- Changes the registry for a kind of resource and answers something. -/
def updateRegistry {α : Type} (l : Ledger) (kind : ResourceKind) (f : Registry → α × Registry) :
    α × Ledger :=
  let (a, r) := f (l.registry kind)
  (a, l.setRegistry kind r)

theorem updateRegistry_updateRegistry {α β : Type} (l : Ledger) (kind : ResourceKind)
    (f : Registry → α × Registry) (g : Registry → β × Registry) :
    ((l.updateRegistry kind f).2.updateRegistry kind g).2 =
      l.setRegistry kind (g (f (l.registry kind)).2).2 := by
  cases kind <;> rfl

/-- Issues a number for the id of a record. -/
def issue (l : Ledger) (now : Time.Instant) : Int × Ledger :=
  let (n, clock) := l.clock.issue now
  (n, { l with clock := clock })

/-- The records of all faults, network faults first. -/
def active (l : Ledger) : List FaultRecord := l.network.all ++ l.jvm.all

/-! ### Parts after changes -/

@[simp] theorem clock_setRegistry (l : Ledger) (kind : ResourceKind) (r : Registry) :
    (l.setRegistry kind r).clock = l.clock := by
  cases kind <;> rfl

theorem registry_updateRegistry {α : Type} (l : Ledger) (kind k : ResourceKind)
    (f : Registry → α × Registry) :
    (l.updateRegistry kind f).2.registry k =
      if k = kind then (f (l.registry kind)).2 else l.registry k :=
  registry_setRegistry l kind k _

@[simp] theorem clock_updateRegistry {α : Type} (l : Ledger) (kind : ResourceKind)
    (f : Registry → α × Registry) : (l.updateRegistry kind f).2.clock = l.clock :=
  clock_setRegistry l kind _

@[simp] theorem registry_issue (l : Ledger) (now : Time.Instant) (kind : ResourceKind) :
    (l.issue now).2.registry kind = l.registry kind := by
  cases kind <;> rfl

@[simp] theorem clock_issue (l : Ledger) (now : Time.Instant) :
    (l.issue now).2.clock.last = (l.issue now).1 := rfl

theorem last_lt_issue (l : Ledger) (now : Time.Instant) : l.clock.last < (l.issue now).1 :=
  l.clock.last_lt_issue now

end Ledger

end FaultPlane.Injection
