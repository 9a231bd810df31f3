import FaultPlane.Catalog.Basic
import FaultPlane.Discovery.Toggling
import FaultPlane.Injection.Injector

/-!
# The control plane

The control plane injects faults into the cluster and keeps the directory of services. Its settings
and its catalog do not change; its state is the ledger of injected faults and the directory.
-/

namespace FaultPlane

open Discovery (Directory)
open Injection (Ledger InjectionSettings FaultKind FaultRecord)
open Injection (ActionResponse StopProblem StopSummary StopAllResponse ResourceKind)
open Contract (Command Reply)
open FaultPlane.Time (Instant)

/-- The parts of the control plane that do not change. -/
structure Plane where
  config : Config
  catalog : Catalog

namespace Plane

/-- What changes while the control plane runs. -/
structure State where
  ledger : Ledger := {}
  directory : Directory := {}
  deriving Inhabited

/-- A control plane with the packages of its configuration in its catalog. -/
def of (config : Config) (catalog : Catalog) : Plane :=
  ⟨config, { catalog with packages := config.catalog.packageOverrides }⟩

def settings (p : Plane) : InjectionSettings := .ofChaos p.config.chaos

def servicePort (p : Plane) : UInt16 := p.config.discovery.servicePort

/-! ### Dialogues over parts of the state -/

def onLedger {α : Type} (d : Dialogue Ledger α) : Dialogue State α :=
  d.within State.ledger fun l s => { s with ledger := l }

def onDirectory {α : Type} (d : Dialogue Directory α) : Dialogue State α :=
  d.within State.directory fun x s => { s with directory := x }

theorem run_onLedger {α ω : Type} (world : World ω) (d : Dialogue Ledger α) (s : State) (w : ω) :
    (onLedger d).run world s w =
      ((d.run world s.ledger w).1, { s with ledger := (d.run world s.ledger w).2.1 },
        (d.run world s.ledger w).2.2) := by
  unfold onLedger
  refine Dialogue.run_within world ?_ ?_ ?_ d s w <;> intros <;> rfl

theorem run_onDirectory {α ω : Type} (world : World ω) (d : Dialogue Directory α) (s : State)
    (w : ω) :
    (onDirectory d).run world s w =
      ((d.run world s.directory w).1, { s with directory := (d.run world s.directory w).2.1 },
        (d.run world s.directory w).2.2) := by
  unfold onDirectory
  refine Dialogue.run_within world ?_ ?_ ?_ d s w <;> intros <;> rfl

/-! ### Faults in the cluster -/

def apply (p : Plane) (now : Instant) (request : Injection.Request) :
    Dialogue State ActionResponse :=
  onLedger (Injection.apply p.settings p.catalog now request)

def stopRecord (p : Plane) (kind : FaultKind) (name : String) :
    Dialogue State (Except StopProblem (Option FaultRecord)) :=
  onLedger (Injection.stopRecord p.settings kind name)

def stop (p : Plane) (kind : FaultKind) (name : String) : Dialogue State ActionResponse :=
  onLedger (Injection.stop p.settings kind name)

def stopAll (p : Plane) (kind : ResourceKind) : Dialogue State StopSummary :=
  onLedger (Injection.stopAll p.settings kind)

def stopEverything (p : Plane) : Dialogue State StopAllResponse :=
  onLedger (Injection.stopEverything p.settings)

def sweep (p : Plane) (kind : ResourceKind) (now : Instant) : Dialogue State (List FaultRecord) :=
  onLedger (Injection.sweep p.settings kind now)

/-! ### Services -/

def poll (p : Plane) (now : Instant) (service : ServiceEntry) : Dialogue State Unit :=
  onDirectory (Discovery.poll p.servicePort now service)

/-- Polls every configured service. -/
def pollAll (p : Plane) (now : Instant) : Dialogue State Unit :=
  onDirectory (Discovery.pollAll p.servicePort now p.config.services)

def refresh (p : Plane) (now : Instant) (id : String) : Dialogue State Bool :=
  onDirectory (Discovery.refresh p.config.services p.servicePort now id)

def toggle (p : Plane) (now : Instant) (serviceId : String) (command : Command) :
    Dialogue State Reply :=
  onDirectory (Discovery.toggle p.config.services p.servicePort now serviceId command)

/-- The base address of a service. -/
def baseUrlOf (p : Plane) (id : String) : String :=
  Config.baseUrlOf p.config.services p.servicePort id

end Plane

end FaultPlane
