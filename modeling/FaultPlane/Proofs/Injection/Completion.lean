import FaultPlane.Proofs.Catalog.ClassNames
import FaultPlane.Proofs.Injection.Validation

/-!
# Completed targets

What a JVM request leaves out is looked up in the catalog: the method of an interface or the
interface of a method, and then the class of both. A request that names one of them is completed
from one entry, the first one that has it. The entry is also the first one with the interface and
the method that are known then, so the second look-up ends at it again (`completed_from_entry`).
-/

namespace FaultPlane.Injection

open Catalog (Unnamed conventionalClass)

/-! ### Texts of a request -/

/-- Whether a text is given, maybe with blanks around it. -/
def Names (value : Option String) (text : String) : Prop :=
  ∃ name, value = some name ∧ Text.allBlank name = false ∧ Text.trim name = text

theorem nonBlank?_eq_none {value : Option String} : nonBlank? value = none ↔ Unnamed value := by
  rw [Option.eq_none_iff_forall_ne_some]
  simp only [ne_eq, nonBlank?_eq_some, Unnamed]
  constructor
  · intro hnone name hname
    by_contra filled
    exact hnone _ ⟨name, hname, Bool.eq_false_iff.2 filled, rfl⟩
  · rintro unnamed text ⟨name, hname, filled, -⟩
    exact absurd (unnamed name hname) (Bool.eq_false_iff.1 filled)

/-! ### Completion -/

/-- A method with everything from one entry, apart from a class that the entry does not name. -/
structure ResolvedMethod.IsOf (m : ResolvedMethod) (catalog : Catalog) (e : Interface) : Prop where
  interfaceName : m.interfaceName = e.name
  methodName : m.methodName = e.methodName
  className : m.className = catalog.classOf m.service e

/-- A method that the catalog does not know. -/
structure ResolvedMethod.IsUnlisted (m : ResolvedMethod) (catalog : Catalog) : Prop where
  missing : ¬ catalog.HasEntry m.service (·.methodName = m.methodName)
  interfaceName : m.interfaceName = m.methodName
  className : m.className = conventionalClass (catalog.package m.service)

/-- The target of a JVM request without a class is completed from one entry of the catalog. -/
structure JvmTarget.Completed (t : JvmTarget) (catalog : Catalog) (m : ResolvedMethod) : Prop where
  service : m.service = Text.trim t.service
  byInterface : ∀ name, Names t.interfaceName name → Unnamed t.methodName →
    ∃ e, catalog.FirstEntry m.service (·.name = name) e ∧ m.IsOf catalog e
  byMethod : ∀ name, Names t.methodName name → Unnamed t.interfaceName →
    m.methodName = name ∧
      ((∃ e, catalog.FirstEntry m.service (·.methodName = name) e ∧ m.IsOf catalog e) ∨
        m.IsUnlisted catalog)
  byBoth : ∀ interface method, Names t.interfaceName interface → Names t.methodName method →
    m.interfaceName = interface ∧ m.methodName = method ∧
      ∀ e, catalog.FirstEntry m.service (fun j => j.name = interface ∧ j.methodName = method) e →
        m.IsOf catalog e

section

variable {t : JvmTarget} {catalog : Catalog} {m : ResolvedMethod} (resolved : t.Resolved catalog m)

include resolved

theorem JvmTarget.Resolved.method_of_named {name : String} (named : Names t.methodName name) :
    m.methodName = name := by
  have hmethod := resolved.method
  rw [JvmTarget.method, nonBlank?_eq_some.2 named] at hmethod
  exact (Except.ok.inj hmethod).symm

theorem JvmTarget.Resolved.interface_of_named {name : String} (named : Names t.interfaceName name) :
    m.interfaceName = name := by
  rw [resolved.interfaceName, nonBlank?_eq_some.2 named]
  rfl

/-- The class is looked up by interface and method, so it is that of the first entry with both. -/
theorem JvmTarget.Resolved.isOf (unnamed : Unnamed t.className) {e : Interface}
    (first : catalog.FirstEntry m.service
      (fun j => j.name = m.interfaceName ∧ j.methodName = m.methodName) e) : m.IsOf catalog e := by
  obtain ⟨hinterface, hmethod⟩ := first.holds
  refine ⟨hinterface.symm, hmethod.symm, ?_⟩
  rw [resolved.className]
  exact Catalog.className_of_firstEntry catalog _ _ _ _ unnamed first

theorem JvmTarget.Resolved.by_interface {name : String} (named : Names t.interfaceName name)
    (free : Unnamed t.methodName) (unnamed : Unnamed t.className) :
    ∃ e, catalog.FirstEntry m.service (·.name = name) e ∧ m.IsOf catalog e := by
  have hinterface := resolved.interface_of_named named
  have hmethod := resolved.method
  rw [JvmTarget.method, nonBlank?_eq_none.2 free, nonBlank?_eq_some.2 named] at hmethod
  dsimp only at hmethod
  split at hmethod
  · next method found =>
    obtain ⟨e, first, rfl⟩ := Catalog.methodFor?_eq_some.1 found
    refine ⟨e, first, resolved.isOf unnamed ?_⟩
    rw [hinterface]
    exact first.and (Except.ok.inj hmethod)
  · cases hmethod

theorem JvmTarget.Resolved.by_method (free : Unnamed t.interfaceName)
    (unnamed : Unnamed t.className) :
    (∃ e, catalog.FirstEntry m.service (·.methodName = m.methodName) e ∧ m.IsOf catalog e) ∨
      m.IsUnlisted catalog := by
  have hinterface := resolved.interfaceName
  rw [nonBlank?_eq_none.2 free, Option.getD_none] at hinterface
  cases hfound : catalog.interfaceFor? m.service m.methodName with
  | some interface =>
    obtain ⟨e, first, rfl⟩ := Catalog.interfaceFor?_eq_some.1 hfound
    rw [hfound, Option.getD_some] at hinterface
    refine Or.inl ⟨e, first, resolved.isOf unnamed ?_⟩
    exact (first.and hinterface.symm).congr fun j => and_comm
  | none =>
    have hmissing := Catalog.interfaceFor?_eq_none.1 hfound
    rw [hfound, Option.getD_none] at hinterface
    refine Or.inr ⟨hmissing, hinterface, ?_⟩
    rw [resolved.className]
    refine Catalog.className_of_unlisted catalog _ _ _ _ unnamed ?_
    rw [← Catalog.unlisted_iff]
    rintro listed ⟨e, first, -⟩
    exact hmissing ((Catalog.exists_firstEntry_iff.1 ⟨e, first⟩).imp fun _ both => both.2)

theorem JvmTarget.Resolved.completed (unnamed : Unnamed t.className) : t.Completed catalog m where
  service := (requiredText_eq_ok resolved.service).1
  byInterface := fun _ named free => resolved.by_interface named free unnamed
  byMethod := by
    intro name named free
    obtain rfl := resolved.method_of_named named
    exact ⟨rfl, resolved.by_method free unnamed⟩
  byBoth := by
    intro interface method namedInterface namedMethod
    obtain rfl := resolved.interface_of_named namedInterface
    obtain rfl := resolved.method_of_named namedMethod
    exact ⟨rfl, rfl, fun e first => resolved.isOf unnamed first⟩

end

/-! ### Requests -/

def Request.jvmTarget? : Request → Option JvmTarget
  | .networkDelay _ => none
  | .jvmException r => some r.target
  | .jvmLatency r => some r.target

/-- The rule of a JVM request without a class is for the method to which its target is completed
from one entry of the catalog. -/
theorem completed_from_entry {catalog : Catalog} {request : Request} {plan : Plan} {t : JvmTarget}
    (planned : request.plan catalog = .ok plan) (target : request.jvmTarget? = some t)
    (unnamed : Unnamed t.className) :
    ∃ m effect, t.resolve catalog = .ok m ∧ t.Completed catalog m ∧
      plan.rule = .jvm m.service m.className m.methodName effect ∧
      ∀ interface, effect = .throws interface → interface = m.interfaceName := by
  cases request with
  | networkDelay r => cases target
  | jvmException r =>
    cases target
    obtain ⟨m, hm, rfl⟩ := ExceptionRequest.plan_eq_ok planned
    refine ⟨m, _, hm, (JvmTarget.resolve_eq_ok hm).completed unnamed, rfl, ?_⟩
    intro interface heffect
    cases heffect
    rfl
  | jvmLatency r =>
    cases target
    obtain ⟨m, latency, hm, -, rfl⟩ := LatencyRequest.plan_eq_ok planned
    refine ⟨m, _, hm, (JvmTarget.resolve_eq_ok hm).completed unnamed, rfl, ?_⟩
    intro interface heffect
    cases heffect

/-! Two entries have the interface of orders, and two the method that lists them. -/

def ordersCatalog : Catalog :=
  { services := [
      { name := "ts-order"
        interfaces := [
          { name := "/orders", methodName := "list", className := some "order.Listing" },
          { name := "/orders", methodName := "find", className := some "order.Finding" },
          { name := "/all", methodName := "list", className := some "order.All" }] },
      { name := "ts-order", interfaces := [{ name := "/orders", methodName := "other" }] }] }

theorem completed_from_entry_orders :
    let request : Request := .jvmException
      { target := { service := "ts-order", interfaceName := some " /orders",
                    durationMinutes := some 5 } }
    ∃ plan e, request.plan ordersCatalog = .ok plan ∧
      ordersCatalog.FirstEntry "ts-order" (·.name = "/orders") e ∧
      plan.rule = .jvm "ts-order" (ordersCatalog.classOf "ts-order" e) e.methodName
        (.throws "/orders") := by
  intro request
  have planned : request.plan ordersCatalog = .ok ⟨"ts-order", "order", 0, 5,
      .jvm "ts-order" "order.Listing" "list" (.throws "/orders")⟩ := by rfl
  have unnamed : Unnamed none := nonBlank?_eq_none.1 rfl
  obtain ⟨m, effect, -, completed, hrule, -⟩ := completed_from_entry planned rfl unnamed
  obtain ⟨e, first, -, hmethod, hclass⟩ :=
    completed.byInterface "/orders" ⟨" /orders", rfl, by decide, by decide⟩ unnamed
  have hservice : m.service = "ts-order" := completed.service.trans (by decide)
  injection hrule with _ hclassName hmethodName
  rw [hservice] at first hclass
  refine ⟨_, e, planned, first, ?_⟩
  rw [← hclass, ← hmethod, ← hclassName, ← hmethodName]

end FaultPlane.Injection
