import FaultPlane.Proofs.Injection.Outcome
import FaultPlane.Proofs.Injection.Plans
import FaultPlane.Proofs.Text.Occurrences

/-!
# The service in a record id

Between its prefix and its number, a record id has the name of the service. Of a network fault this
is the name without a leading `chaos_`. Of a JVM fault it is the name with every `ts-` deleted, so
it is the name without a leading `ts-` just for the services that have no other one in their name
(`id_named_iff`).
-/

namespace FaultPlane.Injection

open Text (Deleted OccursIn WithoutLeading)

/-! ### Names of services -/

def FaultKind.marker : FaultKind → String
  | .networkDelay => "chaos_"
  | .jvmException | .jvmLatency => "ts-"

/-- The part of an id that names a service. -/
def FaultKind.fragment (kind : FaultKind) (service : String) : String :=
  match kind with
  | .networkDelay => withoutMarker service
  | .jvmException | .jvmLatency => jvmFragment service

def Request.service : Request → String
  | .networkDelay r => r.service
  | .jvmException r => r.target.service
  | .jvmLatency r => r.target.service

theorem Request.fragment_of_plan {catalog : Catalog} {request : Request} {plan : Plan}
    (planned : request.plan catalog = .ok plan) :
    plan.idFragment = request.kind.fragment (Text.trim request.service) := by
  cases request with
  | networkDelay r =>
    have hplan := NetworkRequest.plan_eq_ok planned
    rw [hplan.fragment, (requiredText_eq_ok hplan.service).1]
    rfl
  | jvmException r =>
    obtain ⟨m, hm, rfl⟩ := ExceptionRequest.plan_eq_ok planned
    exact congrArg jvmFragment (requiredText_eq_ok (JvmTarget.resolve_eq_ok hm).service).1
  | jvmLatency r =>
    obtain ⟨m, latency, hm, -, rfl⟩ := LatencyRequest.plan_eq_ok planned
    exact congrArg jvmFragment (requiredText_eq_ok (JvmTarget.resolve_eq_ok hm).service).1

theorem FaultKind.withoutLeading_fragment_iff (kind : FaultKind) (service : String) :
    WithoutLeading kind.marker service (kind.fragment service) ↔
      kind = .networkDelay ∨ ∃ name, WithoutLeading "ts-" service name ∧ ¬ OccursIn "ts-" name := by
  have hjvm : WithoutLeading "ts-" service (jvmFragment service) ↔
      ∃ name, WithoutLeading "ts-" service name ∧ ¬ OccursIn "ts-" name := by
    simp only [Text.withoutLeading_iff, exists_eq_left']
    rw [← Text.deleteAll_eq_self_iff (by decide),
      ← Text.deleteAll_of_leading (by decide) (Text.withoutLeading_iff.2 rfl), eq_comm, jvmFragment]
  cases kind with
  | networkDelay => simp [marker, fragment, withoutMarker, Text.withoutLeading_iff]
  | jvmException => simpa [marker, fragment] using hjvm
  | jvmLatency => simpa [marker, fragment] using hjvm

/-! ### Ids -/

theorem recordId_inj {kind : FaultKind} {fragment name : String} {n : Int} :
    recordId kind fragment n = recordId kind name n ↔ fragment = name := by
  rw [recordId, recordId, String.append_left_inj, String.append_left_inj, String.append_right_inj]

/-- An apply reports its id unless the fault would end outside the calendar. -/
theorem recordId_apply {ω : Type} (world : World ω) (settings : InjectionSettings)
    {catalog : Catalog} (now : Time.Instant) {request : Request} {plan : Plan} (l : Ledger) (w : ω)
    (planned : request.plan catalog = .ok plan) :
    ((apply settings catalog now request).run world l w).1.recordId =
      (plan.record? request.kind l now).map fun _ => plan.recordId request.kind l now := by
  rw [apply_planned settings now planned]
  cases hrecord : plan.record? request.kind l now with
  | none =>
    rw [run_inject_outOfRange world settings now request.kind plan l w hrecord]
    rfl
  | some record =>
    cases hanswer : (plan.attempt world settings request.kind l now w).1.success with
    | false =>
      rw [run_inject_refused world settings now request.kind plan l w hrecord hanswer]
      rfl
    | true =>
      rw [run_inject_accepted world settings now request.kind plan l w hrecord hanswer]
      rfl

/-- The id that an apply issues is its prefix, a name and the number that the clock has issued. The
name is the trimmed name of the service without a leading marker exactly if the fault is a network
fault or the service has no `ts-` but at its start. Of a JVM fault it is what is left of the service
when every `ts-` is deleted. -/
theorem id_named_iff {catalog : Catalog} {request : Request} {plan : Plan}
    (planned : request.plan catalog = .ok plan) (settings : InjectionSettings) (now : Time.Instant)
    (l : Ledger) {ω : Type} (world : World ω) (w : ω) :
    let id := plan.recordId request.kind l now
    let idOf := fun name =>
      request.kind.idPrefix ++ "-" ++ name ++ "-" ++ Decimal.ofInt (l.clock.issue now).1
    let service := Text.trim request.service
    ((apply settings catalog now request).run world l w).1.recordId =
        (plan.record? request.kind l now).map (fun _ => id) ∧
      ((∃ name, WithoutLeading request.kind.marker service name ∧ id = idOf name) ↔
        request.kind = .networkDelay ∨
          ∃ name, WithoutLeading "ts-" service name ∧ ¬ OccursIn "ts-" name) ∧
      (request.kind ≠ .networkDelay → ∃ name, Deleted "ts-" service name ∧ id = idOf name) := by
  intro id idOf service
  have hid : id = idOf (request.kind.fragment service) := by
    show Injection.recordId request.kind plan.idFragment (l.issue now).1 = _
    rw [Request.fragment_of_plan planned]
    rfl
  have hname : ∀ name, id = idOf name ↔ request.kind.fragment service = name := fun name => by
    rw [hid]
    exact recordId_inj
  refine ⟨recordId_apply world settings now l w planned, ?_, ?_⟩
  · simp only [hname, exists_eq_right']
    exact request.kind.withoutLeading_fragment_iff service
  · intro hjvm
    refine ⟨_, ?_, hid⟩
    cases hkind : request.kind with
    | networkDelay => exact absurd hkind hjvm
    | jvmException => exact Text.deleted_deleteAll (by decide) service
    | jvmLatency => exact Text.deleted_deleteAll (by decide) service

/-! The service of orders has its marker at the start of its name and nowhere else. -/

def listedService (name : String) : Catalog := { services := [{ name := name }] }

def slowService (name : String) : Request :=
  .jvmLatency
    { target := { service := name, methodName := some "list", durationMinutes := some 5 }
      latencyMs := some 2500 }

theorem id_named_orders :
    ∃ plan, (slowService " ts-order").plan (listedService "ts-order") = .ok plan ∧
      plan.recordId .jvmLatency {} ⟨1, 0⟩ = "jvm-latency-order-1000" ∧
      ∃ name, WithoutLeading "ts-" "ts-order" name ∧
        plan.recordId .jvmLatency {} ⟨1, 0⟩ = "jvm-latency" ++ "-" ++ name ++ "-" ++ "1000" := by
  obtain ⟨plan, planned⟩ :
      ∃ plan, (slowService " ts-order").plan (listedService "ts-order") = .ok plan := ⟨_, rfl⟩
  obtain ⟨-, hiff, -⟩ := id_named_iff planned ⟨"chaos", 9277, []⟩ ⟨1, 0⟩ {} World.failing ()
  have hrest : WithoutLeading "ts-" (Text.trim " ts-order") "order" :=
    Text.withoutLeading_iff.2 (by decide)
  obtain ⟨name, hname, hid⟩ := hiff.2 (Or.inr ⟨"order", hrest, by decide⟩)
  refine ⟨plan, planned, ?_, name, hname, hid⟩
  cases planned
  rfl

/-- The ids of the service of assets name the service asseservice. -/
theorem not_always_leading :
    ¬ ∀ (settings : InjectionSettings) (catalog : Catalog) (now : Time.Instant) (request : Request)
      (plan : Plan) (world : World Unit) (l : Ledger) (id : String),
      request.plan catalog = .ok plan →
      ((apply settings catalog now request).run world l ()).1.recordId = some id →
        ∃ name, WithoutLeading request.kind.marker (Text.trim request.service) name ∧
          id = request.kind.idPrefix ++ "-" ++ name ++ "-" ++
            Decimal.ofInt (l.clock.issue now).1 := by
  intro always
  let request := slowService "ts-assets-service"
  obtain ⟨plan, planned⟩ :
      ∃ plan, request.plan (listedService "ts-assets-service") = .ok plan := ⟨_, rfl⟩
  have reported := recordId_apply World.failing ⟨"chaos", 9277, []⟩ ⟨1, 0⟩ {} () planned
  have recorded : ∃ record, plan.record? request.kind {} ⟨1, 0⟩ = some record := by
    cases planned
    exact ⟨_, rfl⟩
  obtain ⟨record, hrecord⟩ := recorded
  rw [hrecord, Option.map_some] at reported
  obtain ⟨name, hname, hid⟩ := always _ _ _ _ plan _ _ _ planned reported
  rw [Text.withoutLeading_iff] at hname
  have hfragment : plan.idFragment = name := recordId_inj.1 hid
  rw [Request.fragment_of_plan planned, ← hname] at hfragment
  exact absurd hfragment (by decide)

end FaultPlane.Injection
