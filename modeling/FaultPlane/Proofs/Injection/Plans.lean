import FaultPlane.Injection.Plan
import FaultPlane.Proofs.Checks

/-!
# What a plan takes over from its request

A request that can be planned lasts at least a minute and no longer than the cluster accepts
(`Request.duration_of_plan`). Its delay goes into the plan in whole seconds
(`Request.delay_of_plan`).
-/

namespace FaultPlane.Injection

/-! ### Checks that pass -/

theorem toNat_toUInt64_of_pos {n : Int64} (h : 0 < n.toInt) :
    (n.toUInt64.toNat : Int) = n.toInt := by
  have hcond : n.toInt = if 2 * n.toUInt64.toNat < 2 ^ 64 then (n.toUInt64.toNat : Int)
      else (n.toUInt64.toNat : Int) - (2 ^ 64 : Nat) := n.toBitVec.toInt_eq_toNat_cond
  have hlt := n.toUInt64.toNat_lt
  split at hcond <;> omega

theorem positive_eq_ok {field : String} {value : Option Int64} {n : UInt64}
    (h : positive field value = .ok n) :
    ∃ m, value = some m ∧ 0 < n.toNat ∧ (n.toNat : Int) = m.toInt := by
  unfold positive at h
  split at h
  · cases h
  · next m =>
    split at h
    · next hm =>
      have hpos : 0 < m.toInt := Int64.lt_iff_toInt_lt.1 hm
      have hvalue := toNat_toUInt64_of_pos hpos
      cases h
      exact ⟨m, rfl, by omega, hvalue⟩
    · cases h

theorem duration_eq_ok {minutes : Option Int64} {n : UInt64} (h : duration minutes = .ok n) :
    (1 ≤ n.toNat ∧ n.toNat ≤ 153722867) ∧
      ∃ m, minutes = some m ∧ (n.toNat : Int) = m.toInt := by
  obtain ⟨k, hk, hbound⟩ := bind_eq_ok.1 h
  obtain ⟨m, hm, hpos, hvalue⟩ := positive_eq_ok hk
  split at hbound
  · cases hbound
  · next hle =>
    have hmax : ¬ 153722867 < k.toNat := fun hlt => hle (UInt64.lt_iff_toNat_lt.2 hlt)
    cases hbound
    exact ⟨by omega, m, hm, hvalue⟩

theorem requiredText_eq_ok {field value text : String} (h : requiredText field value = .ok text) :
    text = Text.trim value ∧ text ≠ "" := by
  unfold requiredText at h
  split at h
  · cases h
  · next filled =>
    obtain rfl := Except.ok.inj h
    exact ⟨rfl, filled⟩

/-! ### Plans -/

/-- What a target comes to when its method is found. -/
structure JvmTarget.Resolved (t : JvmTarget) (catalog : Catalog) (m : ResolvedMethod) : Prop where
  service : requiredText "serviceName" t.service = .ok m.service
  duration : duration t.durationMinutes = .ok m.durationMinutes
  method : t.method catalog m.service = .ok m.methodName
  interfaceName : m.interfaceName = (nonBlank? t.interfaceName).getD
    ((catalog.interfaceFor? m.service m.methodName).getD m.methodName)
  className : m.className = catalog.className m.service m.interfaceName m.methodName t.className

theorem JvmTarget.resolve_eq_ok {t : JvmTarget} {catalog : Catalog} {m : ResolvedMethod}
    (h : t.resolve catalog = .ok m) : t.Resolved catalog m := by
  obtain ⟨service, hservice, h⟩ := bind_eq_ok.1 h
  dsimp only at h
  split at h
  · obtain ⟨minutes, hminutes, h⟩ := bind_eq_ok.1 h
    obtain ⟨methodName, hmethod, h⟩ := bind_eq_ok.1 h
    cases h
    exact ⟨hservice, hminutes, hmethod, rfl, rfl⟩
  · cases h

/-- What a network request comes to when it can be planned. -/
structure NetworkRequest.Planned (r : NetworkRequest) (plan : Plan) : Prop where
  service : requiredText "serviceName" r.service = .ok plan.service
  fragment : plan.idFragment = withoutMarker plan.service
  delay : positive "delaySeconds" r.delaySeconds = .ok plan.delaySeconds
  duration : duration r.durationMinutes = .ok plan.durationMinutes
  rule : plan.rule =
    .network (networkEnds r plan.idFragment).1 (networkEnds r plan.idFragment).2

theorem NetworkRequest.plan_eq_ok {r : NetworkRequest} {plan : Plan} (h : r.plan = .ok plan) :
    r.Planned plan := by
  obtain ⟨service, hservice, h⟩ := bind_eq_ok.1 h
  dsimp only at h
  have hplan : (do
      let delaySeconds ← positive "delaySeconds" r.delaySeconds
      let durationMinutes ← duration r.durationMinutes
      let clean := withoutMarker service
      let ends := networkEnds r clean
      pure (⟨service, clean, delaySeconds, durationMinutes, .network ends.1 ends.2⟩ : Plan)) =
        .ok plan := by
    split at h
    · split at h
      · exact h
      · cases h
    · exact h
  obtain ⟨delay, hdelay, hplan⟩ := bind_eq_ok.1 hplan
  obtain ⟨minutes, hminutes, hplan⟩ := bind_eq_ok.1 hplan
  cases hplan
  exact ⟨hservice, rfl, hdelay, hminutes, rfl⟩

theorem ExceptionRequest.plan_eq_ok {r : ExceptionRequest} {catalog : Catalog} {plan : Plan}
    (h : r.plan catalog = .ok plan) :
    ∃ m, r.target.resolve catalog = .ok m ∧
      plan = ⟨m.service, jvmFragment m.service, 0, m.durationMinutes,
        .jvm m.service m.className m.methodName (.throws m.interfaceName)⟩ := by
  obtain ⟨m, hm, h⟩ := bind_eq_ok.1 h
  exact ⟨m, hm, (Except.ok.inj h).symm⟩

theorem LatencyRequest.plan_eq_ok {r : LatencyRequest} {catalog : Catalog} {plan : Plan}
    (h : r.plan catalog = .ok plan) :
    ∃ m latency, r.target.resolve catalog = .ok m ∧ positive "latencyMs" r.latencyMs = .ok latency ∧
      plan = ⟨m.service, jvmFragment m.service, latency / 1000, m.durationMinutes,
        .jvm m.service m.className m.methodName (.delays latency)⟩ := by
  obtain ⟨m, hm, h⟩ := bind_eq_ok.1 h
  obtain ⟨latency, hlatency, h⟩ := bind_eq_ok.1 h
  exact ⟨m, latency, hm, hlatency, (Except.ok.inj h).symm⟩

def Request.durationMinutes : Request → Option Int64
  | .networkDelay r => r.durationMinutes
  | .jvmException r => r.target.durationMinutes
  | .jvmLatency r => r.target.durationMinutes

theorem Request.plan_eq_ok {request : Request} {catalog : Catalog} {plan : Plan}
    (h : request.plan catalog = .ok plan) :
    duration request.durationMinutes = .ok plan.durationMinutes := by
  cases request with
  | networkDelay r => exact (NetworkRequest.plan_eq_ok h).duration
  | jvmException r =>
    obtain ⟨m, hm, rfl⟩ := ExceptionRequest.plan_eq_ok h
    exact (JvmTarget.resolve_eq_ok hm).duration
  | jvmLatency r =>
    obtain ⟨m, latency, hm, -, rfl⟩ := LatencyRequest.plan_eq_ok h
    exact (JvmTarget.resolve_eq_ok hm).duration

theorem Request.duration_of_plan {request : Request} {catalog : Catalog} {plan : Plan}
    (h : request.plan catalog = .ok plan) :
    1 ≤ plan.durationMinutes.toNat ∧ plan.durationMinutes.toNat ≤ 153722867 :=
  (duration_eq_ok (Request.plan_eq_ok h)).1

/-- Delays are whole seconds: those of a network fault as they are, those of a JVM fault rounded
down, and none for a method that throws. -/
def Plan.Delays (plan : Plan) : Request → Prop
  | .networkDelay r => 1 ≤ plan.delaySeconds.toNat ∧
      ∃ delay, r.delaySeconds = some delay ∧ (plan.delaySeconds.toNat : Int) = delay.toInt
  | .jvmException _ => plan.delaySeconds = 0
  | .jvmLatency r => ∃ latency, r.latencyMs = some latency ∧ 0 < latency.toInt ∧
      (plan.delaySeconds.toNat : Int) = latency.toInt / 1000

theorem Request.delay_of_plan {request : Request} {catalog : Catalog} {plan : Plan}
    (h : request.plan catalog = .ok plan) : plan.Delays request := by
  cases request with
  | networkDelay r =>
    obtain ⟨delay, hdelay, hpos, hvalue⟩ := positive_eq_ok (NetworkRequest.plan_eq_ok h).delay
    exact ⟨hpos, delay, hdelay, hvalue⟩
  | jvmException r =>
    obtain ⟨m, -, rfl⟩ := ExceptionRequest.plan_eq_ok h
    rfl
  | jvmLatency r =>
    obtain ⟨m, n, -, hn, rfl⟩ := LatencyRequest.plan_eq_ok h
    obtain ⟨latency, hlatency, hpos, hvalue⟩ := positive_eq_ok hn
    have hseconds : (n / 1000).toNat = n.toNat / 1000 := by
      rw [UInt64.toNat_div]
      rfl
    refine ⟨latency, hlatency, by omega, ?_⟩
    show ((n / 1000).toNat : Int) = latency.toInt / 1000
    omega

end FaultPlane.Injection
