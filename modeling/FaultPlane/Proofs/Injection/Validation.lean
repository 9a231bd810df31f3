import FaultPlane.Proofs.Injection.Plans
import FaultPlane.Proofs.Text.Trimming

/-!
# What is demanded of a request

A request can be planned if it meets a list of demands, and the problem of one that cannot is that
of the first demand that it does not meet. The numbers of a plan are those of its request
(`plan_exact`).
-/

namespace FaultPlane.Injection

open Text (allBlank)

/-! ### Demands -/

def serviceDemand (service : String) : Demand RequestProblem :=
  ⟨allBlank service = false, .missing "serviceName"⟩

def numberProblem (field : String) : Option Int64 → RequestProblem
  | none => .missing field
  | some n => .notPositive field n

def numberDemand (field : String) (value : Option Int64) : Demand RequestProblem :=
  ⟨∃ n, value = some n ∧ 0 < n.toInt, numberProblem field value⟩

def durationProblem : Option Int64 → RequestProblem
  | none => .missing "durationMinutes"
  | some n =>
    if 0 < n.toInt then .durationTooLong n.toUInt64 else .notPositive "durationMinutes" n

def durationDemand (minutes : Option Int64) : Demand RequestProblem :=
  ⟨∃ n, minutes = some n ∧ 1 ≤ n.toInt ∧ n.toInt ≤ 153722867, durationProblem minutes⟩

namespace NetworkRequest

def typeDemand (r : NetworkRequest) : Demand RequestProblem :=
  ⟨r.faultType = none ∨ r.faultType = some "" ∨ r.faultType = some "network-delay",
    .unsupportedFaultType (r.faultType.getD "")⟩

def demands (r : NetworkRequest) : List (Demand RequestProblem) :=
  [serviceDemand r.service, r.typeDemand, numberDemand "delaySeconds" r.delaySeconds,
    durationDemand r.durationMinutes]

end NetworkRequest

namespace JvmTarget

def knownDemand (t : JvmTarget) (catalog : Catalog) : Demand RequestProblem :=
  ⟨∃ s ∈ catalog.services, s.name = Text.trim t.service, .unknownService (Text.trim t.service)⟩

/-- A method is named, or an interface that the first service of the name has in the catalog. -/
def HasMethod (t : JvmTarget) (catalog : Catalog) : Prop :=
  (∃ name, t.methodName = some name ∧ allBlank name = false) ∨
    ∃ name, t.interfaceName = some name ∧ allBlank name = false ∧
      ∃ s, catalog.services.find? (·.name == Text.trim t.service) = some s ∧
        ∃ i ∈ s.interfaces, i.name = Text.trim name

def methodProblem (t : JvmTarget) : RequestProblem :=
  match nonBlank? t.interfaceName with
  | some name => .unknownInterface name
  | none => .noMethodNorInterface

def demands (t : JvmTarget) (catalog : Catalog) : List (Demand RequestProblem) :=
  [serviceDemand t.service, t.knownDemand catalog, durationDemand t.durationMinutes,
    ⟨t.HasMethod catalog, t.methodProblem⟩]

end JvmTarget

def Request.demands (catalog : Catalog) : Request → List (Demand RequestProblem)
  | .networkDelay r => r.demands
  | .jvmException r => r.target.demands catalog
  | .jvmLatency r => r.target.demands catalog ++ [numberDemand "latencyMs" r.latencyMs]

/-! ### Checks of single fields -/

theorem decides_service (service : String) :
    Decides (requiredText "serviceName" service) [serviceDemand service] := by
  refine Decides.cons (fun met => ?_) fun unmet => ?_
  · have hname : Text.trim service ≠ "" :=
      fun blank => Bool.false_ne_true (met.symm.trans (Text.trim_eq_empty_iff.1 blank))
    unfold requiredText
    split
    · next blank => exact absurd blank hname
    · exact decides_ok _
  · have blank := Text.trim_eq_empty_iff.2 ((Bool.not_eq_false _).mp unmet)
    rw [requiredText, blank]
    rfl

theorem positive_of_pos (field : String) {n : Int64} (h : 0 < n.toInt) :
    positive field (some n) = .ok n.toUInt64 := by
  have hpos : 0 < n := Int64.lt_iff_toInt_lt.2 h
  exact if_pos hpos

theorem positive_of_nonpos (field : String) {n : Int64} (h : ¬ 0 < n.toInt) :
    positive field (some n) = .error (.notPositive field n) := by
  have hneg : ¬ 0 < n := fun hpos => h (Int64.lt_iff_toInt_lt.1 hpos)
  exact if_neg hneg

theorem decides_positive (field : String) (value : Option Int64) :
    Decides (positive field value) [numberDemand field value] := by
  refine Decides.cons ?_ fun unmet => ?_
  · rintro ⟨n, rfl, hpos⟩
    rw [positive_of_pos field hpos]
    exact decides_ok n.toUInt64
  · cases value with
    | none => rfl
    | some n => exact positive_of_nonpos field fun hpos => unmet ⟨n, rfl, hpos⟩

theorem decides_duration (minutes : Option Int64) :
    Decides (duration minutes) [durationDemand minutes] := by
  have hmax : ∀ {n : Int64}, 0 < n.toInt →
      (maxDurationMinutes < n.toUInt64 ↔ 153722867 < n.toInt) := by
    intro n hpos
    have hvalue := toNat_toUInt64_of_pos hpos
    have hlimit : maxDurationMinutes.toNat = 153722867 := rfl
    rw [UInt64.lt_iff_toNat_lt, hlimit]
    omega
  refine Decides.cons ?_ fun unmet => ?_
  · rintro ⟨n, rfl, hpos, hle⟩
    have hcheck : duration (some n) = .ok n.toUInt64 := by
      rw [duration, positive_of_pos _ hpos]
      exact if_neg fun hlt => absurd ((hmax hpos).1 hlt) (by omega)
    rw [hcheck]
    exact decides_ok n.toUInt64
  · cases minutes with
    | none => rfl
    | some n =>
      by_cases hpos : 0 < n.toInt
      · have hlt : 153722867 < n.toInt := by
          by_contra hle
          exact unmet ⟨n, rfl, hpos, by omega⟩
        rw [duration, positive_of_pos _ hpos]
        exact (if_pos ((hmax hpos).2 hlt)).trans (congrArg Except.error (if_pos hpos).symm)
      · rw [duration, positive_of_nonpos _ hpos]
        exact congrArg Except.error (if_neg hpos).symm

/-! ### Checks of a method -/

theorem nonBlank?_eq_some {value : Option String} {text : String} :
    nonBlank? value = some text ↔
      ∃ name, value = some name ∧ allBlank name = false ∧ Text.trim name = text := by
  have hblank : ∀ name, Text.trim name ≠ "" ↔ allBlank name = false := fun name =>
    (not_congr Text.trim_eq_empty_iff).trans Bool.eq_false_iff.symm
  simp only [nonBlank?, Option.filter_eq_some_iff, Option.map_eq_some_iff, decide_eq_true_eq]
  constructor
  · rintro ⟨⟨name, hname, rfl⟩, hne⟩
    exact ⟨name, hname, (hblank name).1 hne, rfl⟩
  · rintro ⟨name, hname, hne, rfl⟩
    exact ⟨⟨name, hname, rfl⟩, (hblank name).2 hne⟩

theorem methodFor?_eq_none_iff {catalog : Catalog} {service name : String} :
    catalog.methodFor? service name = none ↔
      ¬ ∃ s, catalog.services.find? (·.name == service) = some s ∧
        ∃ i ∈ s.interfaces, i.name = name := by
  rw [Catalog.methodFor?, Option.map_eq_none_iff, Catalog.interfaces]
  cases catalog.services.find? (·.name == service) with
  | none => simp
  | some s => simp

theorem JvmTarget.hasMethod_iff (t : JvmTarget) (catalog : Catalog) :
    t.HasMethod catalog ↔ (∃ name, nonBlank? t.methodName = some name) ∨
      ∃ name, nonBlank? t.interfaceName = some name ∧
        catalog.methodFor? (Text.trim t.service) name ≠ none := by
  unfold JvmTarget.HasMethod
  simp only [nonBlank?_eq_some, ne_eq, methodFor?_eq_none_iff, not_not]
  constructor
  · rintro (⟨name, hname, hne⟩ | ⟨name, hname, hne, found⟩)
    · exact Or.inl ⟨_, name, hname, hne, rfl⟩
    · exact Or.inr ⟨_, ⟨name, hname, hne, rfl⟩, found⟩
  · rintro (⟨_, name, hname, hne, rfl⟩ | ⟨_, ⟨name, hname, hne, rfl⟩, found⟩)
    · exact Or.inl ⟨name, hname, hne⟩
    · exact Or.inr ⟨name, hname, hne, found⟩

theorem JvmTarget.decides_method (t : JvmTarget) (catalog : Catalog) :
    Decides (t.method catalog (Text.trim t.service)) [⟨t.HasMethod catalog, t.methodProblem⟩] := by
  have hmethod := t.hasMethod_iff catalog
  unfold JvmTarget.method
  split
  · next name named =>
    have met : t.HasMethod catalog := hmethod.2 (Or.inl ⟨name, named⟩)
    exact Decides.cons (fun _ => decides_ok name) fun unmet => absurd met unmet
  · next interface unnamed given =>
    split
    · next name found =>
      have hne : catalog.methodFor? (Text.trim t.service) interface ≠ none := by
        rw [found]
        exact Option.some_ne_none name
      have met : t.HasMethod catalog := hmethod.2 (Or.inr ⟨interface, given, hne⟩)
      exact Decides.cons (fun _ => decides_ok name) fun unmet => absurd met unmet
    · next missing =>
      have unmet : ¬ t.HasMethod catalog := by
        rw [hmethod, unnamed, given]
        rintro (⟨_, named⟩ | ⟨_, named, found⟩)
        · cases named
        · cases named
          exact found missing
      refine Decides.cons (fun met => absurd met unmet) fun _ => ?_
      rw [JvmTarget.methodProblem, given]
      rfl
  · next unnamed ungiven =>
    have unmet : ¬ t.HasMethod catalog := by
      rw [hmethod, unnamed, ungiven]
      rintro (⟨_, named⟩ | ⟨_, named, -⟩) <;> cases named
    refine Decides.cons (fun met => absurd met unmet) fun _ => ?_
    rw [JvmTarget.methodProblem, ungiven]
    rfl

/-! ### Plans -/

theorem JvmTarget.decides_resolve (t : JvmTarget) (catalog : Catalog) :
    Decides (t.resolve catalog) (t.demands catalog) := by
  refine (decides_service t.service).bind fun service hservice => ?_
  obtain ⟨rfl, -⟩ := requiredText_eq_ok hservice
  have hknown : catalog.contains (Text.trim t.service) = true ↔ (t.knownDemand catalog).met := by
    simp [Catalog.contains, JvmTarget.knownDemand]
  refine Decides.provided hknown rfl ?_
  refine (decides_duration t.durationMinutes).bind fun minutes _ => ?_
  refine (t.decides_method catalog).bind fun method _ => ?_
  exact decides_ok _

theorem NetworkRequest.decides_numbers (r : NetworkRequest) (f : UInt64 → UInt64 → Plan) :
    Decides (do
      let delaySeconds ← positive "delaySeconds" r.delaySeconds
      let durationMinutes ← duration r.durationMinutes
      pure (f delaySeconds durationMinutes))
      [numberDemand "delaySeconds" r.delaySeconds, durationDemand r.durationMinutes] := by
  refine (decides_positive "delaySeconds" r.delaySeconds).bind fun delaySeconds _ => ?_
  refine (decides_duration r.durationMinutes).bind fun durationMinutes _ => ?_
  exact decides_ok (f delaySeconds durationMinutes)

theorem NetworkRequest.decides_plan (r : NetworkRequest) : Decides r.plan r.demands := by
  refine (decides_service r.service).bind fun service _ => ?_
  dsimp only
  cases hfault : r.faultType.filter (· ≠ "") with
  | none =>
    have met : r.typeDemand.met := by
      have hblank := Option.filter_eq_none_iff.1 hfault
      cases htype : r.faultType with
      | none => exact Or.inl htype
      | some name =>
        have hname := hblank name htype
        rw [decide_eq_true_eq, not_not] at hname
        exact Or.inr (Or.inl (htype.trans (congrArg some hname)))
    exact Decides.cons (fun _ => r.decides_numbers _) fun unmet => absurd met unmet
  | some name =>
    obtain ⟨htype, hname⟩ := Option.filter_eq_some_iff.1 hfault
    have hmet : r.typeDemand.met ↔ name = FaultKind.networkDelay.name := by
      rw [NetworkRequest.typeDemand, htype]
      constructor
      · rintro (absent | empty | same)
        · cases absent
        · exact absurd (Option.some.inj empty) (of_decide_eq_true hname)
        · exact Option.some.inj same
      · exact fun same => Or.inr (Or.inr (congrArg some same))
    refine Decides.provided hmet.symm ?_ (r.decides_numbers _)
    rw [NetworkRequest.typeDemand, htype]
    rfl

theorem ExceptionRequest.decides_plan (r : ExceptionRequest) (catalog : Catalog) :
    Decides (r.plan catalog) (r.target.demands catalog) := by
  rw [← List.append_nil (r.target.demands catalog)]
  exact (r.target.decides_resolve catalog).bind fun m _ => decides_ok _

theorem LatencyRequest.decides_plan (r : LatencyRequest) (catalog : Catalog) :
    Decides (r.plan catalog)
      (r.target.demands catalog ++ [numberDemand "latencyMs" r.latencyMs]) := by
  refine (r.target.decides_resolve catalog).bind fun m _ => ?_
  refine (decides_positive "latencyMs" r.latencyMs).bind fun latency _ => ?_
  exact decides_ok _

/-- The numbers of a plan are those of its request. -/
structure Plan.Carries (plan : Plan) (request : Request) : Prop where
  duration : ∃ minutes, request.durationMinutes = some minutes ∧
    (plan.durationMinutes.toNat : Int) = minutes.toInt
  delay : plan.Delays request
  latency : ∀ r, request = .jvmLatency r → ∃ service className methodName latencyMs n,
    plan.rule = .jvm service className methodName (.delays latencyMs) ∧
      r.latencyMs = some n ∧ (latencyMs.toNat : Int) = n.toInt

theorem Request.carries_of_plan {request : Request} {catalog : Catalog} {plan : Plan}
    (h : request.plan catalog = .ok plan) : plan.Carries request := by
  refine ⟨(duration_eq_ok (Request.plan_eq_ok h)).2, Request.delay_of_plan h, ?_⟩
  rintro r rfl
  obtain ⟨m, latencyMs, -, hlatency, rfl⟩ := LatencyRequest.plan_eq_ok h
  obtain ⟨n, hn, -, hvalue⟩ := positive_eq_ok hlatency
  exact ⟨m.service, m.className, m.methodName, latencyMs, n, rfl, hn, hvalue⟩

theorem Request.decides_plan (request : Request) (catalog : Catalog) :
    Decides (request.plan catalog) (request.demands catalog) := by
  cases request with
  | networkDelay r => exact r.decides_plan
  | jvmException r => exact r.decides_plan catalog
  | jvmLatency r => exact r.decides_plan catalog

/-- Just the requests that meet every demand can be planned, the others fail at the first demand
that they do not meet, and a plan has the numbers of its request. -/
theorem plan_exact (catalog : Catalog) (request : Request) :
    ((∃ plan, request.plan catalog = .ok plan) ↔ ∀ d ∈ request.demands catalog, d.met) ∧
      (∀ problem, request.plan catalog = .error problem ↔
        FirstUnmet problem (request.demands catalog)) ∧
      ∀ plan, request.plan catalog = .ok plan → plan.Carries request := by
  have hdecides := request.decides_plan catalog
  refine ⟨hdecides.ok_iff, hdecides, ?_⟩
  intro plan planned
  exact Request.carries_of_plan planned

/-! A method of the service checkout is made slow, which the empty catalog does not know. -/

def slowCheckout : LatencyRequest :=
  { target := { service := " checkout", methodName := some "pay", durationMinutes := some 5 }
    latencyMs := some 2500 }

theorem plan_exact_checkout :
    let catalog : Catalog := { services := [⟨"checkout", []⟩] }
    FirstUnmet (.unknownService "checkout") (Request.demands {} (.jvmLatency slowCheckout)) ∧
      (∀ d ∈ Request.demands catalog (.jvmLatency slowCheckout), d.met) ∧
      ∃ plan, slowCheckout.plan catalog = .ok plan ∧ plan.delaySeconds.toNat = 2 := by
  intro catalog
  have unplanned : slowCheckout.plan {} = .error (.unknownService "checkout") := by rfl
  have hplan : ∃ plan, slowCheckout.plan catalog = .ok plan := ⟨_, rfl⟩
  obtain ⟨hmet, -, hcarries⟩ := plan_exact catalog (.jvmLatency slowCheckout)
  refine ⟨((plan_exact {} _).2.1 _).1 unplanned, hmet.1 hplan, ?_⟩
  obtain ⟨plan, planned⟩ := hplan
  obtain ⟨latency, hlatency, -, hdelay⟩ := (hcarries plan planned).delay
  obtain rfl : 2500 = latency := Option.some.inj hlatency
  exact ⟨plan, planned, Int.ofNat.inj hdelay⟩

end FaultPlane.Injection
