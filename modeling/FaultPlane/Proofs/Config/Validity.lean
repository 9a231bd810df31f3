import FaultPlane.Config.Environment
import FaultPlane.Proofs.Documents

/-!
# Accepted configurations

A configuration is accepted exactly if it is valid. If it is not, the problem is that of the first
demand that is not met: the intervals and timeouts come before the namespace, and this before the
services, one after the other. Every way to a configuration ends with this check, so the later code
can rely on it (`accepted_iff_valid`).
-/

namespace FaultPlane.Config

/-- What is asked of a configuration. -/
structure Valid (c : Config) : Prop where
  scanInterval : 0 < c.discovery.scanIntervalMs
  discoveryTimeout : 0 < c.discovery.timeoutMs
  sweepInterval : 0 < c.chaos.sweepIntervalMs
  commandTimeout : 0 < c.chaos.commandTimeoutMs
  namespaceName : Text.allBlank c.chaos.namespaceName = false
  named : ∀ s ∈ c.services, Text.allBlank s.id = false
  distinct : (c.services.map (·.id)).Nodup

/-! ### Services -/

/-- The demands on some services; `earlier` are the ids before them. -/
def serviceDemands (earlier : List String) : List ServiceEntry → List (Demand ConfigProblem)
  | [] => []
  | s :: rest =>
    ⟨Text.allBlank s.id = false, .blankServiceId⟩ ::
      ⟨s.id ∉ earlier, .repeatedServiceId s.id⟩ :: serviceDemands (s.id :: earlier) rest

theorem serviceDemands_met {earlier : List String} {services : List ServiceEntry} :
    (∀ d ∈ serviceDemands earlier services, d.met) ↔
      (∀ s ∈ services, Text.allBlank s.id = false) ∧
        (services.map (·.id)).Nodup ∧ (services.map (·.id)).Disjoint earlier := by
  induction services generalizing earlier with
  | nil => simp [serviceDemands]
  | cons s rest ih =>
    rw [serviceDemands, List.forall_mem_cons, List.forall_mem_cons, ih, List.forall_mem_cons,
      List.map_cons, fresh_cons_iff]
    tauto

theorem decides_checkServices (earlier : List String) (services : List ServiceEntry) :
    Decides (checkServices earlier services) (serviceDemands earlier services) := by
  induction services generalizing earlier with
  | nil => exact decides_ok ()
  | cons s rest ih =>
    rw [checkServices, serviceDemands]
    refine Decides.unless (by simp) rfl ?_
    refine Decides.unless ?_ rfl (ih (s.id :: earlier))
    rw [not_not, List.contains_iff_mem]

/-! ### Whole configurations -/

/-- The demands on a configuration, in the order in which they are looked at. -/
def demands (c : Config) : List (Demand ConfigProblem) :=
  ⟨0 < c.discovery.scanIntervalMs, .notPositive .scanInterval⟩ ::
    ⟨0 < c.discovery.timeoutMs, .notPositive .discoveryTimeout⟩ ::
    ⟨0 < c.chaos.sweepIntervalMs, .notPositive .sweepInterval⟩ ::
    ⟨0 < c.chaos.commandTimeoutMs, .notPositive .commandTimeout⟩ ::
    ⟨Text.allBlank c.chaos.namespaceName = false, .blankNamespace⟩ ::
    serviceDemands [] c.services

theorem demands_met {c : Config} : (∀ d ∈ c.demands, d.met) ↔ c.Valid := by
  simp only [demands, List.forall_mem_cons, serviceDemands_met, List.disjoint_nil_right, and_true]
  constructor
  · rintro ⟨scan, timeout, sweep, command, namespaceName, named, distinct⟩
    exact ⟨scan, timeout, sweep, command, namespaceName, named, distinct⟩
  · intro h
    exact ⟨h.scanInterval, h.discoveryTimeout, h.sweepInterval, h.commandTimeout, h.namespaceName,
      h.named, h.distinct⟩

theorem eq_zero_iff_not_pos {n : UInt64} : n = 0 ↔ ¬ 0 < n := by
  rw [UInt64.not_lt, UInt64.le_zero_iff]

theorem decides_check (c : Config) : Decides c.check c.demands := by
  refine Decides.unless eq_zero_iff_not_pos rfl ?_
  refine Decides.unless eq_zero_iff_not_pos rfl ?_
  refine Decides.unless eq_zero_iff_not_pos rfl ?_
  refine Decides.unless eq_zero_iff_not_pos rfl ?_
  refine Decides.unless (by simp) rfl ?_
  exact decides_checkServices [] c.services

theorem check_eq_ok_iff {c : Config} : c.check = .ok () ↔ c.Valid := by
  rw [← demands_met, ← (decides_check c).ok_iff]
  exact ⟨fun h => ⟨(), h⟩, fun ⟨_, h⟩ => h⟩

theorem applyEnvironment_eq_ok_iff {lookup : String → Option String} {c c' : Config} :
    applyEnvironment lookup c = (c', .ok ()) ↔
      applyOverrides lookup overrides c = (c', .ok ()) ∧ c'.check = .ok () := by
  unfold applyEnvironment
  split
  · next c₁ happly =>
    rw [happly, Prod.mk.injEq, Prod.mk.injEq]
    constructor
    · rintro ⟨rfl, hcheck⟩
      exact ⟨⟨rfl, rfl⟩, hcheck⟩
    · rintro ⟨⟨rfl, -⟩, hcheck⟩
      exact ⟨rfl, hcheck⟩
  · next c₁ problem happly =>
    rw [happly]
    simp

/-! ### Look-up of services -/

theorem filter_eq_find? {services : List ServiceEntry} (distinct : (services.map (·.id)).Nodup)
    (id : String) :
    services.filter (·.id == id) = (services.find? (·.id == id)).toList := by
  induction services with
  | nil => rfl
  | cons s rest ih =>
    obtain ⟨fresh, distinct⟩ := List.nodup_cons.1 distinct
    by_cases here : s.id = id
    · have hrest : rest.filter (·.id == id) = [] := by
        rw [List.filter_eq_nil_iff]
        intro t member same
        rw [beq_iff_eq, ← here] at same
        exact fresh (List.mem_map.2 ⟨t, member, same⟩)
      rw [List.filter_cons_of_pos (by simpa using here), hrest,
        List.find?_cons_of_pos (by simpa using here)]
      rfl
    · rw [List.filter_cons_of_neg (by simpa using here), List.find?_cons_of_neg (by simpa using here),
        ih distinct]

theorem service?_eq_some_iff {c : Config} (distinct : (c.services.map (·.id)).Nodup) {id : String}
    {s : ServiceEntry} : c.service? id = some s ↔ s ∈ c.services ∧ s.id = id := by
  rw [← Option.mem_toList, service?, ← filter_eq_find? distinct, List.mem_filter, beq_iff_eq]

/-! ### Accepted configurations -/

/-- A configuration is accepted exactly if it is valid, and rejected for the first demand that it
does not meet. So a document gives the configuration in it, and an environment leaves the one that
its variables make, just if this is valid. In a valid configuration the look-up of an id finds the
one service that has it. -/
theorem accepted_iff_valid (c : Config) :
    (c.check = .ok () ↔ c.Valid) ∧
      (∀ problem, c.check = .error problem ↔ FirstUnmet problem c.demands) ∧
      (∀ text, ofDocument text = .ok c ↔ codec.decode text = .ok c ∧ c.Valid) ∧
      (∀ lookup before, applyEnvironment lookup before = (c, .ok ()) ↔
        applyOverrides lookup overrides before = (c, .ok ()) ∧ c.Valid) ∧
      (c.Valid → ∀ id, c.services.filter (·.id == id) = (c.service? id).toList ∧
        ∀ s, c.service? id = some s ↔ s ∈ c.services ∧ s.id = id) := by
  refine ⟨check_eq_ok_iff, decides_check c, ?_, ?_, ?_⟩
  · intro text
    rw [ofDocument_eq_ok, check_eq_ok_iff]
  · intro lookup before
    rw [applyEnvironment_eq_ok_iff, check_eq_ok_iff]
  · intro valid id
    exact ⟨filter_eq_find? valid.distinct id, fun s => service?_eq_some_iff valid.distinct⟩

/-- The standard configuration is valid. With no time between its scans and a service that it has
already, it is rejected for the scans. -/
theorem accepted_iff_valid_standard :
    let standard : Config := {}
    let twice : Config :=
      { standard with services := standardServices ++ [⟨"ts-seat-service", "Seats", none⟩] }
    standard.Valid ∧ ofDocument "\x7b\x7d" = .ok standard ∧
      standard.services.filter (·.id == "ts-seat-service") =
        [⟨"ts-seat-service", "Seat Service", none⟩] ∧
      FirstUnmet (.repeatedServiceId "ts-seat-service") twice.demands ∧
      FirstUnmet (.notPositive .scanInterval)
        { twice with discovery.scanIntervalMs := 0 }.demands := by
  intro standard twice
  have valid : standard.Valid := (accepted_iff_valid standard).1.1 (by decide)
  have hdecode : codec.decode "\x7b\x7d" = .ok standard := by rfl
  refine ⟨valid, ((accepted_iff_valid standard).2.2.1 _).2 ⟨hdecode, valid⟩, ?_, ?_, ?_⟩
  · exact ((accepted_iff_valid standard).2.2.2.2 valid "ts-seat-service").1
  · exact ((accepted_iff_valid twice).2.1 _).1 (by decide)
  · exact ((accepted_iff_valid _).2.1 _).1 (by decide)

end FaultPlane.Config
