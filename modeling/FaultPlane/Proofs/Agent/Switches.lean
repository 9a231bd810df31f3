import FaultPlane.Agent.SwitchSet
import FaultPlane.Proofs.Checks

/-!
# Sound switch sets

A switch set is sound if it has one state for each of its descriptors, which carries the id that it
stands under, and if no delay is out of bounds. A seeded set is sound (`sound_ofLookup`), and it
stays sound under commands (`Sound.after`). All views of a sound set show the same (`views_agree`).
-/

namespace FaultPlane.Agent

open Contract (Descriptor ServiceInfo Toggle Command Reply)
open FaultPlane.Time (Instant)

/-! ### Delays within bounds -/

theorem clampDelay_eq (delay : Int64) : clampDelay delay = max 0 (min delay 300000) := by
  have hmax : maxDelay = 300000 := rfl
  have hbound : (300000 : Int64).toInt = 300000 := by decide
  have hzero : (0 : Int64).toInt = 0 := by decide
  show clampDelay delay =
    if 0 ≤ (if delay ≤ 300000 then delay else 300000) then
      (if delay ≤ 300000 then delay else 300000) else 0
  unfold clampDelay
  rw [hmax]
  apply Int64.toInt_inj.1
  simp only [Int64.lt_iff_toInt_lt, Int64.le_iff_toInt_le]
  split_ifs <;> omega

theorem clampDelay_bounds (delay : Int64) : 0 ≤ clampDelay delay ∧ clampDelay delay ≤ maxDelay := by
  have hmax : maxDelay.toInt = 300000 := by decide
  have hzero : (0 : Int64).toInt = 0 := by decide
  unfold clampDelay
  simp only [Int64.lt_iff_toInt_lt, Int64.le_iff_toInt_le]
  split
  · omega
  · split <;> omega

theorem clampDelay_clampDelay (delay : Int64) :
    clampDelay (clampDelay delay) = clampDelay delay := by
  obtain ⟨hlow, hhigh⟩ := clampDelay_bounds delay
  generalize clampDelay delay = clamped at hlow hhigh
  rw [clampDelay, if_neg (Int64.not_lt.2 hlow), if_neg (Int64.not_lt.2 hhigh)]

/-- Every delay that a switch has is within bounds. -/
def Bounded (t : Toggle) : Prop := ∀ delay, t.delayMs = some delay → 0 ≤ delay ∧ delay ≤ maxDelay

theorem bounded_of_map {t : Toggle} (delay : Option Int64) (h : t.delayMs = delay.map clampDelay) :
    Bounded t := by
  intro clamped hclamped
  rw [h] at hclamped
  obtain ⟨d, -, rfl⟩ := Option.map_eq_some_iff.1 hclamped
  exact clampDelay_bounds d

/-! ### Seeding -/

/-- The variable for the delay of a switch. -/
def delayVariable (faultId : String) : String := variableName faultId ++ "_DELAY_MS"

/-- The variable for the delay of the delaying switches that have none of their own. -/
def commonVariable : String := "FAULT_DELAY_TIME_MS"

section

variable {lookup : String → Option String}

theorem nodup_of_firstRepeat {seen names : List String} (h : firstRepeat? seen names = none) :
    names.Nodup ∧ ∀ name ∈ names, name ∉ seen := by
  induction names generalizing seen with
  | nil => exact ⟨List.nodup_nil, fun name inside => by cases inside⟩
  | cons first rest ih =>
    rw [firstRepeat?] at h
    split at h
    · cases h
    · next fresh =>
      obtain ⟨hnodup, hrest⟩ := ih h
      have hfirst : first ∉ rest := fun inside => hrest first inside List.mem_cons_self
      refine ⟨List.nodup_cons.2 ⟨hfirst, hnodup⟩, fun name inside => ?_⟩
      rcases List.mem_cons.1 inside with rfl | later
      · simpa using fresh
      · exact fun old => hrest name later (List.mem_cons_of_mem _ old)

theorem readDelay_eq_ok {key : String} {delay : Option Int64}
    (h : readDelay lookup key = .ok delay) : ∃ read, delay = Option.map clampDelay read := by
  unfold readDelay at h
  split at h
  · cases h
    exact ⟨none, rfl⟩
  · cases h
    exact ⟨none, rfl⟩
  · split at h
    · next read _ =>
      cases h
      exact ⟨some read, rfl⟩
    · cases h

theorem seed_eq_ok {common : Option Int64} {d : Descriptor} {t : Toggle}
    (h : seed lookup common d = .ok t) : t.id = d.id ∧ Bounded t := by
  obtain ⟨own, hown, hrest⟩ := bind_eq_ok.1 h
  obtain ⟨read, rfl⟩ := readDelay_eq_ok hown
  cases hrest
  refine ⟨rfl, ?_⟩
  cases read with
  | some delay => exact bounded_of_map (some delay) rfl
  | none =>
    by_cases delays : d.isDelay
    · exact bounded_of_map (common <|> d.defaultDelay) (if_pos delays)
    · exact bounded_of_map none (if_neg delays)

/-- The switches of some descriptors, each seeded from its own. -/
def Seeded (lookup : String → Option String) (common : Option Int64) (faults : List Descriptor)
    (toggles : List Toggle) : Prop :=
  List.Forall₂ (fun d t => seed lookup common d = .ok t) faults toggles

theorem Seeded.ids {common : Option Int64} {faults : List Descriptor} {toggles : List Toggle}
    (h : Seeded lookup common faults toggles) : toggles.map (·.id) = faults.map (·.id) := by
  induction h with
  | nil => rfl
  | cons first _ ih => rw [List.map_cons, List.map_cons, (seed_eq_ok first).1, ih]

theorem Seeded.exists_of_mem {common : Option Int64} {faults : List Descriptor}
    {toggles : List Toggle} (h : Seeded lookup common faults toggles) {d : Descriptor}
    (inside : d ∈ faults) : ∃ t ∈ toggles, seed lookup common d = .ok t := by
  induction h with
  | nil => cases inside
  | cons first _ ih =>
    rcases List.mem_cons.1 inside with rfl | later
    · exact ⟨_, List.mem_cons_self, first⟩
    · obtain ⟨t, member, hseed⟩ := ih later
      exact ⟨t, List.mem_cons_of_mem _ member, hseed⟩

end

namespace SwitchSet

/-! ### Sound sets -/

/-- A state for each descriptor and nothing else. -/
structure Sound (s : SwitchSet) : Prop where
  keys : s.states.keys = s.info.faults.map (·.id)
  carried : ∀ id t, s.states.get? id = some t → t.id = id
  bounded : ∀ id t, s.states.get? id = some t → Bounded t

/-- What a seeded set holds: for each descriptor the switch that was seeded from it. -/
structure SeededBy (lookup : String → Option String) (info : ServiceInfo) (s : SwitchSet) :
    Prop where
  described : s.info = info
  keys : s.states.keys = info.faults.map (·.id)
  seeds : ∃ common, readDelay lookup commonVariable = .ok common ∧
    ∀ d ∈ info.faults, ∃ t, seed lookup common d = .ok t ∧ s.states.get? d.id = some t

theorem ofLookup_eq_ok {lookup : String → Option String} {info : ServiceInfo} {s : SwitchSet}
    (h : ofLookup lookup info = .ok s) : SeededBy lookup info s := by
  unfold ofLookup at h
  split at h
  · cases h
  · next hrepeat =>
    obtain ⟨common, hcommon, hrest⟩ := bind_eq_ok.1 h
    obtain ⟨toggles, htoggles, hpure⟩ := bind_eq_ok.1 hrest
    cases hpure
    have seeded : Seeded lookup common info.faults toggles := forall₂_of_mapM htoggles
    have hkeys : (toggles.map fun t => (t.id, t)).map Prod.fst = info.faults.map (·.id) := by
      rw [List.map_map]
      exact seeded.ids
    have hentries : (Table.ofList (toggles.map fun t => (t.id, t))).entries =
        toggles.map fun t => (t.id, t) :=
      Table.entries_ofList (by rw [hkeys]; exact (nodup_of_firstRepeat hrepeat).1)
    refine ⟨rfl, ?_, common, hcommon, fun d inside => ?_⟩
    · show (Table.ofList _).entries.map Prod.fst = _
      rw [hentries, hkeys]
    · obtain ⟨t, member, hseed⟩ := seeded.exists_of_mem inside
      refine ⟨t, hseed, ?_⟩
      rw [← (seed_eq_ok hseed).1, ← Table.mem_entries_iff, hentries]
      exact List.mem_map_of_mem member

theorem sound_ofLookup {lookup : String → Option String} {info : ServiceInfo} {s : SwitchSet}
    (h : ofLookup lookup info = .ok s) : s.Sound ∧ s.info = info := by
  obtain ⟨rfl, hkeys, common, -, hseeds⟩ := ofLookup_eq_ok h
  have hstored : ∀ id t, s.states.get? id = some t → t.id = id ∧ Bounded t := by
    intro id t found
    have inside : id ∈ s.states.keys := s.states.mem_keys_iff.2 ⟨t, found⟩
    rw [hkeys] at inside
    obtain ⟨d, member, rfl⟩ := List.mem_map.1 inside
    obtain ⟨t', hseed, hget⟩ := hseeds d member
    cases found.symm.trans hget
    exact seed_eq_ok hseed
  refine ⟨⟨hkeys, fun id t found => (hstored id t found).1, fun id t found => ?_⟩, rfl⟩
  exact (hstored id t found).2

section

variable {s : SwitchSet}

theorem Sound.nodup (h : s.Sound) : (s.info.faults.map (·.id)).Nodup := h.keys ▸ s.states.nodup

theorem Sound.known_iff (h : s.Sound) {id : String} :
    id ∈ s.info.faults.map (·.id) ↔ ∃ t, s.states.get? id = some t := by
  rw [← h.keys]
  exact s.states.mem_keys_iff

/-! ### Commands -/

/-- The switch set after some commands, one after the other. -/
def after (s : SwitchSet) (commands : List Command) : SwitchSet :=
  commands.foldl (fun s c => (s.control c).2) s

theorem control_of_unknown {c : Command} (h : s.states.get? c.faultId = none) :
    s.control c = (.failure c.faultId ("Unknown fault: " ++ c.faultId), s) := by
  simp only [control, h]

theorem control_of_known {c : Command} {t : Toggle} (h : s.states.get? c.faultId = some t) :
    s.control c = (⟨true, describe (obey t c) c, t.id, c.enable⟩,
      { s with states := s.states.insert c.faultId (obey t c) }) := by
  simp only [control, h]
  rfl

theorem info_control (s : SwitchSet) (c : Command) : (s.control c).2.info = s.info := by
  cases h : s.states.get? c.faultId with
  | none => rw [control_of_unknown h]
  | some t => rw [control_of_known h]

theorem info_after (s : SwitchSet) (commands : List Command) :
    (s.after commands).info = s.info := by
  induction commands generalizing s with
  | nil => rfl
  | cons c commands ih => exact (ih _).trans (s.info_control c)

theorem bounded_obey {t : Toggle} (h : Bounded t) (c : Command) : Bounded (obey t c) := by
  cases hdelay : c.delayMs with
  | some delay => exact bounded_of_map (some delay) (by simp [obey, hdelay])
  | none =>
    intro delay kept
    have hkept : t.delayMs = some delay := by simpa [obey, hdelay] using kept
    exact h delay hkept

theorem Sound.control (h : s.Sound) (c : Command) : (s.control c).2.Sound := by
  cases hget : s.states.get? c.faultId with
  | none =>
    rw [control_of_unknown hget]
    exact h
  | some t =>
    rw [control_of_known hget]
    have inside : c.faultId ∈ s.states.keys := s.states.mem_keys_iff.2 ⟨t, hget⟩
    -- Only the state of the switch itself is new, and it stands where the former one stood.
    have hstored : ∀ id t', (s.states.insert c.faultId (obey t c)).get? id = some t' →
        t'.id = id ∧ Bounded t' := by
      intro id t' found
      rw [Table.get?_insert] at found
      split at found
      · next same =>
        cases found
        exact ⟨(h.carried _ t hget).trans same.symm, bounded_obey (h.bounded _ t hget) c⟩
      · exact ⟨h.carried id t' found, h.bounded id t' found⟩
    refine ⟨(s.states.keys_insert_of_mem _ inside).trans h.keys, ?_, ?_⟩
    · exact fun id t' found => (hstored id t' found).1
    · exact fun id t' found => (hstored id t' found).2

theorem Sound.after (h : s.Sound) (commands : List Command) : (s.after commands).Sound := by
  induction commands generalizing s with
  | nil => exact h
  | cons c commands ih => exact ih (h.control c)

/-! ### Views -/

theorem Sound.map_get? (h : s.Sound) :
    (s.info.faults.map fun d => s.states.get? d.id) = s.states.values.map some := by
  rw [← s.states.map_get?_keys, h.keys, List.map_map]
  rfl

theorem Sound.faults_status (h : s.Sound) (now : Instant) :
    (s.status now).faults = s.states.values := by
  have hlisted : (s.status now).faults =
      (s.info.faults.map fun d => s.states.get? d.id).filterMap id := by
    rw [List.filterMap_map]
    rfl
  rw [hlisted, h.map_get?]
  simp

theorem Sound.fault?_status (h : s.Sound) (now : Instant) (id : String) :
    (s.status now).fault? id = s.states.get? id := by
  show (s.status now).faults.find? (·.id == id) = s.states.get? id
  rw [h.faults_status]
  exact s.states.find?_values h.carried id

/-- What the states of a service's switches are, and what the views show of them. -/
structure Consistent (info : ServiceInfo) (s : SwitchSet) (now : Instant) : Prop where
  distinct : (info.faults.map (·.id)).Nodup
  states : s.states.keys.Perm (info.faults.map (·.id))
  carried : ∀ id t, s.states.get? id = some t → t.id = id
  bounded : ∀ id t, s.states.get? id = some t →
    ∀ delay, t.delayMs = some delay → 0 ≤ delay ∧ delay ≤ 300000
  listed : (s.status now).faults.map some = info.faults.map fun d => s.states.get? d.id
  details : (s.status now).details =
    Decimal.ofNat ((s.status now).faults.countP (·.enabled)) ++ " of " ++
      Decimal.ofNat info.faults.length ++ " faults enabled"
  enabled : ∀ id, s.isEnabled id = true ↔
    ∃ t, (s.status now).fault? id = some t ∧ t.enabled = true
  delay : ∀ id (ms : Nat), s.delayFor id = some ms ↔
    ∃ t delay, (s.status now).fault? id = some t ∧ t.enabled = true ∧
      t.delayMs = some delay ∧ delay.toInt = ms
  errorCode : ∀ id code, s.errorCodeFor id = some code ↔
    ∃ t, (s.status now).fault? id = some t ∧ t.enabled = true ∧ t.errorCode = some code

theorem enabled?_eq_some {id : String} {t : Toggle} :
    s.enabled? id = some t ↔ s.states.get? id = some t ∧ t.enabled = true :=
  Option.filter_eq_some_iff

theorem Sound.delayFor_iff (h : s.Sound) (id : String) (ms : Nat) :
    s.delayFor id = some ms ↔ ∃ t delay, s.states.get? id = some t ∧ t.enabled = true ∧
      t.delayMs = some delay ∧ delay.toInt = ms := by
  have hnat : ∀ t delay, s.states.get? id = some t → t.delayMs = some delay →
      (delay.toInt.toNat = ms ↔ delay.toInt = ms) := by
    intro t delay found hdelay
    have hpos := Int64.le_iff_toInt_le.1 (h.bounded id t found delay hdelay).1
    have hzero : (0 : Int64).toInt = 0 := by decide
    omega
  rw [delayFor, Option.map_eq_some_iff]
  constructor
  · rintro ⟨delay, hbind, hms⟩
    obtain ⟨t, henabled, hdelay⟩ := Option.bind_eq_some_iff.1 hbind
    obtain ⟨found, on⟩ := enabled?_eq_some.1 henabled
    exact ⟨t, delay, found, on, hdelay, (hnat t delay found hdelay).1 hms⟩
  · rintro ⟨t, delay, found, on, hdelay, hms⟩
    refine ⟨delay, ?_, (hnat t delay found hdelay).2 hms⟩
    exact Option.bind_eq_some_iff.2 ⟨t, enabled?_eq_some.2 ⟨found, on⟩, hdelay⟩

/-- A seeded switch set is consistent after any commands. -/
theorem views_agree {lookup : String → Option String} {info : ServiceInfo}
    (h : ofLookup lookup info = .ok s) (commands : List Command) (now : Instant) :
    Consistent info (s.after commands) now := by
  obtain ⟨hseeded, rfl⟩ := sound_ofLookup h
  have hsound := hseeded.after commands
  have hinfo := s.info_after commands
  have hlisted : (((s.after commands).status now).faults.map some) =
      (s.after commands).info.faults.map fun d => (s.after commands).states.get? d.id := by
    rw [hsound.faults_status, hsound.map_get?]
  have hfault := hsound.fault?_status now
  have hkeys := hsound.keys
  have hnodup := hsound.nodup
  rw [hinfo] at hlisted hkeys hnodup
  refine ⟨hnodup, .of_eq hkeys, hsound.carried, hsound.bounded, hlisted, ?_, ?_, ?_, ?_⟩
  · have hlength := congrArg List.length hlisted
    rw [List.length_map, List.length_map] at hlength
    rw [← hlength, List.countP_eq_length_filter]
    rfl
  · intro id
    rw [hfault, isEnabled, Option.isSome_iff_exists]
    exact exists_congr fun t => enabled?_eq_some
  · intro id ms
    rw [hfault]
    exact hsound.delayFor_iff id ms
  · intro id code
    rw [hfault, errorCodeFor, Option.bind_eq_some_iff]
    simp only [enabled?_eq_some, and_assoc]

end

/-! ### The switches of the service ts-order -/

/-- A service with a switch that delays and one that answers with a code. -/
def orders : ServiceInfo where
  serviceId := "ts-order"
  faults :=
    [{ id := "slow-sql", kind := "delay" }, { id := "api-error", defaultErrorCode := some 503 }]

/-- Variables that enable the first switch, with a delay that is out of bounds. -/
def orderVariables : String → Option String
  | "FAULT_SLOW_SQL" => some "True"
  | "FAULT_SLOW_SQL_DELAY_MS" => some "900000"
  | _ => none

def seededOrders : SwitchSet := ⟨orders, .ofList
  [("slow-sql", ⟨"slow-sql", true, some 300000, none, none⟩),
    ("api-error", ⟨"api-error", false, none, some 503, none⟩)]⟩

theorem ofLookup_orders : ofLookup orderVariables orders = .ok seededOrders := by rfl

theorem views_agree_orders :
    let s := seededOrders.after [{ faultId := "api-error", enable := true, delayMs := some (-5) }]
    ofLookup orderVariables orders = .ok seededOrders ∧ Consistent orders s ⟨0, 0⟩ ∧
      (s.status ⟨0, 0⟩).details = "2 of 2 faults enabled" ∧
      s.delayFor "slow-sql" = some 300000 ∧ s.delayFor "api-error" = some 0 := by
  intro s
  refine ⟨ofLookup_orders, views_agree ofLookup_orders _ ⟨0, 0⟩, ?_, rfl, rfl⟩
  decide

end SwitchSet

end FaultPlane.Agent
