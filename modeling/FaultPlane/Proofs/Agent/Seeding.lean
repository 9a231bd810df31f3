import FaultPlane.Proofs.Agent.Switches
import FaultPlane.Proofs.Decimal.Integers
import FaultPlane.Proofs.Text.Trimming

/-!
# Switch sets at start-up

A service gets its switch set if no two of its faults have one id and every delay among the
variables can be read. The problem is that of the first demand that is not met: the ids come before
the variable for all delaying switches, and this one before those of single switches. What a switch
starts with is in its own variables, then by the common one, then by its descriptor
(`startup_exact`).
-/

namespace FaultPlane.Agent

open Contract (Descriptor ServiceInfo Toggle)

/-! ### Variables -/

section

variable (lookup : String → Option String)

/-- What a variable holds, without the blanks around it. A blank variable holds nothing. -/
def Holds (key text : String) : Prop :=
  text ≠ "" ∧ ∃ value, lookup key = some value ∧ Text.Padded value text

def Unset (key : String) : Prop := ∀ text, ¬ Holds lookup key text

/-- Whether a variable holds an integer of 64 bits. -/
def Gives (key : String) (n : Int64) : Prop :=
  ∃ text, Holds lookup key text ∧ Decimal.Denotes text.toList n.toInt

def Readable (key : String) : Prop := Unset lookup key ∨ ∃ n, Gives lookup key n

variable {lookup} {key : String}

theorem holds_iff {text : String} :
    Holds lookup key text ↔ text ≠ "" ∧ (lookup key).map Text.trim = some text := by
  simp only [Holds, Option.map_eq_some_iff, Text.trim_eq_iff]

theorem Holds.unique {text text' : String} (h : Holds lookup key text)
    (h' : Holds lookup key text') : text = text' :=
  Option.some.inj ((holds_iff.1 h).2.symm.trans (holds_iff.1 h').2)

theorem unset_iff : Unset lookup key ↔ ∀ text ∈ (lookup key).map Text.trim, text = "" := by
  simp only [Unset, holds_iff, not_and', ne_eq, not_not, Option.mem_def]

theorem gives_iff {n : Int64} :
    Gives lookup key n ↔ ∃ text, Holds lookup key text ∧ Decimal.int64? text = some n := by
  simp only [Gives, Decimal.int64?_eq_some]

theorem Gives.unique {n n' : Int64} (h : Gives lookup key n) (h' : Gives lookup key n') :
    n = n' := by
  obtain ⟨text, holds, hn⟩ := gives_iff.1 h
  obtain ⟨text', holds', hn'⟩ := gives_iff.1 h'
  rw [holds.unique holds'] at hn
  exact Option.some.inj (hn.symm.trans hn')

theorem Gives.not_unset {n : Int64} (h : Gives lookup key n) : ¬ Unset lookup key := by
  obtain ⟨text, holds, -⟩ := h
  exact fun unset => unset text holds

theorem readDelay_of_unset (h : Unset lookup key) : readDelay lookup key = .ok none := by
  rw [unset_iff] at h
  unfold readDelay
  split
  · rfl
  · rfl
  · next value filled hvalue => exact absurd (h value hvalue) filled

theorem readDelay_of_holds {text : String} (h : Holds lookup key text) :
    readDelay lookup key =
      match Decimal.int64? text with
      | some n => .ok (some (clampDelay n))
      | none => .error (.invalidVariable key text) := by
  obtain ⟨filled, htext⟩ := holds_iff.1 h
  unfold readDelay
  split
  · next absent => cases htext.symm.trans absent
  · next empty => exact absurd (Option.some.inj (htext.symm.trans empty)) filled
  · next value _ hvalue =>
    cases htext.symm.trans hvalue
    rfl

theorem readDelay_of_gives {n : Int64} (h : Gives lookup key n) :
    readDelay lookup key = .ok (some (max 0 (min n 300000))) := by
  obtain ⟨text, holds, hn⟩ := gives_iff.1 h
  rw [readDelay_of_holds holds, hn, ← clampDelay_eq]

def delayDemand (lookup : String → Option String) (key : String) : Demand Problem :=
  ⟨Readable lookup key, .invalidVariable key (((lookup key).map Text.trim).getD "")⟩

theorem decides_readDelay (lookup : String → Option String) (key : String) :
    Decides (readDelay lookup key) [delayDemand lookup key] := by
  refine Decides.cons (fun met => ?_) fun unmet => ?_
  · rcases met with unset | ⟨n, gives⟩
    · rw [readDelay_of_unset unset]
      exact decides_ok none
    · rw [readDelay_of_gives gives]
      exact decides_ok _
  · obtain ⟨filled, ungiven⟩ := not_or.1 unmet
    obtain ⟨text, holds⟩ := not_forall_not.1 filled
    have unread : Decimal.int64? text = none := by
      rw [Option.eq_none_iff_forall_ne_some]
      exact fun n hn => ungiven ⟨n, gives_iff.2 ⟨text, holds, hn⟩⟩
    rw [readDelay_of_holds holds, unread, delayDemand, (holds_iff.1 holds).2]
    rfl

/-! ### Single switches -/

/-- Whether a variable holds `true`, in letters of any case. -/
def HoldsTrue (lookup : String → Option String) (key : String) : Prop :=
  ∃ text, Holds lookup key text ∧ text.toList.map Char.toLower = "true".toList

theorem isSetTrue_iff : isSetTrue lookup key = true ↔ HoldsTrue lookup key := by
  have hlower : ∀ text, Text.asciiLower text = "true" ↔
      text.toList.map Char.toLower = "true".toList := fun text => by
    rw [Text.asciiLower, ← String.toList_inj, String.toList_ofList]
  have hfilled : ∀ text, Text.asciiLower text = "true" → text ≠ "" := by
    rintro text htrue rfl
    exact absurd htrue (by decide)
  simp only [isSetTrue, Option.any_eq_true, beq_iff_eq, HoldsTrue, holds_iff, ← hlower,
    Option.map_eq_some_iff]
  constructor
  · rintro ⟨value, hvalue, htrue⟩
    exact ⟨Text.trim value, ⟨hfilled _ htrue, value, hvalue, rfl⟩, htrue⟩
  · rintro ⟨text, ⟨-, value, hvalue, rfl⟩, htrue⟩
    exact ⟨value, hvalue, htrue⟩

theorem isDelay_iff (d : Descriptor) :
    d.isDelay = true ↔ d.kind = "delay" ∨ d.defaultDelay ≠ none := by
  rw [Descriptor.isDelay, Bool.or_eq_true, beq_iff_eq, Option.isSome_iff_ne_none]

/-- Where the delay of a switch comes from: its own variable, the common one, or its descriptor. -/
inductive DelayFrom (lookup : String → Option String) (d : Descriptor) : Option Int64 → Prop where
  | own {n : Int64} (gives : Gives lookup (delayVariable d.id) n) :
      DelayFrom lookup d (some (max 0 (min n 300000)))
  | common {n : Int64} (unset : Unset lookup (delayVariable d.id))
      (delays : d.kind = "delay" ∨ d.defaultDelay ≠ none) (gives : Gives lookup commonVariable n) :
      DelayFrom lookup d (some (max 0 (min n 300000)))
  | stated {n : Int64} (unset : Unset lookup (delayVariable d.id))
      (commonUnset : Unset lookup commonVariable) (stated : d.defaultDelay = some n) :
      DelayFrom lookup d (some (max 0 (min n 300000)))
  | nowhere (unset : Unset lookup (delayVariable d.id)) (unstated : d.defaultDelay = none)
      (commonUnset : d.kind = "delay" → Unset lookup commonVariable) : DelayFrom lookup d none

section

variable {d : Descriptor} {delay : Option Int64} {n : Int64} (h : DelayFrom lookup d delay)

include h

theorem DelayFrom.of_own (gives : Gives lookup (delayVariable d.id) n) :
    delay = some (max 0 (min n 300000)) := by
  cases h with
  | own gives' => rw [gives.unique gives']
  | common unset => exact absurd unset gives.not_unset
  | stated unset => exact absurd unset gives.not_unset
  | nowhere unset => exact absurd unset gives.not_unset

theorem DelayFrom.of_common (unset : Unset lookup (delayVariable d.id)) (delays : d.isDelay = true)
    (gives : Gives lookup commonVariable n) : delay = some (max 0 (min n 300000)) := by
  cases h with
  | own gives' => exact absurd unset gives'.not_unset
  | common _ _ gives' => rw [gives.unique gives']
  | stated _ commonUnset => exact absurd commonUnset gives.not_unset
  | nowhere _ unstated commonUnset =>
    have hkind := ((isDelay_iff d).1 delays).resolve_right (not_not.2 unstated)
    exact absurd (commonUnset hkind) gives.not_unset

end

structure StartsAs (lookup : String → Option String) (d : Descriptor) (t : Toggle) : Prop where
  id : t.id = d.id
  enabled : t.enabled = true ↔ HoldsTrue lookup (variableName d.id)
  delay : DelayFrom lookup d t.delayMs
  errorCode : t.errorCode = d.defaultErrorCode
  probability : t.probability = d.defaultProbability

/-- A switch without a delay of its own. -/
theorem delayFrom_of_unset {d : Descriptor} {common : Option Int64}
    (unset : Unset lookup (delayVariable d.id))
    (hcommon : readDelay lookup commonVariable = .ok common) :
    DelayFrom lookup d
      (if d.isDelay then (common <|> d.defaultDelay).map clampDelay else none) := by
  have readable := (decides_readDelay lookup commonVariable).ok_iff.1 ⟨common, hcommon⟩
    _ List.mem_cons_self
  by_cases delays : d.isDelay = true
  · rw [if_pos delays]
    rcases readable with commonUnset | ⟨n, gives⟩
    · cases (readDelay_of_unset commonUnset).symm.trans hcommon
      cases hdefault : d.defaultDelay with
      | none => exact .nowhere unset hdefault fun _ => commonUnset
      | some n =>
        have hdelay : (none <|> some n).map clampDelay = some (max 0 (min n 300000)) :=
          congrArg some (clampDelay_eq n)
        rw [hdelay]
        exact .stated unset commonUnset hdefault
    · cases (readDelay_of_gives gives).symm.trans hcommon
      have hdelay : (some (max 0 (min n 300000)) <|> d.defaultDelay).map clampDelay =
          some (max 0 (min n 300000)) := by
        rw [← clampDelay_eq]
        exact congrArg some (clampDelay_clampDelay n)
      rw [hdelay]
      exact .common unset ((isDelay_iff d).1 delays) gives
  · rw [if_neg delays]
    rw [isDelay_iff, not_or, ne_eq, not_not] at delays
    exact .nowhere unset delays.2 fun delay => absurd delay delays.1

theorem startsAs_of_seed {d : Descriptor} {common : Option Int64} {t : Toggle}
    (hcommon : readDelay lookup commonVariable = .ok common)
    (h : seed lookup common d = .ok t) : StartsAs lookup d t := by
  obtain ⟨own, hown, hrest⟩ := bind_eq_ok.1 h
  cases hrest
  refine ⟨rfl, isSetTrue_iff, ?_, rfl, rfl⟩
  have readable := (decides_readDelay lookup (delayVariable d.id)).ok_iff.1 ⟨own, hown⟩
    _ List.mem_cons_self
  rcases readable with unset | ⟨n, gives⟩
  · cases (readDelay_of_unset unset).symm.trans hown
    exact delayFrom_of_unset unset hcommon
  · cases (readDelay_of_gives gives).symm.trans hown
    exact .own gives

theorem decides_seed (lookup : String → Option String) (common : Option Int64) (d : Descriptor) :
    Decides (seed lookup common d) [delayDemand lookup (delayVariable d.id)] :=
  (decides_readDelay lookup (delayVariable d.id)).bind fun _ _ => decides_ok _

end

/-! ### Whole sets -/

/-- No id repeats an earlier one; `earlier` are those before the list. -/
def idDemands (earlier : List String) : List String → List (Demand Problem)
  | [] => []
  | id :: rest => ⟨id ∉ earlier, .repeatedFault id⟩ :: idDemands (id :: earlier) rest

theorem idDemands_met {earlier ids : List String} :
    (∀ d ∈ idDemands earlier ids, d.met) ↔ ids.Nodup ∧ ids.Disjoint earlier := by
  induction ids generalizing earlier with
  | nil => simp [idDemands]
  | cons id rest ih => rw [idDemands, List.forall_mem_cons, ih, fresh_cons_iff]

theorem decides_ids {α : Type} {x : Except Problem α} {demands : List (Demand Problem)}
    (h : Decides x demands) (earlier ids : List String) :
    Decides (match firstRepeat? earlier ids with
      | some id => .error (.repeatedFault id)
      | none => x) (idDemands earlier ids ++ demands) := by
  induction ids generalizing earlier with
  | nil => exact h
  | cons id rest ih =>
    rw [idDemands, List.cons_append]
    refine Decides.cons (fun fresh => ?_) fun old => ?_
    · have hnext : firstRepeat? earlier (id :: rest) = firstRepeat? (id :: earlier) rest := by
        rw [firstRepeat?, if_neg (by simpa using fresh)]
      rw [hnext]
      exact ih (id :: earlier)
    · have hfirst : firstRepeat? earlier (id :: rest) = some id := by
        rw [firstRepeat?, if_pos (by simpa using old)]
      rw [hfirst]

/-- The demands on a service and its variables, in the order in which they are looked at. -/
def demands (lookup : String → Option String) (info : ServiceInfo) : List (Demand Problem) :=
  idDemands [] (info.faults.map (·.id)) ++ delayDemand lookup commonVariable ::
    info.faults.map fun d => delayDemand lookup (delayVariable d.id)

namespace SwitchSet

theorem decides_ofLookup (lookup : String → Option String) (info : ServiceInfo) :
    Decides (ofLookup lookup info) (demands lookup info) := by
  refine decides_ids ?_ [] (info.faults.map (·.id))
  refine (decides_readDelay lookup commonVariable).bind fun common _ => ?_
  rw [← List.append_nil (info.faults.map _)]
  exact (Decides.mapM (decides_seed lookup common) info.faults).bind fun _ _ => decides_ok _

theorem ofLookup_ok_iff (lookup : String → Option String) (info : ServiceInfo) :
    (∃ s, ofLookup lookup info = .ok s) ↔
      (info.faults.map (·.id)).Nodup ∧ Readable lookup commonVariable ∧
        ∀ d ∈ info.faults, Readable lookup (delayVariable d.id) := by
  rw [(decides_ofLookup lookup info).ok_iff, demands, List.forall_mem_append, idDemands_met,
    List.forall_mem_cons, List.forall_mem_map]
  simp [delayDemand]

/-- A service gets a switch set exactly if its ids differ and the delays among its variables can be
read. If not, the problem is that of the first demand that is not met. Each switch of the set starts
as its descriptor and the variables say. -/
theorem startup_exact (lookup : String → Option String) (info : ServiceInfo) :
    ((∃ s, ofLookup lookup info = .ok s) ↔
        (info.faults.map (·.id)).Nodup ∧ Readable lookup commonVariable ∧
          ∀ d ∈ info.faults, Readable lookup (delayVariable d.id)) ∧
      (∀ problem, ofLookup lookup info = .error problem ↔
        FirstUnmet problem (demands lookup info)) ∧
      ∀ s, ofLookup lookup info = .ok s →
        s.info = info ∧ s.states.keys = info.faults.map (·.id) ∧
          ∀ d ∈ info.faults, ∃ t, s.states.get? d.id = some t ∧ StartsAs lookup d t := by
  refine ⟨ofLookup_ok_iff lookup info, decides_ofLookup lookup info, fun s h => ?_⟩
  obtain ⟨hinfo, hkeys, common, hcommon, hseeds⟩ := ofLookup_eq_ok h
  refine ⟨hinfo, hkeys, fun d inside => ?_⟩
  obtain ⟨t, hseed, hget⟩ := hseeds d inside
  exact ⟨t, hget, startsAs_of_seed hcommon hseed⟩

/-- The common delay of the service ts-order cannot be read, and a third switch of the service would
have the id of the first. -/
theorem startup_exact_orders :
    let soon : String → Option String := fun key =>
      if key = "FAULT_DELAY_TIME_MS" then some " soon " else none
    let twice : ServiceInfo := { orders with faults := orders.faults ++ [{ id := "slow-sql" }] }
    FirstUnmet (.invalidVariable "FAULT_DELAY_TIME_MS" "soon") (demands soon orders) ∧
      FirstUnmet (.repeatedFault "slow-sql") (demands soon twice) ∧
      ∃ t, seededOrders.states.get? "slow-sql" = some t ∧ t.delayMs = some 300000 ∧
        StartsAs orderVariables { id := "slow-sql", kind := "delay" } t := by
  intro soon twice
  have unread : ofLookup soon orders = .error (.invalidVariable "FAULT_DELAY_TIME_MS" "soon") := by
    rfl
  have repeated : ofLookup soon twice = .error (.repeatedFault "slow-sql") := by rfl
  have hstates := (startup_exact orderVariables orders).2.2 seededOrders ofLookup_orders
  obtain ⟨t, hget, hstarts⟩ := hstates.2.2 { id := "slow-sql", kind := "delay" } List.mem_cons_self
  refine ⟨((startup_exact soon orders).2.1 _).1 unread,
    ((startup_exact soon twice).2.1 _).1 repeated, t, hget, ?_, hstarts⟩
  cases hget
  rfl

end SwitchSet

end FaultPlane.Agent
