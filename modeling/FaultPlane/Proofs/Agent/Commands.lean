import FaultPlane.Proofs.Agent.Switches

/-!
# Commands to switches

A command changes the switch that it is for and no other (`get?_control`), so a switch is as the
commands to it have left it: each knob has the last value that was given for it
(`last_writer_wins`).
-/

namespace FaultPlane.Agent

open Contract (ServiceInfo Toggle Command Reply)

/-! ### One switch -/

/-- A switch with the last values that some commands to it give. -/
def lastWritten (t : Toggle) (commands : List Command) : Toggle where
  id := t.id
  enabled := (commands.map (·.enable)).getLast?.getD t.enabled
  delayMs := ((commands.filterMap (·.delayMs)).getLast?.map fun d =>
    max 0 (min d 300000)).or t.delayMs
  errorCode := (commands.filterMap (·.errorCode)).getLast?.or t.errorCode
  probability := ((commands.filterMap (·.probability)).getLast?.map fun p =>
    if p < 0 then 0 else if 1 < p then 1 else p).or t.probability

namespace SwitchSet

/-- One command is the last writer of every knob that it gives a value for. -/
theorem obey_eq_lastWritten (t : Toggle) (c : Command) : obey t c = lastWritten t [c] := by
  obtain ⟨id, enable, delay, code, probability⟩ := c
  have hdelay : delay.map clampDelay = delay.map fun d => max 0 (min d 300000) :=
    Option.map_congr fun d _ => clampDelay_eq d
  show Toggle.mk t.id enable (delay.map clampDelay <|> t.delayMs) (code <|> t.errorCode) _ = _
  rw [hdelay]
  cases delay <;> cases code <;> cases probability <;> rfl

theorem lastWritten_append (t : Toggle) (commands later : List Command) :
    lastWritten (lastWritten t commands) later = lastWritten t (commands ++ later) := by
  simp only [lastWritten, List.map_append, List.filterMap_append, List.getLast?_append,
    Option.map_or, Option.or_assoc, Option.getD_or]

theorem foldl_obey (t : Toggle) (commands : List Command) :
    commands.foldl obey t = lastWritten t commands := by
  induction commands generalizing t with
  | nil => rfl
  | cons c commands ih =>
    rw [List.foldl_cons, ih, obey_eq_lastWritten, lastWritten_append, List.singleton_append]

theorem obey_obey (t : Toggle) (c : Command) : obey (obey t c) c = obey t c := by
  cases hdelay : c.delayMs <;> cases hcode : c.errorCode <;> cases hp : c.probability <;>
    simp [obey, hdelay, hcode, hp]

/-! ### One command -/

section

variable (s : SwitchSet)

theorem get?_control (c : Command) (x : String) :
    (s.control c).2.states.get? x =
      if c.faultId = x then (s.states.get? x).map (obey · c) else s.states.get? x := by
  cases hget : s.states.get? c.faultId with
  | none =>
    rw [control_of_unknown hget]
    split
    · next same => rw [← same, hget, Option.map_none]
    · rfl
  | some t =>
    rw [control_of_known hget, Table.get?_insert]
    by_cases same : c.faultId = x
    · subst same
      rw [if_pos rfl, if_pos rfl, hget, Option.map_some]
    · rw [if_neg (Ne.symm same), if_neg same]

/-- The reply to a command depends on the switch that it is for. -/
theorem reply_congr {s' : SwitchSet} {c : Command}
    (h : s'.states.get? c.faultId = s.states.get? c.faultId) :
    (s'.control c).1 = (s.control c).1 := by
  cases hget : s.states.get? c.faultId with
  | none => rw [control_of_unknown hget, control_of_unknown (h.trans hget)]
  | some t => rw [control_of_known hget, control_of_known (h.trans hget)]

theorem control_control (c : Command) : ((s.control c).2.control c).2 = (s.control c).2 := by
  cases hget : s.states.get? c.faultId with
  | none => rw [control_of_unknown hget, control_of_unknown hget]
  | some t =>
    have hagain : (s.control c).2.states.get? c.faultId = some (obey t c) := by
      rw [get?_control, if_pos rfl, hget, Option.map_some]
    rw [control_of_known hagain, obey_obey, control_of_known hget]
    simp only [Table.insert_insert]

theorem control_comm {c c' : Command} (h : c.faultId ≠ c'.faultId) :
    ((s.control c).2.control c').2 = ((s.control c').2.control c).2 := by
  have hfirst : (s.control c').2.states.get? c.faultId = s.states.get? c.faultId := by
    rw [get?_control, if_neg (Ne.symm h)]
  have hsecond : (s.control c).2.states.get? c'.faultId = s.states.get? c'.faultId := by
    rw [get?_control, if_neg h]
  cases hget : s.states.get? c.faultId with
  | none => rw [control_of_unknown hget, control_of_unknown (hfirst.trans hget)]
  | some t =>
    cases hget' : s.states.get? c'.faultId with
    | none => rw [control_of_unknown hget', control_of_unknown (hsecond.trans hget')]
    | some t' =>
      have inside : c.faultId ∈ s.states.keys := s.states.mem_keys_iff.2 ⟨t, hget⟩
      rw [control_of_known (hsecond.trans hget'), control_of_known (hfirst.trans hget),
        control_of_known hget, control_of_known hget']
      simp only [s.states.insert_comm h _ _ inside]

/-! ### Some commands -/

theorem after_append (commands later : List Command) :
    s.after (commands ++ later) = (s.after commands).after later := List.foldl_append

theorem get?_after (commands : List Command) (x : String) :
    (s.after commands).states.get? x =
      (s.states.get? x).map fun t => lastWritten t (commands.filter (·.faultId = x)) := by
  simp only [← foldl_obey]
  induction commands generalizing s with
  | nil => simp [after]
  | cons c commands ih =>
    have hrest := ih (s.control c).2
    rw [get?_control] at hrest
    refine hrest.trans ?_
    by_cases mine : c.faultId = x
    · simp [mine, Function.comp_def]
    · simp [mine]

end

/-- After any commands, each switch is as the commands to it have left it. -/
theorem last_writer_wins {lookup : String → Option String} {info : ServiceInfo} {s : SwitchSet}
    (h : ofLookup lookup info = .ok s) (commands : List Command) :
    (∀ x, (s.after commands).states.get? x =
        (s.states.get? x).map fun t => lastWritten t (commands.filter (·.faultId = x))) ∧
      (∀ c, ((s.after commands).control c).1.success = true ↔ c.faultId ∈ info.faults.map (·.id)) ∧
      (∀ c, c.faultId ∉ info.faults.map (·.id) →
        ((s.after commands).control c).2 = s.after commands) ∧
      (∀ c c', c.faultId ≠ c'.faultId →
        s.after (commands ++ [c, c']) = s.after (commands ++ [c', c]) ∧
          ((s.after (commands ++ [c])).control c').1 = ((s.after commands).control c').1) ∧
      ∀ c, s.after (commands ++ [c, c]) = s.after (commands ++ [c]) := by
  obtain ⟨hseeded, rfl⟩ := sound_ofLookup h
  have hsound := hseeded.after commands
  have hknown : ∀ id, id ∈ s.info.faults.map (·.id) ↔
      ∃ t, (s.after commands).states.get? id = some t := by
    intro id
    rw [← s.info_after commands]
    exact hsound.known_iff
  refine ⟨s.get?_after commands, fun c => ?_, fun c unknown => ?_, fun c c' different => ?_,
    fun c => ?_⟩
  · rw [hknown]
    cases hget : (s.after commands).states.get? c.faultId with
    | none => simp [control_of_unknown hget, Reply.failure]
    | some t => simp [control_of_known hget]
  · rw [hknown, not_exists] at unknown
    rw [control_of_unknown (Option.eq_none_iff_forall_ne_some.2 unknown)]
  · rw [after_append, after_append, after_append]
    refine ⟨(s.after commands).control_comm different, reply_congr _ ?_⟩
    exact (get?_control _ c c'.faultId).trans (if_neg different)
  · rw [after_append, after_append]
    exact (s.after commands).control_control c

/-- A delay stays while its switch is disabled and enabled again. -/
theorem last_writer_wins_orders :
    let commands : List Command :=
      [{ faultId := "slow-sql", enable := false, delayMs := some 400000 },
        { faultId := "api-error", enable := true, errorCode := some 500 },
        { faultId := "slow-sql", enable := true, probability := some 1.5 },
        { faultId := "no-such-fault", enable := true }]
    let s := seededOrders.after commands
    ofLookup orderVariables orders = .ok seededOrders ∧
      s.states.get? "slow-sql" = some ⟨"slow-sql", true, some 300000, none, some 1⟩ ∧
      s.states.get? "slow-sql" = (seededOrders.states.get? "slow-sql").map fun t =>
        lastWritten t (commands.filter (·.faultId = "slow-sql")) := by
  intro commands s
  have hslow := (last_writer_wins ofLookup_orders commands).1 "slow-sql"
  refine ⟨ofLookup_orders, ?_, hslow⟩
  decide

end SwitchSet

end FaultPlane.Agent
