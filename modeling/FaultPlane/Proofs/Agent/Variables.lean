import FaultPlane.Proofs.Agent.Seeding

/-!
# The variables of a switch

The name of a variable keeps neither the case of an id nor its separators, and it is an id with
something around it. So the variable that enables one switch can be one that is read for another:
the variable that enables it or sets its delay, or the common one. The variables of a switch leave
another one alone exactly if this is not so (`isolated_iff`). The variable for the delay of a switch
can be the one that enables another as well. This does no harm, as what can be read as a delay is
not `true` (`isSetTrue_of_readable`).
-/

namespace FaultPlane.Agent

open Contract (Descriptor ServiceInfo Toggle)

/-! ### Names -/

theorem delayVariable_inj {id id' : String} :
    delayVariable id = delayVariable id' ↔ variableName id = variableName id' :=
  String.append_left_inj _

theorem delayVariable_ne_common (id : String) : delayVariable id ≠ commonVariable := by
  intro h
  have hend := congrArg (fun name => name.toList.reverse.take 4) h
  simp [delayVariable, commonVariable] at hend

/-- Whether the variable that enables `x` is read for `y`. -/
def Reaches (x y : Descriptor) : Prop :=
  variableName x.id = variableName y.id ∨ variableName x.id = delayVariable y.id ∨
    (variableName x.id = commonVariable ∧ y.isDelay = true)

/-! ### What a switch depends on -/

section

variable {lookup lookup' : String → Option String} {key : String}

theorem readDelay_congr (h : lookup key = lookup' key) :
    readDelay lookup key = readDelay lookup' key := by
  unfold readDelay
  rw [h]

theorem isSetTrue_congr (h : lookup key = lookup' key) :
    isSetTrue lookup key = isSetTrue lookup' key := by
  unfold isSetTrue
  rw [h]

theorem seed_congr {common common' : Option Int64} {d : Descriptor}
    (henabled : isSetTrue lookup (variableName d.id) = isSetTrue lookup' (variableName d.id))
    (hown : readDelay lookup (delayVariable d.id) = readDelay lookup' (delayVariable d.id))
    (hcommon : d.isDelay = true → common = common') :
    seed lookup common d = seed lookup' common' d := by
  have hdelay : (if d.isDelay then (common <|> d.defaultDelay).map clampDelay else none) =
      if d.isDelay then (common' <|> d.defaultDelay).map clampDelay else none := by
    split
    · next delays => rw [hcommon delays]
    · rfl
  unfold delayVariable at hown
  unfold seed
  simp only [henabled, hown, hdelay]

/-- What can be read as a delay is not `true`. -/
theorem isSetTrue_of_readable (h : Readable lookup key) : isSetTrue lookup key = false := by
  rw [Bool.eq_false_iff, ne_eq, isSetTrue_iff]
  rintro ⟨text, holds, htrue⟩
  rcases h with unset | ⟨n, number, holds', denotes⟩
  · exact unset text holds
  · rw [holds'.unique holds] at denotes
    obtain ⟨c, rest, htext, hc⟩ := denotes.head
    rw [htext, List.map_cons] at htrue
    have hlower : c.toLower = 't' := (List.cons.inj htrue).1
    rcases hc with rfl | rfl | digit
    · cases hlower
    · cases hlower
    · cases (Decimal.toLower_of_isDigit digit).symm.trans hlower
      cases digit

end

/-! ### Isolation -/

/-- Whether two environments differ at most in the variables of a switch. -/
def AgreeBut (x : Descriptor) (lookup lookup' : String → Option String) : Prop :=
  ∀ key, key ≠ variableName x.id → key ≠ delayVariable x.id → lookup key = lookup' key

namespace SwitchSet

/-- Whether the variables of the switch `x` leave the switch `y` of the same service alone. -/
def Isolated (info : ServiceInfo) (x y : Descriptor) : Prop :=
  ∀ lookup lookup' s s', AgreeBut x lookup lookup' → ofLookup lookup info = .ok s →
    ofLookup lookup' info = .ok s' → s.states.get? y.id = s'.states.get? y.id

section

variable {info : ServiceInfo} {x y : Descriptor}

theorem seed_eq_of_not_reaches {lookup lookup' : String → Option String}
    {common common' : Option Int64} (agree : AgreeBut x lookup lookup')
    (hx : Readable lookup (delayVariable x.id)) (hx' : Readable lookup' (delayVariable x.id))
    (hcommon : readDelay lookup commonVariable = .ok common)
    (hcommon' : readDelay lookup' commonVariable = .ok common') (apart : ¬ Reaches x y) :
    seed lookup common y = seed lookup' common' y := by
  obtain ⟨hname, hdelay, hshared⟩ := not_or.1 apart |>.imp_right not_or.1
  refine seed_congr ?_ ?_ fun delays => ?_
  · by_cases same : variableName y.id = delayVariable x.id
    · rw [same, isSetTrue_of_readable hx, isSetTrue_of_readable hx']
    · exact isSetTrue_congr (agree _ (Ne.symm hname) same)
  · refine readDelay_congr (agree _ (Ne.symm hdelay) fun same => hname ?_)
    exact (delayVariable_inj.1 same).symm
  · have hkey := agree commonVariable (fun same => hshared ⟨same.symm, delays⟩)
      (Ne.symm (delayVariable_ne_common x.id))
    exact Except.ok.inj (hcommon.symm.trans ((readDelay_congr hkey).trans hcommon'))

theorem isolated_of_not_reaches (hx : x ∈ info.faults) (hy : y ∈ info.faults)
    (apart : ¬ Reaches x y) : Isolated info x y := by
  intro lookup lookup' s s' agree h h'
  obtain ⟨-, -, common, hcommon, hseeds⟩ := ofLookup_eq_ok h
  obtain ⟨-, -, common', hcommon', hseeds'⟩ := ofLookup_eq_ok h'
  obtain ⟨t, hseed, hget⟩ := hseeds y hy
  obtain ⟨t', hseed', hget'⟩ := hseeds' y hy
  have hsame := seed_eq_of_not_reaches agree (((ofLookup_ok_iff lookup info).1 ⟨s, h⟩).2.2 x hx)
    (((ofLookup_ok_iff lookup' info).1 ⟨s', h'⟩).2.2 x hx) hcommon hcommon' apart
  cases hseed.symm.trans (hsame.trans hseed')
  rw [hget, hget']

/-! ### Leaks -/

/-- The environment with a single variable. -/
def only (key value : String) : String → Option String :=
  fun k => if k = key then some value else none

theorem agreeBut_only {key : String} (mine : key = variableName x.id ∨ key = delayVariable x.id)
    (value value' : String) : AgreeBut x (only key value) (only key value') := by
  intro k hname hdelay
  have other : k ≠ key := by
    rintro rfl
    exact mine.elim hname hdelay
  rw [only, only, if_neg other, if_neg other]

theorem unset_only {key k : String} (other : k ≠ key) (value : String) :
    Unset (only key value) k := by
  simp [unset_iff, only, other]

theorem gives_only (key : String) {value : String} {n : Int64} (bare : Text.trim value = value)
    (filled : value ≠ "") (hn : Decimal.int64? value = some n) : Gives (only key value) key n := by
  refine gives_iff.2 ⟨value, holds_iff.2 ⟨filled, ?_⟩, hn⟩
  simp [only, bare]

section

variable {key value : String} {n : Int64} (gives : Gives (only key value) key n)

include gives

theorem readable_only (k : String) : Readable (only key value) k := by
  by_cases h : k = key
  · exact .inr ⟨n, h ▸ gives⟩
  · exact .inl (unset_only h value)

theorem delay_only (distinct : (info.faults.map (·.id)).Nodup) (hy : y ∈ info.faults)
    (read : key = delayVariable y.id ∨ (key = commonVariable ∧ y.isDelay = true)) :
    ∃ s t, ofLookup (only key value) info = .ok s ∧ s.states.get? y.id = some t ∧
      t.delayMs = some (max 0 (min n 300000)) := by
  obtain ⟨s, h⟩ := (ofLookup_ok_iff (only key value) info).2
    ⟨distinct, readable_only gives _, fun d _ => readable_only gives _⟩
  obtain ⟨-, -, common, hcommon, hseeds⟩ := ofLookup_eq_ok h
  obtain ⟨t, hseed, hget⟩ := hseeds y hy
  have hdelay := (startsAs_of_seed hcommon hseed).delay
  refine ⟨s, t, h, hget, ?_⟩
  rcases read with rfl | ⟨rfl, delays⟩
  · exact hdelay.of_own gives
  · exact hdelay.of_common (unset_only (delayVariable_ne_common y.id) value) delays gives

end

theorem not_isolated {key : String} (distinct : (info.faults.map (·.id)).Nodup)
    (hy : y ∈ info.faults) (mine : key = variableName x.id ∨ key = delayVariable x.id)
    (read : key = delayVariable y.id ∨ (key = commonVariable ∧ y.isDelay = true)) :
    ¬ Isolated info x y := by
  intro isolated
  have zero : Gives (only key "0") key 0 := gives_only key (by decide) (by decide) (by decide)
  have one : Gives (only key "1") key 1 := gives_only key (by decide) (by decide) (by decide)
  obtain ⟨s, t, h, hget, hdelay⟩ := delay_only zero distinct hy read
  obtain ⟨s', t', h', hget', hdelay'⟩ := delay_only one distinct hy read
  have hsame := isolated _ _ s s' (agreeBut_only mine "0" "1") h h'
  cases hget.symm.trans (hsame.trans hget')
  exact absurd (hdelay.symm.trans hdelay') (by decide)

/-- The variables of one switch leave another switch alone, whatever they say, exactly if the one that
enables it is not read for the other. -/
theorem isolated_iff {lookup : String → Option String} {s : SwitchSet}
    (accepted : ofLookup lookup info = .ok s) (hx : x ∈ info.faults) (hy : y ∈ info.faults) :
    Isolated info x y ↔ ¬ Reaches x y := by
  have distinct := ((ofLookup_ok_iff lookup info).1 ⟨s, accepted⟩).1
  refine ⟨fun isolated reaches => ?_, isolated_of_not_reaches hx hy⟩
  rcases reaches with same | same | ⟨same, delays⟩
  · have hdelay := delayVariable_inj.2 same
    exact not_isolated distinct hy (.inr rfl) (.inl hdelay) isolated
  · exact not_isolated distinct hy (.inl rfl) (.inl same) isolated
  · exact not_isolated distinct hy (.inl rfl) (.inr ⟨same, delays⟩) isolated

end

/-! The variable `FAULT_SLOW_DELAY_MS` is the delay of the first switch and enables the second. So
the second can set the delay of the first, and the first leaves the second alone. -/

def slowService : ServiceInfo :=
  { serviceId := "ts-order", faults := [{ id := "slow" }, { id := "slow-delay-ms" }] }

theorem isolated_iff_slow :
    (∃ s, ofLookup (fun _ => none) slowService = .ok s) ∧
      Isolated slowService { id := "slow" } { id := "slow-delay-ms" } ∧
      ¬ Isolated slowService { id := "slow-delay-ms" } { id := "slow" } := by
  have accepted : ∃ s, ofLookup (fun _ => none) slowService = .ok s := ⟨_, rfl⟩
  have slow : ({ id := "slow" } : Descriptor) ∈ slowService.faults := by decide
  have delay : ({ id := "slow-delay-ms" } : Descriptor) ∈ slowService.faults := by decide
  obtain ⟨s, h⟩ := accepted
  refine ⟨⟨s, h⟩, (isolated_iff h slow delay).2 ?_, fun isolated => ?_⟩
  · unfold Reaches
    decide
  · exact (isolated_iff h delay slow).1 isolated (.inr (.inl (by decide)))

/-! Two switches whose ids differ in a separator are enabled by one variable. -/

def sqlService : ServiceInfo :=
  { serviceId := "ts-order", faults := [{ id := "slow-sql" }, { id := "slow_sql" }] }

def sqlVariables : String → Option String
  | "FAULT_SLOW_SQL" => some "true"
  | _ => none

def sqlSwitches (enabled : Bool) : SwitchSet := ⟨sqlService, .ofList
  [("slow-sql", ⟨"slow-sql", enabled, none, none, none⟩),
    ("slow_sql", ⟨"slow_sql", enabled, none, none, none⟩)]⟩

theorem not_always_isolated :
    ¬ ∀ (info : ServiceInfo) (lookup : String → Option String) (s : SwitchSet) (x y : Descriptor),
      ofLookup lookup info = .ok s → x ∈ info.faults → y ∈ info.faults → x.id ≠ y.id →
        Isolated info x y := by
  intro always
  have off : ofLookup (fun _ => none) sqlService = .ok (sqlSwitches false) := by rfl
  have on : ofLookup sqlVariables sqlService = .ok (sqlSwitches true) := by rfl
  have agree : AgreeBut { id := "slow-sql" } (fun _ => none) sqlVariables := by
    intro key hname _
    have hkey : variableName "slow-sql" = "FAULT_SLOW_SQL" := by decide
    unfold sqlVariables
    split
    · exact absurd hkey.symm hname
    · rfl
  have isolated := always sqlService _ _ { id := "slow-sql" } { id := "slow_sql" } off
    (by decide) (by decide) (by decide)
  exact absurd (isolated _ _ _ _ agree off on) (by decide)

end SwitchSet

end FaultPlane.Agent
