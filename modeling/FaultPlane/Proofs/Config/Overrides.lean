import FaultPlane.Config.Environment
import FaultPlane.Proofs.Catalog.Entries
import FaultPlane.Proofs.Decimal.Integers
import FaultPlane.Proofs.Text.Trimming

/-!
# Settings with a variable

Seven settings can be overridden, each by a variable of its own. The variables are looked at in a
fixed order up to the first one that does not mean a value of its setting. So a run changes the
settings that have a set variable before that one, to what the variables mean, and nothing else
(`overridden_iff`).
-/

namespace FaultPlane.Config

/-! ### One override after the other -/

section

variable (lookup : String → Option String) {o : Override} (os : List Override) (c : Config)

theorem applyOverrides_of_unset (unset : lookup o.key = none) :
    applyOverrides lookup (o :: os) c = applyOverrides lookup os c := by
  rw [applyOverrides, unset]

theorem applyOverrides_of_read {value : String} {c' : Config} (set : lookup o.key = some value)
    (read : o.apply value c = some c') :
    applyOverrides lookup (o :: os) c = applyOverrides lookup os c' := by
  simp only [applyOverrides, set, read]

theorem applyOverrides_of_unread {value : String} (set : lookup o.key = some value)
    (unread : o.apply value c = none) :
    applyOverrides lookup (o :: os) c = (c, .error (.invalidVariable o.key value)) := by
  simp only [applyOverrides, set, unread]
  rfl

end

/-! ### Settings -/

/-- The settings that can be overridden, in the order in which their variables are looked at. -/
inductive Setting where
  | portNumber
  | namespaceName
  | kubectl
  | protectedNames
  | discoveryEnabled
  | scanInterval
  | discoveryTimeout
  deriving DecidableEq, Repr

namespace Setting

def all : List Setting :=
  [.portNumber, .namespaceName, .kubectl, .protectedNames, .discoveryEnabled, .scanInterval,
    .discoveryTimeout]

abbrev Value : Setting → Type
  | .portNumber => UInt16
  | .namespaceName => String
  | .kubectl => String
  | .protectedNames => List String
  | .discoveryEnabled => Bool
  | .scanInterval => UInt64
  | .discoveryTimeout => UInt64

def key : Setting → String
  | .portNumber => "CONTROL_PLANE_PORT"
  | .namespaceName => "CHAOS_NAMESPACE"
  | .kubectl => "CHAOS_KUBECTL"
  | .protectedNames => "CHAOS_PROTECTED_RESOURCES"
  | .discoveryEnabled => "FAULT_DISCOVERY_ENABLED"
  | .scanInterval => "FAULT_DISCOVERY_SCAN_INTERVAL_MS"
  | .discoveryTimeout => "FAULT_DISCOVERY_TIMEOUT_MS"

def get : (x : Setting) → Config → x.Value
  | .portNumber, c => c.server.portNumber
  | .namespaceName, c => c.chaos.namespaceName
  | .kubectl, c => c.chaos.kubectl
  | .protectedNames, c => c.chaos.protectedNames
  | .discoveryEnabled, c => c.discovery.enabled
  | .scanInterval, c => c.discovery.scanIntervalMs
  | .discoveryTimeout, c => c.discovery.timeoutMs

def set : (x : Setting) → x.Value → Config → Config
  | .portNumber, n, c => { c with server.portNumber := n }
  | .namespaceName, name, c => { c with chaos.namespaceName := name }
  | .kubectl, path, c => { c with chaos.kubectl := path }
  | .protectedNames, names, c => { c with chaos.protectedNames := names }
  | .discoveryEnabled, b, c => { c with discovery.enabled := b }
  | .scanInterval, n, c => { c with discovery.scanIntervalMs := n }
  | .discoveryTimeout, n, c => { c with discovery.timeoutMs := n }

def read? : (x : Setting) → String → Option x.Value
  | .portNumber, value => Decimal.uint16? (Text.trim value)
  | .namespaceName, value => some value
  | .kubectl, value => some value
  | .protectedNames, value => some (Text.commaItems value)
  | .discoveryEnabled, value => readBool? value
  | .scanInterval, value => Decimal.uint64? (Text.trim value)
  | .discoveryTimeout, value => Decimal.uint64? (Text.trim value)

def override (x : Setting) : Override where
  key := x.key
  apply value c := do
    let v ← x.read? value
    pure (x.set v c)

end Setting

theorem overrides_eq_map : overrides = Setting.all.map Setting.override := rfl

/-! ### The meaning of a variable -/

theorem readBool?_eq_some {value : String} {b : Bool} :
    readBool? value = some b ↔ Text.Padded value (if b then "true" else "false") := by
  rw [← Text.trim_eq_iff, readBool?]
  split
  · next htrue => cases b <;> simp [htrue]
  · next hfalse => cases b <;> simp [hfalse]
  · next notTrue notFalse =>
    cases b with
    | true => simpa using notTrue
    | false => simpa using notFalse

namespace Setting

/-- Whether a text is a number without a minus sign, blanks around it aside. -/
def IsNumber (value : String) (n : Nat) : Prop :=
  ∃ text, Text.Padded value text ∧ Decimal.DenotesNat text.toList n

/-- Whether the value of a variable means a value of its setting. -/
def Means : (x : Setting) → String → x.Value → Prop
  | .portNumber, value, n => IsNumber value n.toNat
  | .namespaceName, value, name => name = value
  | .kubectl, value, path => path = value
  | .protectedNames, value, names => Text.ItemsOf value names
  | .discoveryEnabled, value, b => Text.Padded value (if b then "true" else "false")
  | .scanInterval, value, n => IsNumber value n.toNat
  | .discoveryTimeout, value, n => IsNumber value n.toNat

theorem isNumber_iff {value : String} {n : Nat} :
    IsNumber value n ↔ Decimal.DenotesNat (Text.trim value).toList n := by
  unfold IsNumber
  constructor
  · rintro ⟨text, padded, denotes⟩
    rw [Text.trim_eq_iff.2 padded]
    exact denotes
  · intro denotes
    exact ⟨Text.trim value, Text.padded_trim value, denotes⟩

theorem read?_eq_some {x : Setting} {value : String} {v : x.Value} :
    x.read? value = some v ↔ x.Means value v := by
  cases x with
  | portNumber => exact Decimal.uint16?_eq_some.trans isNumber_iff.symm
  | namespaceName => exact Option.some_inj.trans eq_comm
  | kubectl => exact Option.some_inj.trans eq_comm
  | protectedNames => exact Option.some_inj.trans Text.commaItems_eq_iff
  | discoveryEnabled => exact readBool?_eq_some
  | scanInterval => exact Decimal.uint64?_eq_some.trans isNumber_iff.symm
  | discoveryTimeout => exact Decimal.uint64?_eq_some.trans isNumber_iff.symm

theorem Means.unique {x : Setting} {value : String} {v w : x.Value} (hv : x.Means value v)
    (hw : x.Means value w) : v = w :=
  Option.some.inj ((read?_eq_some.2 hv).symm.trans (read?_eq_some.2 hw))

theorem apply_override_eq_some {x : Setting} {value : String} {c c' : Config} :
    x.override.apply value c = some c' ↔ ∃ v, x.Means value v ∧ x.set v c = c' := by
  simp only [← read?_eq_some, override, Option.bind_eq_bind, Option.pure_def,
    Option.bind_eq_some_iff, Option.some.injEq]

theorem apply_override_eq_none {x : Setting} {value : String} {c : Config} :
    x.override.apply value c = none ↔ ∀ v, ¬ x.Means value v := by
  simp [Option.eq_none_iff_forall_ne_some, apply_override_eq_some]

/-! ### Parts of a configuration -/

@[simp]
theorem get_set (x : Setting) (v : x.Value) (c : Config) : x.get (x.set v c) = v := by
  cases x <;> rfl

theorem get_set_of_ne {x y : Setting} (h : y ≠ x) (v : x.Value) (c : Config) :
    y.get (x.set v c) = y.get c := by
  cases x <;> cases y <;> first | rfl | exact absurd rfl h

end Setting

/-- The parts of a configuration that have no variable. -/
def others (c : Config) :=
  (c.server.bindAddress, c.discovery.settleDelayMs, c.discovery.servicePort, c.services,
    c.chaos.jvmPort, c.chaos.commandTimeoutMs, c.chaos.sweepIntervalMs, c.catalog)

theorem others_set (x : Setting) (v : x.Value) (c : Config) : (x.set v c).others = c.others := by
  cases x <;> rfl

/-- A configuration consists of the seven settings and the other parts. -/
theorem eq_of_settings {c c' : Config} (settings : ∀ x : Setting, x.get c' = x.get c)
    (rest : c'.others = c.others) : c' = c := by
  obtain ⟨⟨bind, port⟩, ⟨enabled, scan, timeout, settle, servicePort⟩, services,
    ⟨name, jvmPort, command, sweep, kubectl, names⟩, catalog⟩ := c
  obtain ⟨⟨bind', port'⟩, ⟨enabled', scan', timeout', settle', servicePort'⟩, services',
    ⟨name', jvmPort', command', sweep', kubectl', names'⟩, catalog'⟩ := c'
  cases rest
  cases settings .portNumber
  cases settings .namespaceName
  cases settings .kubectl
  cases settings .protectedNames
  cases settings .discoveryEnabled
  cases settings .scanInterval
  cases settings .discoveryTimeout
  rfl

/-! ### Runs -/

section

variable (lookup : String → Option String)

/-- Whether `c'` is `c` after the variables of some settings: those that are set say what their
settings are, and everything else is as before. -/
structure Carried (xs : List Setting) (c c' : Config) : Prop where
  set : ∀ x ∈ xs, ∀ value, lookup x.key = some value → x.Means value (x.get c')
  kept : ∀ x : Setting, (x ∈ xs → lookup x.key = none) → x.get c' = x.get c
  rest : c'.others = c.others

/-- Whether a setting has a variable that does not mean a value of it. -/
def Unread (x : Setting) : Prop := ∃ value, lookup x.key = some value ∧ ∀ v, ¬ x.Means value v

variable {lookup} {x : Setting} {xs : List Setting} {value : String} {c c' : Config}

theorem Carried.refl (c : Config) : Carried lookup [] c c := by
  constructor
  · simp
  · simp
  · rfl

theorem Carried.unset (unset : lookup x.key = none) (h : Carried lookup xs c c') :
    Carried lookup (x :: xs) c c' where
  set := by
    intro y member value hset
    rcases List.mem_cons.1 member with rfl | later
    · cases unset.symm.trans hset
    · exact h.set y later value hset
  kept := by
    intro y hunset
    exact h.kept y fun later => hunset (List.mem_cons_of_mem x later)
  rest := h.rest

/-- What a variable says of its setting stays, since no later one is of the same setting. -/
theorem Carried.read {v : x.Value} (fresh : x ∉ xs) (hset : lookup x.key = some value)
    (means : x.Means value v) (h : Carried lookup xs (x.set v c) c') :
    Carried lookup (x :: xs) c c' where
  set := by
    intro y member value' hset'
    rcases List.mem_cons.1 member with rfl | later
    · cases hset.symm.trans hset'
      rw [h.kept y fun later => absurd later fresh, Setting.get_set]
      exact means
    · exact h.set y later value' hset'
  kept := by
    intro y hunset
    have hne : y ≠ x := by
      rintro rfl
      cases hset.symm.trans (hunset List.mem_cons_self)
    rw [h.kept y fun later => hunset (List.mem_cons_of_mem x later), Setting.get_set_of_ne hne]
  rest := h.rest.trans (others_set x v c)

theorem Carried.readable (h : Carried lookup xs c c') : ∀ x ∈ xs, ¬ Unread lookup x := by
  rintro x member ⟨value, hset, unread⟩
  exact unread (x.get c') (h.set x member value hset)

theorem Carried.unique {c'' : Config} (h : Carried lookup xs c c') (h' : Carried lookup xs c c'') :
    c' = c'' := by
  refine eq_of_settings (fun x => ?_) (h.rest.trans h'.rest.symm)
  by_cases hunset : x ∈ xs → lookup x.key = none
  · rw [h.kept x hunset, h'.kept x hunset]
  · obtain ⟨member, hset⟩ := Classical.not_imp.1 hunset
    obtain ⟨value, hset⟩ := Option.ne_none_iff_exists'.1 hset
    exact (h.set x member value hset).unique (h'.set x member value hset)

/-- Variables that can be read are carried out, and those after them are looked at. -/
theorem exists_carried (distinct : xs.Nodup) (readable : ∀ x ∈ xs, ¬ Unread lookup x)
    (c : Config) (later : List Override) :
    ∃ c', Carried lookup xs c c' ∧
      applyOverrides lookup (xs.map Setting.override ++ later) c =
        applyOverrides lookup later c' := by
  induction xs generalizing c with
  | nil => exact ⟨c, .refl c, rfl⟩
  | cons x xs ih =>
    obtain ⟨fresh, distinct⟩ := List.nodup_cons.1 distinct
    have htail := ih distinct fun y member => readable y (List.mem_cons_of_mem x member)
    rw [List.map_cons, List.cons_append]
    cases hset : lookup x.key with
    | none =>
      obtain ⟨c', carried, happly⟩ := htail c
      exact ⟨c', carried.unset hset, (applyOverrides_of_unset lookup _ c hset).trans happly⟩
    | some value =>
      obtain ⟨v, means⟩ : ∃ v, x.Means value v := by
        by_contra unread
        exact readable x List.mem_cons_self ⟨value, hset, not_exists.1 unread⟩
      have hread : x.override.apply value c = some (x.set v c) :=
        Setting.apply_override_eq_some.2 ⟨v, means, rfl⟩
      obtain ⟨c', carried, happly⟩ := htail (x.set v c)
      exact ⟨c', carried.read fresh hset means,
        (applyOverrides_of_read lookup _ c hset hread).trans happly⟩

theorem Carried.applyOverrides (distinct : xs.Nodup) (h : Carried lookup xs c c')
    (later : List Override) :
    applyOverrides lookup (xs.map Setting.override ++ later) c =
      applyOverrides lookup later c' := by
  obtain ⟨c₁, carried, happly⟩ := exists_carried distinct h.readable c later
  rw [happly, carried.unique h]

end

/-! ### The environment -/

/-- What the environment leaves of a configuration, and what it answers. -/
inductive Overridden (lookup : String → Option String) (c : Config) :
    Config × Except ConfigProblem Unit → Prop where
  | stopped {before after : List Setting} {x : Setting} {value : String} {c' : Config}
      (order : Setting.all = before ++ x :: after) (set : lookup x.key = some value)
      (unread : ∀ v, ¬ x.Means value v) (carried : Carried lookup before c c') :
      Overridden lookup c (c', .error (.invalidVariable x.key value))
  | finished {c' : Config} (carried : Carried lookup Setting.all c c') :
      Overridden lookup c (c', c'.check)

theorem nodup_all : Setting.all.Nodup := by decide

theorem nodup_before {before after : List Setting} {x : Setting}
    (order : Setting.all = before ++ x :: after) : before.Nodup :=
  (List.nodup_append.1 (order ▸ nodup_all)).1

theorem before_eq {before after : List Setting} {x : Setting}
    (order : Setting.all = before ++ x :: after) : before = Setting.all.takeWhile (· ≠ x) := by
  have hall := nodup_all
  rw [order, List.nodup_append] at hall
  have hbefore : ∀ y ∈ before, decide (y ≠ x) = true := fun y member =>
    decide_eq_true (hall.2.2 y member x List.mem_cons_self)
  rw [order, List.takeWhile_append_of_pos hbefore, List.takeWhile_cons_of_neg (by simp),
    List.append_nil]

section

variable {lookup : String → Option String} {c c' : Config}

theorem applyEnvironment_of_stopped {before after : List Setting} {x : Setting} {value : String}
    (order : Setting.all = before ++ x :: after) (hset : lookup x.key = some value)
    (unread : ∀ v, ¬ x.Means value v) (carried : Carried lookup before c c') :
    applyEnvironment lookup c = (c', .error (.invalidVariable x.key value)) := by
  have happly : applyOverrides lookup overrides c =
      (c', .error (.invalidVariable x.key value)) := by
    rw [overrides_eq_map, order, List.map_append, List.map_cons,
      carried.applyOverrides (nodup_before order)]
    exact applyOverrides_of_unread lookup _ c' hset (Setting.apply_override_eq_none.2 unread)
  simp only [applyEnvironment, happly]

theorem applyEnvironment_of_finished (carried : Carried lookup Setting.all c c') :
    applyEnvironment lookup c = (c', c'.check) := by
  have happly : applyOverrides lookup overrides c = (c', .ok ()) := by
    have hrun := carried.applyOverrides nodup_all []
    rw [List.append_nil] at hrun
    exact hrun
  simp only [applyEnvironment, happly]

end

theorem overridden_applyEnvironment (lookup : String → Option String) (c : Config) :
    Overridden lookup c (applyEnvironment lookup c) := by
  by_cases readable : ∀ x ∈ Setting.all, ¬ Unread lookup x
  · obtain ⟨c', carried, -⟩ := exists_carried nodup_all readable c []
    rw [applyEnvironment_of_finished carried]
    exact .finished carried
  · obtain ⟨x, member, unread⟩ : ∃ x ∈ Setting.all, Unread lookup x := by
      simpa using readable
    obtain ⟨x, before, after, order, ⟨value, hset, unread⟩, readable⟩ :=
      exists_isFirst member unread
    obtain ⟨c', carried, -⟩ := exists_carried (nodup_before order) readable c []
    rw [applyEnvironment_of_stopped order hset unread carried]
    exact .stopped order hset unread carried

/-- The environment leaves what the variables say that come before the first one that cannot be
read, and reports this one. If all can be read, then it leaves what they say and checks that. -/
theorem overridden_iff (lookup : String → Option String) (c : Config)
    (r : Config × Except ConfigProblem Unit) :
    applyEnvironment lookup c = r ↔ Overridden lookup c r := by
  constructor
  · intro h
    rw [← h]
    exact overridden_applyEnvironment lookup c
  · intro h
    cases h with
    | stopped order set unread carried =>
      exact applyEnvironment_of_stopped order set unread carried
    | finished carried => exact applyEnvironment_of_finished carried

example :
    let lookup : String → Option String := fun key =>
      if key = "CHAOS_NAMESPACE" then some "lab"
      else if key = "FAULT_DISCOVERY_ENABLED" then some "yes"
      else if key = "FAULT_DISCOVERY_TIMEOUT_MS" then some "250"
      else none
    let left := applyEnvironment lookup {}
    left.2 = .error (.invalidVariable "FAULT_DISCOVERY_ENABLED" "yes") ∧
      left.1.chaos.namespaceName = "lab" ∧ left.1.discovery.timeoutMs = 5000 := by
  decide

/-- The names that stop-all leaves alone are those of their variable, once the port is read. -/
theorem protectedNames_applyEnvironment (lookup : String → Option String) {c : Config}
    {value : String} (set : lookup "CHAOS_PROTECTED_RESOURCES" = some value)
    (reached : ∀ port,
      (applyEnvironment lookup c).2 ≠ .error (.invalidVariable "CONTROL_PLANE_PORT" port)) :
    (applyEnvironment lookup c).1.chaos.protectedNames = Text.commaItems value := by
  have hread : ∀ {xs : List Setting} {c' : Config}, Carried lookup xs c c' →
      Setting.protectedNames ∈ xs → c'.chaos.protectedNames = Text.commaItems value := by
    intro xs c' carried member
    exact (Text.commaItems_eq_iff.2 (carried.set .protectedNames member value set)).symm
  have h := overridden_applyEnvironment lookup c
  generalize applyEnvironment lookup c = r at reached h
  cases h with
  | @stopped before after x text c' order hset unread carried =>
    refine hread carried ?_
    rw [before_eq order]
    cases x with
    | portNumber => exact absurd rfl (reached text)
    | namespaceName => exact absurd rfl (unread text)
    | kubectl => exact absurd rfl (unread text)
    | protectedNames => exact absurd (Text.commaItems_eq_iff.1 rfl) (unread (Text.commaItems text))
    | discoveryEnabled => decide
    | scanInterval => decide
    | discoveryTimeout => decide
  | finished carried => exact hread carried (by decide)

end FaultPlane.Config
