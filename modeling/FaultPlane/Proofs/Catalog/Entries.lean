import FaultPlane.Catalog.Basic

/-!
# First entries of a catalog

A look-up finds the first entry that fits, of the first service of the name. If this entry also has
another property, then it is the first one that has both (`FirstEntry.and`), so a second look-up for
what the first one has found ends at the same entry.
-/

namespace FaultPlane

/-- Whether an element is the first one of a list with a property. -/
def IsFirst {α : Type} (P : α → Prop) (xs : List α) (x : α) : Prop :=
  ∃ before after, xs = before ++ x :: after ∧ P x ∧ ∀ y ∈ before, ¬ P y

section

variable {α : Type} {P Q : α → Prop} {p : α → Bool} {xs : List α} {x : α}

theorem find?_eq_some_iff_isFirst (hp : ∀ x, p x = true ↔ P x) :
    xs.find? p = some x ↔ IsFirst P xs x := by
  have hnot : ∀ x, (!p x) = true ↔ ¬ P x := fun x => by
    rw [← hp, Bool.not_eq_true, Bool.not_eq_true']
  rw [List.find?_eq_some_iff_append, hp]
  simp only [hnot]
  constructor
  · rintro ⟨here, before, after, hxs, hbefore⟩
    exact ⟨before, after, hxs, here, hbefore⟩
  · rintro ⟨before, after, hxs, here, hbefore⟩
    exact ⟨here, before, after, hxs, hbefore⟩

theorem IsFirst.and (h : IsFirst P xs x) (also : Q x) : IsFirst (fun y => P y ∧ Q y) xs x := by
  obtain ⟨before, after, hxs, here, hbefore⟩ := h
  exact ⟨before, after, hxs, ⟨here, also⟩, fun y member both => hbefore y member both.1⟩

theorem exists_isFirst (member : x ∈ xs) (here : P x) : ∃ y, IsFirst P xs y := by
  classical
  have hsome : (xs.find? fun y => decide (P y)).isSome :=
    List.find?_isSome.2 ⟨x, member, decide_eq_true here⟩
  obtain ⟨y, hy⟩ := Option.isSome_iff_exists.1 hsome
  exact ⟨y, (find?_eq_some_iff_isFirst fun _ => decide_eq_true_iff).1 hy⟩

end

namespace Catalog

variable {c : Catalog} {service interfaceName methodName : String} {P Q : Interface → Prop}
  {i : Interface}

/-- Whether an entry is the first one with a property, of the first service of a name. -/
def FirstEntry (c : Catalog) (service : String) (P : Interface → Prop) (i : Interface) : Prop :=
  ∃ s, IsFirst (·.name = service) c.services s ∧ IsFirst P s.interfaces i

theorem FirstEntry.and (h : c.FirstEntry service P i) (also : Q i) :
    c.FirstEntry service (fun j => P j ∧ Q j) i := by
  obtain ⟨s, hs, hi⟩ := h
  exact ⟨s, hs, hi.and also⟩

theorem FirstEntry.holds (h : c.FirstEntry service P i) : P i := by
  obtain ⟨s, -, before, after, -, here, -⟩ := h
  exact here

theorem FirstEntry.congr (h : c.FirstEntry service P i) (same : ∀ j, P j ↔ Q j) :
    c.FirstEntry service Q i := by
  rwa [← funext fun j => propext (same j)]

/-- Whether the first service of a name has an entry with a property. -/
def HasEntry (c : Catalog) (service : String) (P : Interface → Prop) : Prop :=
  ∃ s, IsFirst (·.name = service) c.services s ∧ ∃ i ∈ s.interfaces, P i

theorem HasEntry.imp (h : c.HasEntry service P) (weaker : ∀ i, P i → Q i) :
    c.HasEntry service Q := by
  obtain ⟨s, hs, i, member, here⟩ := h
  exact ⟨s, hs, i, member, weaker i here⟩

theorem exists_firstEntry_iff : (∃ i, c.FirstEntry service P i) ↔ c.HasEntry service P := by
  constructor
  · rintro ⟨i, s, hs, before, after, hsplit, here, -⟩
    refine ⟨s, hs, i, ?_, here⟩
    rw [hsplit]
    simp
  · rintro ⟨s, hs, i, member, here⟩
    obtain ⟨j, hj⟩ := exists_isFirst member here
    exact ⟨j, s, hs, hj⟩

/-! ### Look-ups -/

theorem find?_interfaces {p : Interface → Bool} (hp : ∀ j, p j = true ↔ P j) :
    (c.interfaces service).find? p = some i ↔ c.FirstEntry service P i := by
  have hservice : ∀ s, c.services.find? (·.name == service) = some s ↔
      IsFirst (·.name = service) c.services s :=
    fun s => find?_eq_some_iff_isFirst fun s => beq_iff_eq
  unfold interfaces FirstEntry
  simp only [← hservice]
  cases hfound : c.services.find? (·.name == service) with
  | none => simp
  | some s => simp [find?_eq_some_iff_isFirst hp]

theorem methodFor?_eq_some {name method : String} :
    c.methodFor? service name = some method ↔
      ∃ i, c.FirstEntry service (·.name = name) i ∧ i.methodName = method := by
  simp only [methodFor?, Option.map_eq_some_iff, find?_interfaces fun _ => beq_iff_eq]

theorem interfaceFor?_eq_some {method name : String} :
    c.interfaceFor? service method = some name ↔
      ∃ i, c.FirstEntry service (·.methodName = method) i ∧ i.name = name := by
  simp only [interfaceFor?, Option.map_eq_some_iff, find?_interfaces fun _ => beq_iff_eq]

theorem interfaceFor?_eq_none {method : String} :
    c.interfaceFor? service method = none ↔ ¬ c.HasEntry service (·.methodName = method) := by
  rw [← exists_firstEntry_iff, Option.eq_none_iff_forall_ne_some]
  simp only [ne_eq, interfaceFor?_eq_some]
  constructor
  · rintro hnone ⟨i, first⟩
    exact hnone i.name ⟨i, first, rfl⟩
  · rintro hnone name ⟨i, first, -⟩
    exact hnone ⟨i, first⟩

theorem fits_iff (j : Interface) :
    (j.name == interfaceName && j.methodName == methodName) = true ↔
      j.name = interfaceName ∧ j.methodName = methodName := by
  rw [Bool.and_eq_true, beq_iff_eq, beq_iff_eq]

theorem listedClass?_of_firstEntry
    (first : c.FirstEntry service (fun j => j.name = interfaceName ∧ j.methodName = methodName) i) :
    c.listedClass? service interfaceName methodName = i.className.filter (· ≠ "") := by
  rw [listedClass?, (find?_interfaces fits_iff).2 first]
  rfl

theorem listedClass?_eq_some {name : String} :
    c.listedClass? service interfaceName methodName = some name ↔
      ∃ i, c.FirstEntry service (fun j => j.name = interfaceName ∧ j.methodName = methodName) i ∧
        i.className = some name ∧ name ≠ "" := by
  simp only [listedClass?, Option.filter_eq_some_iff, Option.bind_eq_some_iff,
    find?_interfaces fits_iff, decide_eq_true_eq]
  constructor
  · rintro ⟨⟨i, hi, hclass⟩, filled⟩
    exact ⟨i, hi, hclass, filled⟩
  · rintro ⟨i, hi, hclass, filled⟩
    exact ⟨⟨i, hi, hclass⟩, filled⟩

end Catalog

end FaultPlane
