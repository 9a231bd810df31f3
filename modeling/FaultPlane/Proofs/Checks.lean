import Mathlib.Data.List.Forall2

/-!
# Checks

A check that consists of several passes if all of them pass, and fails as the first of them that
does. So it comes down to a list of demands (`Decides`).
-/

namespace FaultPlane

variable {ε α β : Type}

/-! ### Checks that pass -/

theorem bind_eq_ok {x : Except ε α} {f : α → Except ε β} {b : β} :
    (x >>= f) = .ok b ↔ ∃ a, x = .ok a ∧ f a = .ok b := by
  cases x with
  | error e =>
    refine iff_of_false (fun h => ?_) ?_
    · cases h
    · rintro ⟨a, h, -⟩
      cases h
  | ok a =>
    constructor
    · intro h
      exact ⟨a, rfl, h⟩
    · rintro ⟨a', h, hf⟩
      cases h
      exact hf

theorem forall₂_of_mapM {f : α → Except ε β} {xs : List α} {ys : List β}
    (h : xs.mapM f = .ok ys) : List.Forall₂ (fun x y => f x = .ok y) xs ys := by
  induction xs generalizing ys with
  | nil =>
    cases h
    exact .nil
  | cons x xs ih =>
    rw [List.mapM_cons] at h
    obtain ⟨y, hy, hrest⟩ := bind_eq_ok.1 h
    obtain ⟨ys', hys, hpure⟩ := bind_eq_ok.1 hrest
    cases hpure
    exact .cons hy (ih hys)

/-! ### Demands -/

/-- A condition, with what is said where it is not met. -/
structure Demand (ε : Type) where
  met : Prop
  problem : ε

/-- Whether a problem is that of the first demand that is not met. -/
def FirstUnmet (problem : ε) : List (Demand ε) → Prop
  | [] => False
  | d :: ds => (¬ d.met ∧ d.problem = problem) ∨ (d.met ∧ FirstUnmet problem ds)

theorem firstUnmet_append (problem : ε) (ds ds' : List (Demand ε)) :
    FirstUnmet problem (ds ++ ds') ↔
      FirstUnmet problem ds ∨ (∀ d ∈ ds, d.met) ∧ FirstUnmet problem ds' := by
  induction ds with
  | nil => simp [FirstUnmet]
  | cons d ds ih =>
    rw [List.cons_append, FirstUnmet, FirstUnmet, ih, List.forall_mem_cons]
    tauto

theorem exists_firstUnmet {ds : List (Demand ε)} :
    (∃ problem, FirstUnmet problem ds) ↔ ∃ d ∈ ds, ¬ d.met := by
  induction ds with
  | nil => simp [FirstUnmet]
  | cons d ds ih =>
    simp only [FirstUnmet, exists_or, exists_and_left, ih, List.exists_mem_cons_iff]
    by_cases met : d.met <;> simp [met]

/-- A check that fails as the first of some demands that is not met. -/
def Decides (x : Except ε α) (ds : List (Demand ε)) : Prop :=
  ∀ problem, x = .error problem ↔ FirstUnmet problem ds

theorem decides_ok (a : α) : Decides (.ok a : Except ε α) [] := by
  intro problem
  refine iff_of_false ?_ not_false
  intro h
  cases h

/-- A check passes if every demand is met. -/
theorem Decides.ok_iff {x : Except ε α} {ds : List (Demand ε)} (h : Decides x ds) :
    (∃ a, x = .ok a) ↔ ∀ d ∈ ds, d.met := by
  have herror : (∃ problem, x = .error problem) ↔ ∃ d ∈ ds, ¬ d.met :=
    (exists_congr h).trans exists_firstUnmet
  cases x with
  | ok a =>
    refine iff_of_true ⟨a, rfl⟩ fun d member => ?_
    by_contra unmet
    obtain ⟨problem, hproblem⟩ := herror.2 ⟨d, member, unmet⟩
    cases hproblem
  | error problem =>
    obtain ⟨d, member, unmet⟩ := herror.1 ⟨problem, rfl⟩
    refine iff_of_false ?_ fun met => unmet (met d member)
    rintro ⟨a, ha⟩
    cases ha

theorem Decides.cons {x : Except ε α} {d : Demand ε} {ds : List (Demand ε)}
    (met : d.met → Decides x ds) (unmet : ¬ d.met → x = .error d.problem) :
    Decides x (d :: ds) := by
  intro problem
  by_cases h : d.met
  · simp only [FirstUnmet, h, not_true_eq_false, false_and, true_and, false_or]
    exact met h problem
  · simp only [FirstUnmet, h, not_false_eq_true, false_and, true_and, or_false, unmet h,
      Except.error.injEq]

theorem Decides.unless {p : Prop} [Decidable p] {x y : Except ε α} {d : Demand ε}
    {ds : List (Demand ε)} (hp : p ↔ ¬ d.met) (hx : x = .error d.problem) (hy : Decides y ds) :
    Decides (if p then x else y) (d :: ds) := by
  refine Decides.cons (fun met => ?_) fun unmet => ?_
  · rw [if_neg fun h => hp.1 h met]
    exact hy
  · rw [if_pos (hp.2 unmet), hx]

theorem Decides.provided {p : Prop} [Decidable p] {x y : Except ε α} {d : Demand ε}
    {ds : List (Demand ε)} (hp : p ↔ d.met) (hx : x = .error d.problem) (hy : Decides y ds) :
    Decides (if p then y else x) (d :: ds) := by
  rw [← ite_not]
  exact Decides.unless (not_congr hp) hx hy

theorem Decides.bind {x : Except ε α} {f : α → Except ε β} {ds ds' : List (Demand ε)}
    (hx : Decides x ds) (hf : ∀ a, x = .ok a → Decides (f a) ds') :
    Decides (x >>= f) (ds ++ ds') := by
  intro problem
  rw [firstUnmet_append, ← hx problem, ← hx.ok_iff]
  cases x with
  | ok a =>
    have hnext : (.ok a >>= f) = f a := rfl
    rw [hnext, hf a rfl problem]
    simp
  | error e =>
    have hstop : (.error e >>= f) = .error e := rfl
    rw [hstop]
    simp

/-- A check of one thing after the other makes the demands of each in turn. -/
theorem Decides.mapM {f : α → Except ε β} {demand : α → Demand ε}
    (h : ∀ a, Decides (f a) [demand a]) (xs : List α) :
    Decides (xs.mapM f) (xs.map demand) := by
  induction xs with
  | nil => exact decides_ok []
  | cons x xs ih =>
    rw [List.mapM_cons, List.map_cons, ← List.singleton_append]
    refine (h x).bind fun y _ => ?_
    rw [← List.append_nil (xs.map demand)]
    exact ih.bind fun ys _ => decides_ok (y :: ys)

/-! ### Elements that are new -/

/-- A list without repetitions, none of it earlier, starts with a new element, which is an earlier
one to the rest. -/
theorem fresh_cons_iff {earlier rest : List α} {x : α} :
    (x :: rest).Nodup ∧ (x :: rest).Disjoint earlier ↔
      x ∉ earlier ∧ rest.Nodup ∧ rest.Disjoint (x :: earlier) := by
  rw [List.nodup_cons, List.disjoint_cons_left, List.disjoint_cons_right]
  tauto

end FaultPlane
