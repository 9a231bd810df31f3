import FaultPlane.Proofs.Dialogue.Calls

/-!
# Dialogues side by side

Dialogues over one state may be under way at the same time. Each goes on step by step, and between
two steps of one the others may go on.
-/

namespace FaultPlane

open Dialogue (Exchange)

variable {σ ι α : Type}

/-- A dialogue that is under way: the exchanges that it has had, and what is left of it. -/
structure Task (ι σ α : Type) where
  label : ι
  had : List Exchange
  rest : Dialogue σ α

/-- What can come of dialogues that start at any time and go on in any order, whatever is answered
to them. -/
inductive Concurrent (program : ι → Dialogue σ α) (s₀ : σ) : σ → List (Task ι σ α) → Prop where
  | init : Concurrent program s₀ s₀ []
  | start {s : σ} {tasks : List (Task ι σ α)} (i : ι) (h : Concurrent program s₀ s tasks) :
      Concurrent program s₀ s (tasks ++ [⟨i, [], program i⟩])
  | step {s : σ} {tasks : List (Task ι σ α)} {n : Nat} {i : ι} {had : List Exchange}
      {change : σ → σ} {next : σ → Dialogue σ α} (h : Concurrent program s₀ s tasks)
      (here : tasks[n]? = some ⟨i, had, .step change next⟩) :
      Concurrent program s₀ (change s) (tasks.set n ⟨i, had, next s⟩)
  | answer {s : σ} {tasks : List (Task ι σ α)} {n : Nat} {i : ι} {had : List Exchange}
      {call : Call} {next : call.Answer → Dialogue σ α} (a : call.Answer)
      (h : Concurrent program s₀ s tasks) (here : tasks[n]? = some ⟨i, had, .ask call next⟩) :
      Concurrent program s₀ s (tasks.set n ⟨i, had ++ [⟨call, a⟩], next a⟩)

/-! ### Tasks by their places -/

theorem getElem?_set_cases {tasks : List α} {new task : α} {i j : Nat}
    (h : (tasks.set i new)[j]? = some task) :
    j = i ∧ task = new ∨ i ≠ j ∧ tasks[j]? = some task := by
  by_cases hij : i = j
  · subst hij
    rw [List.getElem?_set_self'] at h
    cases hold : tasks[i]? with
    | none =>
      rw [hold] at h
      cases h
    | some old =>
      rw [hold] at h
      cases h
      exact Or.inl ⟨rfl, rfl⟩
  · rw [List.getElem?_set_ne hij] at h
    exact Or.inr ⟨hij, h⟩

theorem getElem?_append_cases {tasks : List α} {new task : α} {j : Nat}
    (h : (tasks ++ [new])[j]? = some task) :
    j = tasks.length ∧ task = new ∨ tasks[j]? = some task := by
  rcases Nat.lt_or_ge j tasks.length with inside | beyond
  · rw [List.getElem?_append_left inside] at h
    exact Or.inr h
  · rw [List.getElem?_append_right beyond] at h
    obtain ⟨hlast, hnew⟩ := List.getElem?_eq_some_iff.1 h
    rw [List.length_singleton] at hlast
    refine Or.inl ⟨by omega, ?_⟩
    rw [← hnew, List.getElem_singleton]

/-! ### Dialogues whose results do not matter -/

namespace Dialogue

/-- A dialogue whose result does not matter. -/
def void (d : Dialogue σ α) : Dialogue σ Unit := d.andThen fun _ => .done ()

theorem void_bind_pure {β : Type} (d : Dialogue σ α) (f : α → β) :
    (d >>= fun a => pure (f a)).void = d.void := by
  show (d.andThen fun a => .done (f a)).andThen (fun _ => .done ()) = d.andThen fun _ => .done ()
  induction d with
  | done a => rfl
  | step change next ih => exact congrArg (Dialogue.step change) (funext ih)
  | ask call next ih => exact congrArg (Dialogue.ask call) (funext ih)

end Dialogue

/-! ### One dialogue after the other -/

/-- A dialogue that has certain exchanges takes the state to another one. -/
inductive Dialogue.Yields : Dialogue σ α → List Exchange → σ → σ → Prop where
  | done (a : α) (s : σ) : Yields (.done a) [] s s
  | step {change : σ → σ} {next : σ → Dialogue σ α} {exchanges : List Exchange} {s s' : σ}
      (rest : Yields (next s) exchanges (change s) s') : Yields (.step change next) exchanges s s'
  | ask {call : Call} {next : call.Answer → Dialogue σ α} {answer : call.Answer}
      {exchanges : List Exchange} {s s' : σ} (rest : Yields (next answer) exchanges s s') :
      Yields (.ask call next) (⟨call, answer⟩ :: exchanges) s s'

theorem Dialogue.yields_run {ω : Type} (world : World ω) (d : Dialogue σ α) (s : σ) (w : ω) :
    d.Yields (d.transcript world s w) s (d.run world s w).2.1 := by
  induction d generalizing s w with
  | done a => exact .done a s
  | step change next ih => exact .step (ih s (change s) w)
  | ask call next ih => exact .ask (ih _ s _)

/-- A task may go on to its end while the others wait. -/
theorem Concurrent.finish {program : ι → Dialogue σ α} {s₀ s s' : σ} {tasks : List (Task ι σ α)}
    {i : ι} {had exchanges : List Exchange} {d : Dialogue σ α} (yields : d.Yields exchanges s s')
    (h : Concurrent program s₀ s (tasks ++ [⟨i, had, d⟩])) :
    ∃ a, Concurrent program s₀ s' (tasks ++ [⟨i, had ++ exchanges, .done a⟩]) := by
  have hlast : ∀ task : Task ι σ α, (tasks ++ [task])[tasks.length]? = some task := by simp
  have hset : ∀ task task' : Task ι σ α,
      (tasks ++ [task]).set tasks.length task' = tasks ++ [task'] := by simp
  induction yields generalizing had with
  | done a s =>
    rw [List.append_nil]
    exact ⟨a, h⟩
  | @step change next exchanges s s' _ ih =>
    have hstep := h.step (hlast _)
    rw [hset] at hstep
    exact ih hstep
  | @ask call next answer exchanges s s' _ ih =>
    have hanswer := h.answer answer (hlast _)
    rw [hset] at hanswer
    rw [List.append_cons]
    exact ih hanswer

end FaultPlane
