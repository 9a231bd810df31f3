import FaultPlane.Proofs.Dialogue.Concurrency

/-!
# Timelines

A timeline keeps the turns of dialogues that go on side by side, the earliest first. The turns of
one dialogue lead from its beginning to what is left of it (`Timeline.leads`), so what a dialogue
was told before can be read off from what it does next.
-/

namespace FaultPlane

open Dialogue (Exchange)

variable {σ ι α : Type}

namespace Dialogue

/-- Some turns of a dialogue lead to what is left of it. A turn is a call with its answer, or a
step. -/
inductive Leads : Dialogue σ α → List (Option Exchange) → Dialogue σ α → Prop where
  | refl (d : Dialogue σ α) : Leads d [] d
  | step {change : σ → σ} {next : σ → Dialogue σ α} {turns : List (Option Exchange)}
      {d : Dialogue σ α} (s : σ) (rest : Leads (next s) turns d) :
      Leads (.step change next) (none :: turns) d
  | ask {call : Call} {next : call.Answer → Dialogue σ α} {turns : List (Option Exchange)}
      {d : Dialogue σ α} (answer : call.Answer) (rest : Leads (next answer) turns d) :
      Leads (.ask call next) (some ⟨call, answer⟩ :: turns) d

theorem Leads.trans {d d' d'' : Dialogue σ α} {turns turns' : List (Option Exchange)}
    (h : Leads d turns d') (h' : Leads d' turns' d'') : Leads d (turns ++ turns') d'' := by
  induction h with
  | refl d => exact h'
  | step s _ ih => exact .step s (ih h')
  | ask answer _ ih => exact .ask answer (ih h')

end Dialogue

/-- The place of a task and its turn. -/
abbrev Turn := Nat × Option Exchange

/-- What can come of dialogues that start at any time and go on in any order, whatever is answered
to them, and the turns that lead there. -/
inductive Timeline (program : ι → Dialogue σ α) (s₀ : σ) :
    σ → List (ι × Dialogue σ α) → List Turn → Prop where
  | init : Timeline program s₀ s₀ [] []
  | start {s : σ} {tasks : List (ι × Dialogue σ α)} {turns : List Turn} (i : ι)
      (h : Timeline program s₀ s tasks turns) :
      Timeline program s₀ s (tasks ++ [(i, program i)]) turns
  | step {s : σ} {tasks : List (ι × Dialogue σ α)} {turns : List Turn} {n : Nat} {i : ι}
      {change : σ → σ} {next : σ → Dialogue σ α} (h : Timeline program s₀ s tasks turns)
      (here : tasks[n]? = some (i, .step change next)) :
      Timeline program s₀ (change s) (tasks.set n (i, next s)) (turns ++ [(n, none)])
  | answer {s : σ} {tasks : List (ι × Dialogue σ α)} {turns : List Turn} {n : Nat} {i : ι}
      {call : Call} {next : call.Answer → Dialogue σ α} (a : call.Answer)
      (h : Timeline program s₀ s tasks turns) (here : tasks[n]? = some (i, .ask call next)) :
      Timeline program s₀ s (tasks.set n (i, next a)) (turns ++ [(n, some ⟨call, a⟩)])

/-- The turns of one task. -/
def ownTurns (n : Nat) (turns : List Turn) : List (Option Exchange) :=
  (turns.filter fun turn => turn.1 = n).map (·.2)

section

variable {n : Nat} {turns : List Turn} {e e' : Option Exchange}

theorem mem_ownTurns : e ∈ ownTurns n turns ↔ (n, e) ∈ turns := by
  simp [ownTurns]

theorem ownTurns_append_self (turns : List Turn) (n : Nat) (e : Option Exchange) :
    ownTurns n (turns ++ [(n, e)]) = ownTurns n turns ++ [e] := by
  simp [ownTurns]

theorem ownTurns_append_of_ne (turns : List Turn) {m : Nat} (other : m ≠ n)
    (e : Option Exchange) : ownTurns n (turns ++ [(m, e)]) = ownTurns n turns := by
  simp [ownTurns, other]

theorem ownTurns_cons_self (turns : List Turn) (n : Nat) (e : Option Exchange) :
    ownTurns n ((n, e) :: turns) = e :: ownTurns n turns := by
  simp [ownTurns]

theorem ownTurns_cons_of_ne {turn : Turn} (turns : List Turn) (other : turn.1 ≠ n) :
    ownTurns n (turn :: turns) = ownTurns n turns := by
  simp [ownTurns, other]

/-- The first turn of a task comes before every turn of it that is not the same. -/
theorem lt_of_ownTurns {later : List (Option Exchange)} (first : ownTurns n turns = e :: later)
    (once : e ∉ later) {t t' : Nat} (here : turns[t]? = some (n, e))
    (there : turns[t']? = some (n, e')) (differ : e' ≠ e) : t < t' := by
  induction turns generalizing t t' with
  | nil => cases here
  | cons turn turns ih =>
    obtain ⟨m, e₀⟩ := turn
    by_cases own : m = n
    · subst own
      rw [ownTurns_cons_self] at first
      obtain ⟨rfl, hlater⟩ := List.cons.inj first
      rw [← hlater] at once
      cases t with
      | succ t =>
        have again : turns[t]? = some (m, e₀) := here
        exact absurd (mem_ownTurns.2 (List.mem_of_getElem? again)) once
      | zero =>
        cases t' with
        | zero =>
          cases there
          exact absurd rfl differ
        | succ t' => exact Nat.zero_lt_succ t'
    · rw [ownTurns_cons_of_ne turns own] at first
      cases t with
      | zero =>
        cases here
        exact absurd rfl own
      | succ t =>
        cases t' with
        | zero =>
          cases there
          exact absurd rfl own
        | succ t' => exact Nat.succ_lt_succ (ih first here there)

end

theorem Timeline.lt_length {program : ι → Dialogue σ α} {s₀ s : σ} {tasks : List (ι × Dialogue σ α)}
    {turns : List Turn} (h : Timeline program s₀ s tasks turns) :
    ∀ turn ∈ turns, turn.1 < tasks.length := by
  induction h with
  | init => exact fun turn inside => by cases inside
  | start i _ ih =>
    intro turn inside
    rw [List.length_append]
    exact Nat.lt_add_right 1 (ih turn inside)
  | step _ here ih | answer _ _ here ih =>
    intro turn inside
    rw [List.length_set]
    rcases List.mem_append.1 inside with old | new
    · exact ih turn old
    · rw [List.mem_singleton.1 new]
      exact (List.getElem?_eq_some_iff.1 here).1

/-- One more turn of one task, after turns that lead to what is left of each. -/
theorem leads_set {program : ι → Dialogue σ α} {tasks : List (ι × Dialogue σ α)}
    {turns : List Turn} {m n : Nat} {i j : ι} {d rest : Dialogue σ α} {e : Option Exchange}
    (before : ∀ {n : Nat} {i : ι} {d : Dialogue σ α}, tasks[n]? = some (i, d) →
      (program i).Leads (ownTurns n turns) d)
    (own : (program j).Leads (ownTurns m turns ++ [e]) rest)
    (here : (tasks.set m (j, rest))[n]? = some (i, d)) :
    (program i).Leads (ownTurns n (turns ++ [(m, e)])) d := by
  rcases getElem?_set_cases here with ⟨rfl, new⟩ | ⟨other, old⟩
  · cases new
    rw [ownTurns_append_self]
    exact own
  · rw [ownTurns_append_of_ne turns other]
    exact before old

theorem Timeline.leads {program : ι → Dialogue σ α} {s₀ s : σ} {tasks : List (ι × Dialogue σ α)}
    {turns : List Turn} (h : Timeline program s₀ s tasks turns) {n : Nat} {i : ι}
    {d : Dialogue σ α} (here : tasks[n]? = some (i, d)) :
    (program i).Leads (ownTurns n turns) d := by
  induction h generalizing n i d with
  | init => cases here
  | start j before ih =>
    rcases getElem?_append_cases here with ⟨rfl, new⟩ | old
    · -- A task that has just started has not had a turn.
      have hnone : ownTurns _ _ = [] := List.eq_nil_iff_forall_not_mem.2 fun e inside =>
        absurd (before.lt_length _ (mem_ownTurns.1 inside)) (Nat.lt_irrefl _)
      cases new
      rw [hnone]
      exact .refl _
    · exact ih old
  | step _ there ih => exact leads_set ih ((ih there).trans (.step _ (.refl _))) here
  | answer a _ there ih => exact leads_set ih ((ih there).trans (.ask a (.refl _))) here

end FaultPlane
