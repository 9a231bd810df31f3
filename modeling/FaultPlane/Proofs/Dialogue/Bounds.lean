import FaultPlane.Proofs.Dialogue.Concurrency

/-!
# Dialogues within bounds

Bounds say what a dialogue may rely on whenever it makes a step, which steps it may make, and which
calls. A dialogue within its bounds keeps to them whatever is answered, and whatever other dialogues
do to the state meanwhile, if they rely on the same (`Concurrent.within`). So it does when it runs
by itself (`Within.steps_run`, `Within.calls`).
-/

namespace FaultPlane

open Cluster (ClusterCall)

structure Bounds (σ : Type) where
  /-- What holds of the state between any two steps. -/
  holds : σ → Prop
  steps : σ → σ → Prop
  asks : Call → Prop

/-- The bounds of a dialogue over a part of the state. -/
def Bounds.onPart {σ τ : Type} (b : Bounds σ) (get : τ → σ) : Bounds τ where
  holds t := b.holds (get t)
  steps t t' := b.steps (get t) (get t')
  asks := b.asks

namespace Dialogue

variable {σ τ α β : Type}

/-- A dialogue keeps to its bounds as long as they hold of every state that it meets. -/
inductive Within (b : Bounds σ) : Dialogue σ α → Prop where
  | done (a : α) : Within b (.done a)
  | step {change : σ → σ} {next : σ → Dialogue σ α} (kept : ∀ s, b.holds s → b.holds (change s))
      (moved : ∀ s, b.holds s → b.steps s (change s)) (rest : ∀ s, b.holds s → Within b (next s)) :
      Within b (.step change next)
  | ask {call : Call} {next : call.Answer → Dialogue σ α} (asked : b.asks call)
      (rest : ∀ answer, Within b (next answer)) : Within b (.ask call next)

section

variable {b : Bounds σ}

theorem within_pure (a : α) : (pure a : Dialogue σ α).Within b := .done a

theorem Within.bind {d : Dialogue σ α} {f : α → Dialogue σ β} (h : d.Within b)
    (hf : ∀ a, (f a).Within b) : (d >>= f).Within b := by
  show (d.andThen f).Within b
  induction h with
  | done a => exact hf a
  | step kept moved _ ih => exact .step kept moved ih
  | ask asked _ ih => exact .ask asked ih

theorem within_take {f : σ → α × σ} {g : α → Dialogue σ β}
    (kept : ∀ s, b.holds s → b.holds (f s).2) (moved : ∀ s, b.holds s → b.steps s (f s).2)
    (rest : ∀ s, b.holds s → (g (f s).1).Within b) : (take f >>= g).Within b :=
  .step kept moved rest

theorem within_look {f : σ → α} {g : α → Dialogue σ β} (refl : ∀ s, b.steps s s)
    (rest : ∀ s, b.holds s → (g (f s)).Within b) : (look f >>= g).Within b :=
  .step (fun _ h => h) (fun s _ => refl s) rest

theorem within_cluster {c : ClusterCall} {g : c.Answer → Dialogue σ β} (asked : b.asks (.cluster c))
    (rest : ∀ answer, (g answer).Within b) : (cluster c >>= g).Within b :=
  .ask asked rest

theorem Within.onPart {get : τ → σ} {set : σ → τ → τ} (get_set : ∀ s t, get (set s t) = s)
    {d : Dialogue σ α} (h : d.Within b) : (d.within get set).Within (b.onPart get) := by
  induction h with
  | done a => exact .done a
  | @step change next kept moved _ ih =>
    refine .step (fun t ht => ?_) (fun t ht => ?_) (fun t ht => ih (get t) ht)
    · show b.holds (get (set (change (get t)) t))
      rw [get_set]
      exact kept (get t) ht
    · show b.steps (get t) (get (set (change (get t)) t))
      rw [get_set]
      exact moved (get t) ht
  | ask asked _ ih => exact .ask asked ih

/-! ### One dialogue by itself -/

theorem Within.steps_run {ω : Type} {world : World ω} (refl : ∀ s, b.steps s s)
    (trans : ∀ {s s' s''}, b.steps s s' → b.steps s' s'' → b.steps s s'') {d : Dialogue σ α}
    (h : d.Within b) {s : σ} (hs : b.holds s) (w : ω) : b.steps s (d.run world s w).2.1 := by
  induction h generalizing s w with
  | done a => exact refl s
  | step kept moved _ ih => exact trans (moved s hs) (ih s hs (kept s hs) w)
  | ask _ _ ih => exact ih _ hs _

theorem Within.calls {ω : Type} {world : World ω} {d : Dialogue σ α} (h : d.Within b) {s : σ}
    (hs : b.holds s) (w : ω) : ∀ call ∈ d.calls world s w, b.asks call := by
  induction h generalizing s w with
  | done a =>
    intro call inside
    cases inside
  | step kept _ _ ih => exact ih s hs (kept s hs) w
  | ask asked _ ih =>
    intro call inside
    rcases List.mem_cons.1 inside with rfl | later
    · exact asked
    · exact ih _ hs _ call later

end

end Dialogue

/-! ### Dialogues side by side -/

theorem Concurrent.within {σ ι α : Type} {program : ι → Dialogue σ α} {s₀ s : σ}
    {tasks : List (Task ι σ α)} {b : ι → Bounds σ} (h : Concurrent program s₀ s tasks)
    (holds : σ → Prop) (same : ∀ i, (b i).holds = holds) (start : holds s₀)
    (bounded : ∀ i, (program i).Within (b i)) :
    holds s ∧ ∀ task ∈ tasks, task.rest.Within (b task.label) := by
  induction h with
  | init => exact ⟨start, fun task inside => by cases inside⟩
  | @start s tasks i h ih =>
    refine ⟨ih.1, fun task inside => ?_⟩
    rcases List.mem_append.1 inside with old | new
    · exact ih.2 task old
    · rw [List.mem_singleton.1 new]
      exact bounded i
  | @step s tasks n i had change next h here ih =>
    cases ih.2 _ (List.mem_of_getElem? here) with
    | step kept _ rest =>
      simp only [same] at kept rest
      refine ⟨kept s ih.1, fun task inside => ?_⟩
      rcases List.mem_or_eq_of_mem_set inside with old | rfl
      · exact ih.2 task old
      · exact rest s ih.1
  | @answer s tasks n i had call next a h here ih =>
    cases ih.2 _ (List.mem_of_getElem? here) with
    | ask _ rest =>
      refine ⟨ih.1, fun task inside => ?_⟩
      rcases List.mem_or_eq_of_mem_set inside with old | rfl
      · exact ih.2 task old
      · exact rest a

end FaultPlane
