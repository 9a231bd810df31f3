import FaultPlane.Proofs.Dialogue.Concurrency

/-!
# Dialogues that rely on what they have seen

A state may grow in some respect that no step undoes. What a dialogue has seen of it once is still
there later on, so the dialogue may rely on it, whatever other dialogues do to the state meanwhile
(`Concurrent.grows`).
-/

namespace FaultPlane

variable {σ τ α β ι : Type}

/-- What holds of the state between any two steps, and how the state grows. -/
structure Growth (σ : Type) where
  holds : σ → Prop
  grown : σ → σ → Prop
  refl : ∀ s, grown s s
  trans : ∀ {s s' s''}, grown s s' → grown s' s'' → grown s s''

/-- The growth of a part of the state. -/
def Growth.onPart (g : Growth σ) (get : τ → σ) : Growth τ where
  holds t := g.holds (get t)
  grown t t' := g.grown (get t) (get t')
  refl t := g.refl (get t)
  trans := g.trans

namespace Dialogue

/-- A dialogue that has seen a state keeps to the growth, whatever has come of that state whenever
it goes on. -/
inductive Grows (g : Growth σ) : σ → Dialogue σ α → Prop where
  | done {seen : σ} (a : α) : Grows g seen (.done a)
  | step {seen : σ} {change : σ → σ} {next : σ → Dialogue σ α}
      (kept : ∀ s, g.holds s → g.grown seen s → g.holds (change s))
      (grown : ∀ s, g.grown s (change s))
      (rest : ∀ s, g.holds s → g.grown seen s → Grows g (change s) (next s)) :
      Grows g seen (.step change next)
  | ask {seen : σ} {call : Call} {next : call.Answer → Dialogue σ α}
      (rest : ∀ answer, Grows g seen (next answer)) : Grows g seen (.ask call next)

section

variable {g : Growth σ} {seen later : σ}

theorem grows_pure (a : α) : (pure a : Dialogue σ α).Grows g seen := .done a

theorem Grows.mono {d : Dialogue σ α} (h : d.Grows g seen) (grown : g.grown seen later) :
    d.Grows g later := by
  induction h with
  | done a => exact .done a
  | step kept up rest _ =>
    exact .step (fun s hs hgrown => kept s hs (g.trans grown hgrown)) up
      fun s hs hgrown => rest s hs (g.trans grown hgrown)
  | ask _ ih => exact .ask fun answer => ih answer grown

theorem Grows.bind {d : Dialogue σ α} {f : α → Dialogue σ β} (h : d.Grows g seen)
    (hf : ∀ a later, g.grown seen later → (f a).Grows g later) : (d >>= f).Grows g seen := by
  show (d.andThen f).Grows g seen
  induction h with
  | done a => exact hf a _ (g.refl _)
  | step kept up _ ih =>
    refine .step kept up fun s hs hgrown => ih s hs hgrown fun a later grown => hf a later ?_
    exact g.trans (g.trans hgrown (up s)) grown
  | ask _ ih => exact .ask fun answer => ih answer hf

theorem grows_take {f : σ → α × σ} {next : α → Dialogue σ β}
    (kept : ∀ s, g.holds s → g.grown seen s → g.holds (f s).2) (grown : ∀ s, g.grown s (f s).2)
    (rest : ∀ s, g.holds s → g.grown seen s → (next (f s).1).Grows g (f s).2) :
    (take f >>= next).Grows g seen :=
  .step kept grown rest

theorem grows_look {f : σ → α} {next : α → Dialogue σ β}
    (rest : ∀ s, g.grown seen s → (next (f s)).Grows g s) : (look f >>= next).Grows g seen :=
  .step (fun _ hs _ => hs) g.refl fun s _ grown => rest s grown

theorem grows_cluster {c : Cluster.ClusterCall} {next : c.Answer → Dialogue σ β}
    (rest : ∀ answer, (next answer).Grows g seen) : (cluster c >>= next).Grows g seen :=
  .ask rest

theorem Grows.onPart {get : τ → σ} {set : σ → τ → τ} (get_set : ∀ s t, get (set s t) = s)
    {d : Dialogue σ α} {t : τ} (h : d.Grows g (get t)) :
    (d.within get set).Grows (g.onPart get) t := by
  generalize hseen : get t = seen at h
  induction h generalizing t with
  | done a => exact .done a
  | step kept up _ ih =>
    subst hseen
    refine .step (fun t' ht grown => ?_) (fun t' => ?_) fun t' ht grown => ?_
    · show g.holds (get (set _ t'))
      rw [get_set]
      exact kept (get t') ht grown
    · show g.grown (get t') (get (set _ t'))
      rw [get_set]
      exact up (get t')
    · exact ih (get t') ht grown (get_set _ t')
  | ask _ ih => exact .ask fun answer => ih answer hseen

end

end Dialogue

/-! ### Dialogues side by side -/

theorem Concurrent.grows {program : ι → Dialogue σ α} {s₀ s : σ} {tasks : List (Task ι σ α)}
    {g : Growth σ} (h : Concurrent program s₀ s tasks) (start : g.holds s₀)
    (programs : ∀ i, (program i).Grows g s₀) :
    g.holds s ∧ g.grown s₀ s ∧ ∀ task ∈ tasks, task.rest.Grows g s := by
  induction h with
  | init => exact ⟨start, g.refl _, fun task inside => by cases inside⟩
  | @start s tasks i h ih =>
    obtain ⟨hs, hgrown, hrest⟩ := ih
    refine ⟨hs, hgrown, fun task inside => ?_⟩
    rcases List.mem_append.1 inside with old | new
    · exact hrest task old
    · rw [List.mem_singleton.1 new]
      exact (programs i).mono hgrown
  | @step s tasks n i had change next h here ih =>
    obtain ⟨hs, hgrown, hrest⟩ := ih
    cases hrest _ (List.mem_of_getElem? here) with
    | step kept up rest =>
      refine ⟨kept s hs (g.refl s), g.trans hgrown (up s), fun task inside => ?_⟩
      rcases List.mem_or_eq_of_mem_set inside with old | rfl
      · exact (hrest task old).mono (up s)
      · exact rest s hs (g.refl s)
  | @answer s tasks n i had call next a h here ih =>
    obtain ⟨hs, hgrown, hrest⟩ := ih
    cases hrest _ (List.mem_of_getElem? here) with
    | ask rest =>
      refine ⟨hs, hgrown, fun task inside => ?_⟩
      rcases List.mem_or_eq_of_mem_set inside with old | rfl
      · exact hrest task old
      · exact rest a

end FaultPlane
