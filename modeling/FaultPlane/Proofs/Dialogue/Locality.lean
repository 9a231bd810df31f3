import FaultPlane.Proofs.Dialogue.Concurrency
import Mathlib.Data.List.Nodup

/-!
# Local dialogues

A dialogue is local to a part of the state if that part alone decides what it does, and if it leaves
every other part alone. Dialogues that are local to different parts do not meet: whatever the order
in which they go on, each part ends up as if its dialogue had run by itself (`Concurrent.alone`).
-/

namespace FaultPlane

open Dialogue (Exchange)

variable {σ α β ι κ ν : Type}

namespace Dialogue

/-- A dialogue is local to the part of the state under a key. -/
inductive Local (part : σ → κ → ν) (k : κ) : Dialogue σ α → Prop where
  | done (a : α) : Local part k (.done a)
  | step {change : σ → σ} {next : σ → Dialogue σ α}
      (own : ∀ s t, part s k = part t k → part (change s) k = part (change t) k)
      (others : ∀ s k', k' ≠ k → part (change s) k' = part s k')
      (same : ∀ s t, part s k = part t k → next s = next t)
      (rest : ∀ s, Local part k (next s)) : Local part k (.step change next)
  | ask {call : Call} {next : call.Answer → Dialogue σ α}
      (rest : ∀ answer, Local part k (next answer)) : Local part k (.ask call next)

theorem Local.bind {part : σ → κ → ν} {k : κ} {d : Dialogue σ α} {f : α → Dialogue σ β}
    (h : d.Local part k) (hf : ∀ a, (f a).Local part k) : (d >>= f).Local part k := by
  show (d.andThen f).Local part k
  induction h with
  | done a => exact hf a
  | step own others same _ ih =>
    exact .step own others (fun s t agree => congrArg (andThen · f) (same s t agree)) ih
  | ask _ ih => exact .ask ih

end Dialogue

section

variable {part : σ → κ → ν} {key : ι → κ} {program : ι → Dialogue σ α} {s₀ s s' : σ}
variable {tasks : List (Task ι σ α)} {n : Nat} {task task' : Task ι σ α}

/-- The part of a task is as if its dialogue had gone on by itself so far. -/
structure Task.Alone (part : σ → κ → ν) (key : ι → κ) (program : ι → Dialogue σ α) (s₀ s : σ)
    (task : Task ι σ α) : Prop where
  separate : task.rest.Local part (key task.label)
  own : ∃ t, part s (key task.label) = part t (key task.label) ∧
    ∀ later t', task.rest.Yields later t t' →
      (program task.label).Yields (task.had ++ later) s₀ t'

theorem Task.Alone.of_agree (h : task.Alone part key program s₀ s)
    (agree : part s' (key task.label) = part s (key task.label)) :
    task.Alone part key program s₀ s' := by
  obtain ⟨separate, t, hpart, hyields⟩ := h
  exact ⟨separate, t, agree.trans hpart, hyields⟩

theorem Task.Alone.finished {i : ι} {had : List Exchange} {a : α}
    (h : Task.Alone part key program s₀ s ⟨i, had, .done a⟩) :
    ∃ t, (program i).Yields had s₀ t ∧ part s (key i) = part t (key i) := by
  obtain ⟨-, t, hpart, hyields⟩ := h
  have hdone := hyields [] t (.done a t)
  rw [List.append_nil] at hdone
  exact ⟨t, hdone, hpart⟩

/-- The parts of tasks are as if each had gone on by itself, and those of none are as before. -/
structure Apart (part : σ → κ → ν) (key : ι → κ) (program : ι → Dialogue σ α) (s₀ s : σ)
    (tasks : List (Task ι σ α)) : Prop where
  alone : ∀ task ∈ tasks, task.Alone part key program s₀ s
  others : ∀ k, k ∉ tasks.map (fun task => key task.label) → part s k = part s₀ k

/-- A task that goes on keeps its label. -/
theorem map_label_set (here : tasks[n]? = some task) (task' : Task ι σ α)
    (same : task'.label = task.label) (key : ι → κ) :
    (tasks.set n task').map (fun task => key task.label) =
      tasks.map fun task => key task.label := by
  obtain ⟨inside, rfl⟩ := List.getElem?_eq_some_iff.1 here
  have hinside : n < (tasks.map fun task => key task.label).length := by simpa using inside
  rw [List.map_set, same]
  simpa using List.set_getElem_self hinside

theorem Apart.set (h : Apart part key program s₀ s tasks) (here : tasks[n]? = some task)
    (same : task'.label = task.label)
    (distinct : ((tasks.set n task').map fun task => key task.label).Nodup)
    (moved : ∀ k, k ≠ key task.label → part s' k = part s k)
    (alone : task'.Alone part key program s₀ s') :
    Apart part key program s₀ s' (tasks.set n task') where
  alone other inside := by
    -- Of the tasks that are left, only the one that went on has its key.
    by_cases mine : key other.label = key task'.label
    · obtain ⟨hn, -⟩ := List.getElem?_eq_some_iff.1 here
      rw [List.inj_on_of_nodup_map distinct inside (List.mem_set hn task') mine]
      exact alone
    · rcases List.mem_or_eq_of_mem_set inside with old | rfl
      · rw [same] at mine
        exact (h.alone other old).of_agree (moved _ mine)
      · exact absurd rfl mine
  others k outside := by
    rw [map_label_set here task' same] at outside
    have hk : k ≠ key task.label := by
      rintro rfl
      exact outside (List.mem_map_of_mem (List.mem_of_getElem? here))
    rw [moved k hk, h.others k outside]

theorem Concurrent.apart (h : Concurrent program s₀ s tasks)
    (separate : ∀ i, (program i).Local part (key i))
    (distinct : (tasks.map fun task => key task.label).Nodup) :
    Apart part key program s₀ s tasks := by
  induction h with
  | init =>
    refine ⟨fun task inside => ?_, fun _ _ => rfl⟩
    cases inside
  | @start s tasks i h ih =>
    rw [List.map_append, List.nodup_append] at distinct
    obtain ⟨hbefore, -, hfresh⟩ := distinct
    obtain ⟨halone, hothers⟩ := ih hbefore
    have hnew : part s (key i) = part s₀ (key i) :=
      hothers _ fun inside => hfresh _ inside _ List.mem_cons_self rfl
    refine ⟨fun task inside => ?_, fun k outside => hothers k fun inside => outside ?_⟩
    · rcases List.mem_append.1 inside with old | new
      · exact halone task old
      · rw [List.mem_singleton.1 new]
        exact ⟨separate i, s₀, hnew, fun _ _ yields => yields⟩
    · rw [List.map_append]
      exact List.mem_append_left _ inside
  | @step s tasks n i had change next h here ih =>
    have hlabels := map_label_set here ⟨i, had, next s⟩ rfl key
    have hbefore := ih (by rw [← hlabels]; exact distinct)
    obtain ⟨hlocal, t, hpart, hyields⟩ := hbefore.alone _ (List.mem_of_getElem? here)
    cases hlocal with
    | step own others same rest =>
      refine hbefore.set here rfl distinct (others s) ⟨rest s, change t, own s t hpart, ?_⟩
      intro later t' onward
      -- By itself the dialogue goes on from `t`, which looks the same to it as `s`.
      dsimp only at onward
      rw [same s t hpart] at onward
      exact hyields later t' (.step onward)
  | @answer s tasks n i had call next a h here ih =>
    have hlabels := map_label_set here ⟨i, had ++ [⟨call, a⟩], next a⟩ rfl key
    have hbefore := ih (by rw [← hlabels]; exact distinct)
    obtain ⟨hlocal, t, hpart, hyields⟩ := hbefore.alone _ (List.mem_of_getElem? here)
    cases hlocal with
    | ask rest =>
      refine hbefore.set here rfl distinct (fun _ _ => rfl) ⟨rest a, t, hpart, ?_⟩
      intro later t' onward
      have hask := hyields (⟨call, a⟩ :: later) t' (.ask onward)
      rw [List.append_cons] at hask
      exact hask

end

end FaultPlane
