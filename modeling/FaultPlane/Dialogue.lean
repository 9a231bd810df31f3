import FaultPlane.Cluster.Call
import FaultPlane.Service.Call

/-!
# Dialogues with the outside

What the control plane does alternates between steps on its own state and calls to the cluster or
to a service, whose answers it waits for. A dialogue is such a program. A single step on the state
cannot be interrupted; between two steps, and while a call is under way, other dialogues over the
same state may go on.
-/

namespace FaultPlane

open Cluster (ClusterCall)
open Service (ServiceCall Endpoint)

/-! ### Calls -/

/-- A call to the outside. -/
inductive Call where
  | cluster (c : ClusterCall)
  | service (endpoint : Endpoint) (c : ServiceCall)
  deriving DecidableEq, Repr

/-- What a call answers. -/
@[reducible]
def Call.Answer : Call → Type
  | .cluster c => c.Answer
  | .service _ c => c.Answer

/-- Whoever answers the calls, with a state of its own. -/
abbrev World (ω : Type) := (call : Call) → ω → call.Answer × ω

/-! ### Dialogues -/

/-- A program over a state `σ` with a result `α`. -/
inductive Dialogue (σ : Type) (α : Type) where
  | done (a : α)
  | step (change : σ → σ) (next : σ → Dialogue σ α)
  | ask (call : Call) (next : call.Answer → Dialogue σ α)

namespace Dialogue

variable {σ τ α β ω : Type}

/-- First one dialogue and then another that depends on its result. -/
def andThen : Dialogue σ α → (α → Dialogue σ β) → Dialogue σ β
  | .done a, f => f a
  | .step change next, f => .step change fun s => (next s).andThen f
  | .ask call next, f => .ask call fun answer => (next answer).andThen f

theorem andThen_done (d : Dialogue σ α) : d.andThen .done = d := by
  induction d with
  | done a => rfl
  | step change next ih => exact congrArg (step change) (funext ih)
  | ask call next ih => exact congrArg (ask call) (funext ih)

instance : Monad (Dialogue σ) where
  pure := .done
  bind := andThen

/-- Makes a call to the cluster. -/
def cluster (c : ClusterCall) : Dialogue σ c.Answer := .ask (.cluster c) .done

/-- Makes a call to a service. -/
def service (endpoint : Endpoint) (c : ServiceCall) : Dialogue σ c.Answer :=
  .ask (.service endpoint c) .done

/-- Looks at the state. -/
def look (f : σ → α) : Dialogue σ α := .step id fun s => .done (f s)

/-- Changes the state. -/
def change (f : σ → σ) : Dialogue σ Unit := .step f fun _ => .done ()

/-- Changes the state and answers something of the state before, in one step. -/
def take (f : σ → α × σ) : Dialogue σ α := .step (fun s => (f s).2) fun s => .done (f s).1

/-- A dialogue over a part of a larger state. -/
def within (get : τ → σ) (set : σ → τ → τ) : Dialogue σ α → Dialogue τ α
  | .done a => .done a
  | .step change next =>
    .step (fun t => set (change (get t)) t) fun t => (next (get t)).within get set
  | .ask call next => .ask call fun answer => (next answer).within get set

/-- Runs a dialogue by itself. -/
def run (world : World ω) : Dialogue σ α → σ → ω → α × σ × ω
  | .done a, s, w => (a, s, w)
  | .step change next, s, w => (next s).run world (change s) w
  | .ask call next, s, w => (next (world call w).1).run world s (world call w).2

/-! ### Runs of combined dialogues -/

@[simp] theorem run_pure (world : World ω) (a : α) (s : σ) (w : ω) :
    (pure a : Dialogue σ α).run world s w = (a, s, w) := rfl

theorem run_andThen (world : World ω) (d : Dialogue σ α) (f : α → Dialogue σ β) (s : σ) (w : ω) :
    (d.andThen f).run world s w =
      (f (d.run world s w).1).run world (d.run world s w).2.1 (d.run world s w).2.2 := by
  induction d generalizing s w with
  | done a => rfl
  | step change next ih => exact ih s (change s) w
  | ask call next ih => exact ih (world call w).1 s (world call w).2

@[simp] theorem run_bind (world : World ω) (d : Dialogue σ α) (f : α → Dialogue σ β) (s : σ)
    (w : ω) :
    (d >>= f).run world s w =
      (f (d.run world s w).1).run world (d.run world s w).2.1 (d.run world s w).2.2 :=
  run_andThen world d f s w

-- The type of an answer depends on the call, so it is left out of the index of simp lemmas.

@[simp] theorem run_cluster (world : World ω) (c : ClusterCall) (s : σ) (w : ω) :
    @run σ (no_index c.Answer) ω world (cluster c) s w =
      ((world (.cluster c) w).1, s, (world (.cluster c) w).2) := rfl

@[simp] theorem run_service (world : World ω) (e : Endpoint) (c : ServiceCall) (s : σ) (w : ω) :
    @run σ (no_index c.Answer) ω world (service e c) s w =
      ((world (.service e c) w).1, s, (world (.service e c) w).2) := rfl

@[simp] theorem run_look (world : World ω) (f : σ → α) (s : σ) (w : ω) :
    (look f).run world s w = (f s, s, w) := rfl

@[simp] theorem run_change (world : World ω) (f : σ → σ) (s : σ) (w : ω) :
    (change f).run world s w = ((), f s, w) := rfl

@[simp] theorem run_take (world : World ω) (f : σ → α × σ) (s : σ) (w : ω) :
    (take f).run world s w = ((f s).1, (f s).2, w) := rfl

/-- A dialogue over a part of the state runs as it does over that part alone. -/
theorem run_within (world : World ω) {get : τ → σ} {set : σ → τ → τ}
    (get_set : ∀ s t, get (set s t) = s) (set_set : ∀ s s' t, set s (set s' t) = set s t)
    (set_get : ∀ t, set (get t) t = t) (d : Dialogue σ α) (t : τ) (w : ω) :
    (d.within get set).run world t w =
      ((d.run world (get t) w).1, set (d.run world (get t) w).2.1 t,
        (d.run world (get t) w).2.2) := by
  induction d generalizing t w with
  | done a => simp only [within, run, set_get]
  | step change next ih => simp only [within, run, ih, get_set, set_set]
  | ask call next ih => simp only [within, run, ih]

end Dialogue

end FaultPlane
