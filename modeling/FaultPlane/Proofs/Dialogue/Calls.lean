import FaultPlane.Dialogue

/-!
# The calls of a dialogue

What a dialogue that runs by itself asks of the outside, in order, and what is answered to it.
-/

namespace FaultPlane

/-- A world in which every call fails. -/
def World.failing : World Unit
  | .cluster (.apply _), w => (⟨false, ""⟩, w)
  | .cluster (.delete ..), w => (false, w)
  | .cluster (.list ..), w => ([], w)
  | .service .., w => (.error (.unreachable ""), w)

/-- A world in which the cluster accepts and deletes whatever it is told to. -/
def World.accepting (listed : Injection.ResourceKind → List String) : World Unit
  | .cluster (.apply _), w => (⟨true, ""⟩, w)
  | .cluster (.delete ..), w => (true, w)
  | .cluster (.list kind _), w => (listed kind, w)
  | .service .., w => (.error (.unreachable ""), w)

namespace Dialogue

variable {σ α β ω : Type}

/-- The calls that a dialogue makes, the first one in front. -/
def calls (world : World ω) : Dialogue σ α → σ → ω → List Call
  | .done _, _, _ => []
  | .step change next, s, w => (next s).calls world (change s) w
  | .ask call next, s, w => call :: (next (world call w).1).calls world s (world call w).2

@[simp] theorem calls_pure (world : World ω) (a : α) (s : σ) (w : ω) :
    (pure a : Dialogue σ α).calls world s w = [] := rfl

@[simp] theorem calls_bind (world : World ω) (d : Dialogue σ α) (f : α → Dialogue σ β) (s : σ)
    (w : ω) :
    (d >>= f).calls world s w =
      d.calls world s w ++
        (f (d.run world s w).1).calls world (d.run world s w).2.1 (d.run world s w).2.2 := by
  show (d.andThen f).calls world s w = _
  induction d generalizing s w with
  | done a => rfl
  | step change next ih => exact ih s (change s) w
  | ask call next ih => exact congrArg (call :: ·) (ih (world call w).1 s (world call w).2)

@[simp] theorem calls_take (world : World ω) (f : σ → α × σ) (s : σ) (w : ω) :
    (take f).calls world s w = [] := rfl

@[simp] theorem calls_cluster (world : World ω) (c : Cluster.ClusterCall) (s : σ) (w : ω) :
    @calls σ (no_index c.Answer) ω world (cluster c) s w = [.cluster c] := rfl

/-! ### Calls with their answers -/

/-- A call and the answer to it. -/
abbrev Exchange := (call : Call) × call.Answer

/-- The calls that a dialogue makes, each with its answer. -/
def transcript (world : World ω) : Dialogue σ α → σ → ω → List Exchange
  | .done _, _, _ => []
  | .step change next, s, w => (next s).transcript world (change s) w
  | .ask call next, s, w =>
    ⟨call, (world call w).1⟩ :: (next (world call w).1).transcript world s (world call w).2

theorem calls_eq_map (world : World ω) (d : Dialogue σ α) (s : σ) (w : ω) :
    d.calls world s w = (d.transcript world s w).map (·.1) := by
  induction d generalizing s w with
  | done a => rfl
  | step change next ih => exact ih s (change s) w
  | ask call next ih => exact congrArg (call :: ·) (ih (world call w).1 s (world call w).2)

@[simp] theorem transcript_pure (world : World ω) (a : α) (s : σ) (w : ω) :
    (pure a : Dialogue σ α).transcript world s w = [] := rfl

@[simp] theorem transcript_bind (world : World ω) (d : Dialogue σ α) (f : α → Dialogue σ β) (s : σ)
    (w : ω) :
    (d >>= f).transcript world s w =
      d.transcript world s w ++
        (f (d.run world s w).1).transcript world (d.run world s w).2.1 (d.run world s w).2.2 := by
  show (d.andThen f).transcript world s w = _
  induction d generalizing s w with
  | done a => rfl
  | step change next ih => exact ih s (change s) w
  | ask call next ih =>
    exact congrArg (List.cons _) (ih (world call w).1 s (world call w).2)

@[simp] theorem transcript_take (world : World ω) (f : σ → α × σ) (s : σ) (w : ω) :
    (take f).transcript world s w = [] := rfl

@[simp] theorem transcript_look (world : World ω) (f : σ → α) (s : σ) (w : ω) :
    (look f).transcript world s w = [] := rfl

@[simp] theorem transcript_cluster (world : World ω) (c : Cluster.ClusterCall) (s : σ) (w : ω) :
    @transcript σ (no_index c.Answer) ω world (cluster c) s w =
      [⟨.cluster c, (world (.cluster c) w).1⟩] := rfl

theorem transcript_ite (world : World ω) (p : Prop) [Decidable p] (d e : Dialogue σ α) (s : σ)
    (w : ω) :
    (if p then d else e).transcript world s w =
      if p then d.transcript world s w else e.transcript world s w := by
  split <;> rfl

theorem transcript_within {τ : Type} (world : World ω) {get : τ → σ} {set : σ → τ → τ}
    (get_set : ∀ s t, get (set s t) = s) (d : Dialogue σ α) (t : τ) (w : ω) :
    (d.within get set).transcript world t w = d.transcript world (get t) w := by
  induction d generalizing t w with
  | done a => rfl
  | step change next ih =>
    refine (ih (get t) (set (change (get t)) t) w).trans ?_
    rw [get_set]
    rfl
  | ask call next ih => exact congrArg (List.cons _) (ih (world call w).1 t (world call w).2)

theorem within_bind {τ : Type} (get : τ → σ) (set : σ → τ → τ) (d : Dialogue σ α)
    (f : α → Dialogue σ β) :
    (d >>= f).within get set = d.within get set >>= fun a => (f a).within get set := by
  show (d.andThen f).within get set = (d.within get set).andThen _
  induction d with
  | done a => rfl
  | step change next ih => exact congrArg (Dialogue.step _) (funext fun t => ih (get t))
  | ask call next ih => exact congrArg (Dialogue.ask call) (funext ih)

end Dialogue

end FaultPlane
