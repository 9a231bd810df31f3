import FaultPlane.Proofs.Dialogue.Growth
import FaultPlane.Proofs.Injection.Conservation

/-!
# The clock stays ahead

Between the moment that an apply issues an id and the moment that it tracks its fault, other
operations may issue ids too, and track or forget other faults. As the clock never goes back, it is
ahead of every id that is tracked all the same, whatever operations go on side by side
(`sound_of_concurrent`).
-/

namespace FaultPlane

open Injection
open FaultPlane.Time (Instant)

namespace Injection

/-! ### Sound ledgers -/

namespace Ledger.Sound

variable {l l' : Ledger}

/-- Forgetting faults does not do any harm. -/
theorem of_tracks (h : l.Sound) (clock : l'.clock = l.clock)
    (tracks : ∀ r, l'.Tracks r → l.Tracks r) : l'.Sound where
  last_nonneg := clock ▸ h.last_nonneg
  number_le kind id inside := clock ▸ h.number_le kind id (tracks (kind, id) inside)

theorem issue (h : l.Sound) (now : Instant) : (l.issue now).2.Sound := by
  have hlast := l.last_lt_issue now
  refine ⟨h.issue_nonneg now, fun kind id inside => ?_⟩
  rw [Ledger.registry_issue] at inside
  have hle := h.number_le kind id inside
  rw [Ledger.clock_issue]
  omega

theorem track (h : l.Sound) {kind : ResourceKind} {record : FaultRecord}
    (issued : idNumber record.id ≤ l.clock.last) : (l.track kind record).Sound where
  last_nonneg := (l.clock_track kind record).symm ▸ h.last_nonneg
  number_le k id inside := by
    rw [Ledger.clock_track]
    rcases tracks_track (r := (k, id)).1 inside with new | old
    · cases new
      exact issued
    · exact h.number_le k id old

end Ledger.Sound

/-- A ledger stays sound, and its clock does not go back. -/
def ledgerGrowth : Growth Ledger where
  holds := Ledger.Sound
  grown l l' := l.clock.last ≤ l'.clock.last
  refl _ := Int.le_refl _
  trans := Int.le_trans

/-! ### Operations on a ledger -/

section

variable (settings : InjectionSettings) {seen : Ledger}

theorem grows_inject (now : Instant) (kind : FaultKind) (plan : Plan) :
    (inject settings now kind plan).Grows ledgerGrowth seen := by
  refine Dialogue.grows_take (fun l hl _ => hl.issue now) ?_ fun l hl _ => ?_
  · exact fun l => Int.le_of_lt (l.last_lt_issue now)
  dsimp only
  split
  · exact Dialogue.grows_pure _
  · next record hrecord =>
    refine Dialogue.grows_cluster fun outcome => ?_
    split
    · have hnumber : idNumber record.id = (l.issue now).1 := by
        obtain ⟨endTime, -, rfl⟩ := active?_eq_some hrecord
        exact idNumber_recordId kind plan.idFragment (hl.issue_nonneg now)
      refine Dialogue.grows_take (fun l' hl' later => hl'.track ?_) (fun l' => ?_) fun _ _ _ =>
        Dialogue.grows_pure _
      · -- The clock has been at the number of the record.
        rw [hnumber]
        exact later
      · exact Int.le_of_eq (congrArg IdClock.last (l'.clock_updateRegistry _ _).symm)
    · exact Dialogue.grows_pure _

theorem grows_apply (catalog : Catalog) (now : Instant) (request : Request) :
    (apply settings catalog now request).Grows ledgerGrowth seen := by
  unfold apply
  split
  · exact Dialogue.grows_pure _
  · exact grows_inject settings now request.kind _

/-- A step that forgets some faults of one kind of resource. -/
theorem grows_forget {α β : Type} {kind : ResourceKind} {f : Registry → α × Registry}
    {next : α → Dialogue Ledger β} (fewer : ∀ r, ∀ id ∈ (f r).2.ids, id ∈ r.ids)
    (rest : ∀ a l, (next a).Grows ledgerGrowth l) :
    (Dialogue.take (·.updateRegistry kind f) >>= next).Grows ledgerGrowth seen := by
  have hclock := fun l : Ledger => l.clock_updateRegistry kind f
  refine Dialogue.grows_take (fun l hl _ => hl.of_tracks (hclock l) fun r inside => ?_)
    (fun l => ?_) fun l _ _ => rest _ _
  · rw [tracks_updateRegistry] at inside
    split at inside
    · next same =>
      rw [Ledger.Tracks, same]
      exact fewer _ r.2 inside
    · exact inside
  · exact Int.le_of_eq (congrArg IdClock.last (hclock l).symm)

theorem grows_stopRecord (kind : FaultKind) (name : String) :
    (stopRecord settings kind name).Grows ledgerGrowth seen := by
  unfold stopRecord
  dsimp only
  split
  · exact Dialogue.grows_pure _
  · refine Dialogue.grows_look fun l _ => ?_
    split
    · exact Dialogue.grows_pure _
    · refine Dialogue.grows_cluster fun deleted => ?_
      split
      · refine grows_forget (fun r id inside => ?_) fun _ _ => Dialogue.grows_pure _
        rw [Registry.ids_remove] at inside
        exact List.mem_of_mem_erase inside
      · exact Dialogue.grows_pure _

theorem grows_deleteListed (kind : ResourceKind) (names : List String) (summary : StopSummary) :
    (deleteListed settings kind names summary).Grows ledgerGrowth seen := by
  induction names generalizing summary with
  | nil => exact Dialogue.grows_pure _
  | cons name names ih =>
    rw [deleteListed]
    split
    · exact ih _
    · exact Dialogue.grows_cluster fun deleted => ih _

theorem grows_stopAll (kind : ResourceKind) :
    (stopAll settings kind).Grows ledgerGrowth seen := by
  refine grows_forget (fun r id inside => by cases inside) fun _ _ => ?_
  exact Dialogue.grows_cluster fun names => grows_deleteListed settings kind names _

theorem grows_stopEverything : (stopEverything settings).Grows ledgerGrowth seen := by
  refine (grows_stopAll settings .networkChaos).bind fun network _ _ => ?_
  exact (grows_stopAll settings .jvmChaos).bind fun jvm _ _ => Dialogue.grows_pure _

theorem grows_deleteRecords (kind : ResourceKind) (records : List FaultRecord) :
    (deleteRecords settings kind records).Grows ledgerGrowth seen := by
  induction records with
  | nil => exact Dialogue.grows_pure _
  | cons record records ih => exact Dialogue.grows_cluster fun deleted => ih

theorem grows_sweep (kind : ResourceKind) (now : Instant) :
    (sweep settings kind now).Grows ledgerGrowth seen := by
  refine grows_forget (fun r id inside => ((r.mem_ids_removeIf _ id).1 inside).1) fun _ _ => ?_
  exact (grows_deleteRecords settings kind _).bind fun _ _ _ => Dialogue.grows_pure _

end

end Injection

/-! ### Operations of a control plane -/

namespace Plane

variable (p : Plane)

theorem grows_event {α : Type} {g : Growth Ledger} {d : Dialogue Ledger α} {s : State}
    (h : d.Grows g s.ledger) (event : α → Event) :
    (onLedger d >>= fun a => pure (event a)).Grows (g.onPart State.ledger) s :=
  (h.onPart fun _ _ => rfl).bind fun _ _ _ => Dialogue.grows_pure _

theorem grows_perform (op : Operation) (s : State) :
    (p.perform op).Grows (ledgerGrowth.onPart State.ledger) s := by
  cases op with
  | apply now request => exact grows_event (grows_apply p.settings p.catalog now request) _
  | stop kind name => exact grows_event (grows_stopRecord p.settings kind name) _
  | stopAll kind => exact grows_event (grows_stopAll p.settings kind) _
  | stopEverything => exact grows_event (grows_stopEverything p.settings) _
  | sweep kind now => exact grows_event (grows_sweep p.settings kind now) _

/-- Whatever operations go on side by side, the clock is ahead of every id that is tracked. -/
theorem sound_of_concurrent {s : State} {tasks : List (Task Operation State Event)}
    (reached : Concurrent p.perform {} s tasks) : s.ledger.Sound :=
  (reached.grows Ledger.sound_empty fun op => p.grows_perform op {}).1

end Plane

end FaultPlane
