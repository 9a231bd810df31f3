import FaultPlane.Proofs.Dialogue.Bounds
import FaultPlane.Proofs.Injection.Records
import FaultPlane.Proofs.Injection.Tracking
import FaultPlane.Proofs.Plane.History

/-!
# Kinds of resource do not mix

Every operation on injected faults is for certain kinds of resource. It leaves the registries of the
others alone, and what it deletes or lists is of its own kinds, in the configured namespace. A stop
or a sweep only deletes what has a name that a fault of its kind can have given, because only such
names are tracked (`operations_isolated`).
-/

namespace FaultPlane

open Injection
open FaultPlane.Time (Instant)

namespace Injection

/-- Only names that a fault can have given are tracked. -/
def Ledger.Named (l : Ledger) : Prop :=
  ∀ r, l.Tracks r → ∃ rest, r.2 = r.1.namePrefix ++ rest

/-- The calls of an operation for certain kinds of resource. A guarded one only deletes what a fault
can have made. -/
def Allowed (settings : InjectionSettings) (kinds : List ResourceKind) (guarded : Prop) :
    Call → Prop
  | .cluster (.apply _) => True
  | .cluster (.delete kind name namespaceName) =>
    kind ∈ kinds ∧ namespaceName = settings.namespaceName ∧
      (guarded → ∃ rest, name = kind.namePrefix ++ rest)
  | .cluster (.list kind namespaceName) => kind ∈ kinds ∧ namespaceName = settings.namespaceName
  | .service .. => False

/-- The bounds of an operation for certain kinds of resource. -/
def bounds (settings : InjectionSettings) (kinds : List ResourceKind) (guarded : Prop) :
    Bounds Ledger where
  holds := Ledger.Named
  steps l l' := ∀ kind, kind ∉ kinds → l'.registry kind = l.registry kind
  asks := Allowed settings kinds guarded

/-! ### Steps -/

section

variable {l : Ledger} {kind : ResourceKind}

theorem Ledger.named_empty : Ledger.Named {} := by
  rintro ⟨kind, id⟩ tracked
  cases kind <;> cases tracked

theorem Ledger.Named.issue (h : l.Named) (now : Instant) : (l.issue now).2.Named := by
  intro r tracked
  refine h r ?_
  rw [Ledger.Tracks, Ledger.registry_issue] at tracked
  exact tracked

theorem Ledger.Named.track (h : l.Named) {record : FaultRecord}
    (named : ∃ rest, record.id = kind.namePrefix ++ rest) : (l.track kind record).Named := by
  intro r tracked
  rcases tracks_track.1 tracked with rfl | old
  · exact named
  · exact h r old

theorem Ledger.Named.forget (h : l.Named) (r : Resource) : (l.forget r).Named :=
  fun r' tracked => h r' (tracks_forget.1 tracked).1

theorem Ledger.Named.drain (h : l.Named) : (l.updateRegistry kind (·.drain)).2.Named :=
  fun r tracked => h r (tracks_drain.1 tracked).1

theorem Ledger.Named.removeIf (h : l.Named) (q : FaultRecord → Bool) :
    (l.updateRegistry kind (·.removeIf q)).2.Named :=
  fun r tracked => h r (tracks_removeIf.1 tracked).1

theorem registry_updateRegistry_of_mem {α : Type} {kinds : List ResourceKind} (mine : kind ∈ kinds)
    (f : Registry → α × Registry) {k : ResourceKind} (other : k ∉ kinds) :
    (l.updateRegistry kind f).2.registry k = l.registry k := by
  rw [Ledger.registry_updateRegistry, if_neg]
  rintro rfl
  exact other mine

/-- The records that a ledger with known names gives out have known names. -/
theorem Ledger.Named.of_removed (h : l.Named) {q : FaultRecord → Bool} {record : FaultRecord}
    (removed : record ∈ ((l.registry kind).removeIf q).1) :
    ∃ rest, record.id = kind.namePrefix ++ rest := by
  refine h (kind, record.id) ?_
  show record.id ∈ (l.registry kind).ids
  rw [Registry.ids_eq_map]
  exact List.mem_map_of_mem (List.mem_filter.1 removed).1

end

/-! ### Operations on a ledger -/

section

variable (settings : InjectionSettings) {kinds : List ResourceKind} {guarded : Prop}

theorem within_inject {now : Instant} {kind : FaultKind} {plan : Plan}
    (mine : kind.resource ∈ kinds) :
    (inject settings now kind plan).Within (bounds settings kinds guarded) := by
  refine Dialogue.within_take (fun l hl => hl.issue now) ?_ fun l _ => ?_
  · exact fun l _ k _ => l.registry_issue now k
  dsimp only
  split
  · exact Dialogue.within_pure _
  · next record hrecord =>
    obtain ⟨endTime, -, rfl⟩ := active?_eq_some hrecord
    refine Dialogue.within_cluster trivial fun outcome => ?_
    split
    · refine Dialogue.within_take ?_ ?_ fun _ _ => Dialogue.within_pure _
      · exact fun l' hl' => hl'.track (recordId_named kind plan.idFragment _)
      · exact fun l' _ k other => registry_updateRegistry_of_mem mine _ other
    · exact Dialogue.within_pure _

theorem within_apply {catalog : Catalog} {now : Instant} {request : Request}
    (mine : request.kind.resource ∈ kinds) :
    (apply settings catalog now request).Within (bounds settings kinds guarded) := by
  unfold apply
  split
  · exact Dialogue.within_pure _
  · exact within_inject settings mine

theorem within_stopRecord {kind : FaultKind} {name : String} (mine : kind.resource ∈ kinds) :
    (stopRecord settings kind name).Within (bounds settings kinds guarded) := by
  unfold stopRecord
  dsimp only
  split
  · exact Dialogue.within_pure _
  · refine Dialogue.within_look (fun _ _ _ => rfl) fun l hl => ?_
    split
    · exact Dialogue.within_pure _
    · next passed =>
      have hname : ∃ rest, Text.trim name = kind.resource.namePrefix ++ rest := by
        by_cases own : kind.owns (Text.trim name) = true
        · exact (kind.owns_iff _).1 own
        · have tracked : (l.registry kind.resource).get? (Text.trim name) ≠ none := by
            intro absent
            simp [absent, own] at passed
          obtain ⟨record, found⟩ := Option.ne_none_iff_exists'.1 tracked
          exact hl (kind.resource, Text.trim name) (Registry.mem_ids_iff _ |>.2 ⟨record, found⟩)
      refine Dialogue.within_cluster ⟨mine, rfl, fun _ => hname⟩ fun deleted => ?_
      split
      · refine Dialogue.within_take ?_ ?_ fun _ _ => Dialogue.within_pure _
        · exact fun l' hl' => hl'.forget (kind.resource, Text.trim name)
        · exact fun l' _ k other => registry_updateRegistry_of_mem mine _ other
      · exact Dialogue.within_pure _

theorem within_deleteListed {kind : ResourceKind} (mine : kind ∈ kinds) (names : List String)
    (summary : StopSummary) :
    (deleteListed settings kind names summary).Within (bounds settings kinds False) := by
  induction names generalizing summary with
  | nil => exact Dialogue.within_pure _
  | cons name names ih =>
    rw [deleteListed]
    split
    · exact ih _
    · exact Dialogue.within_cluster ⟨mine, rfl, False.elim⟩ fun deleted => ih _

theorem within_stopAll {kind : ResourceKind} (mine : kind ∈ kinds) :
    (stopAll settings kind).Within (bounds settings kinds False) := by
  refine Dialogue.within_take (fun l hl => hl.drain) ?_ fun l _ => ?_
  · exact fun l _ k other => registry_updateRegistry_of_mem mine _ other
  · exact Dialogue.within_cluster ⟨mine, rfl⟩ fun names => within_deleteListed settings mine _ _

theorem within_stopEverything (every : ∀ kind : ResourceKind, kind ∈ kinds) :
    (stopEverything settings).Within (bounds settings kinds False) := by
  refine (within_stopAll settings (every _)).bind fun network => ?_
  exact (within_stopAll settings (every _)).bind fun jvm => Dialogue.within_pure _

theorem within_deleteRecords {kind : ResourceKind} (mine : kind ∈ kinds)
    {records : List FaultRecord}
    (named : ∀ record ∈ records, ∃ rest, record.id = kind.namePrefix ++ rest) :
    (deleteRecords settings kind records).Within (bounds settings kinds guarded) := by
  induction records with
  | nil => exact Dialogue.within_pure _
  | cons record records ih =>
    have hfirst := named record List.mem_cons_self
    have hrest := ih fun r inside => named r (List.mem_cons_of_mem _ inside)
    exact Dialogue.within_cluster ⟨mine, rfl, fun _ => hfirst⟩ fun deleted => hrest

theorem within_sweep {kind : ResourceKind} {now : Instant} (mine : kind ∈ kinds) :
    (sweep settings kind now).Within (bounds settings kinds guarded) := by
  refine Dialogue.within_take (fun l hl => hl.removeIf _) ?_ fun l hl => ?_
  · exact fun l _ k other => registry_updateRegistry_of_mem mine _ other
  · refine (within_deleteRecords settings mine fun record removed => ?_).bind fun _ => ?_
    · exact hl.of_removed removed
    · exact Dialogue.within_pure _

end

end Injection

/-! ### Operations of a control plane -/

namespace Plane

namespace Operation

/-- The kinds of resource that an operation is for. -/
def kinds : Operation → List ResourceKind
  | .apply _ request => [request.kind.resource]
  | .stop kind _ => [kind.resource]
  | .stopAll kind | .sweep kind _ => [kind]
  | .stopEverything => [.networkChaos, .jvmChaos]

/-- Only a stop-all deletes whatever is listed. -/
def Guarded : Operation → Prop
  | .stopAll _ | .stopEverything => False
  | _ => True

end Operation

variable (p : Plane)

theorem within_event {α : Type} {b : Bounds Ledger} {d : Dialogue Ledger α} (h : d.Within b)
    (event : α → Event) :
    (onLedger d >>= fun a => pure (event a)).Within (b.onPart State.ledger) :=
  (h.onPart fun _ _ => rfl).bind fun _ => Dialogue.within_pure _

theorem within_perform (op : Operation) :
    (p.perform op).Within ((bounds p.settings op.kinds op.Guarded).onPart State.ledger) := by
  cases op with
  | apply now request =>
    exact within_event (within_apply p.settings List.mem_cons_self) _
  | stop kind name =>
    exact within_event (within_stopRecord p.settings List.mem_cons_self) _
  | stopAll kind => exact within_event (within_stopAll p.settings List.mem_cons_self) _
  | stopEverything =>
    refine within_event (within_stopEverything p.settings fun kind => ?_) _
    cases kind <;> simp [Operation.kinds]
  | sweep kind now => exact within_event (within_sweep p.settings List.mem_cons_self) _

/-- Whatever operations go on side by side: the next step of each leaves the registries of other
kinds alone, and the next call of each is allowed. Both hold of a whole operation too that is
carried out by itself then. -/
theorem operations_isolated {s : State} {tasks : List (Task Operation State Event)}
    (reached : Concurrent p.perform {} s tasks) :
    (∀ op had change next, ⟨op, had, .step change next⟩ ∈ tasks → ∀ kind, kind ∉ op.kinds →
        (change s).ledger.registry kind = s.ledger.registry kind) ∧
      (∀ op had call next, ⟨op, had, .ask call next⟩ ∈ tasks →
        Allowed p.settings op.kinds op.Guarded call) ∧
      ∀ (op : Operation) (ω : Type) (world : World ω) (w : ω),
        (∀ kind, kind ∉ op.kinds →
          ((p.perform op).run world s w).2.1.ledger.registry kind = s.ledger.registry kind) ∧
        ∀ call ∈ (p.perform op).calls world s w, Allowed p.settings op.kinds op.Guarded call := by
  obtain ⟨named, hwithin⟩ := reached.within (fun s => s.ledger.Named) (fun _ => rfl)
    Ledger.named_empty p.within_perform
  refine ⟨?_, ?_, ?_⟩
  · intro op had change next running
    cases hwithin _ running with
    | step _ moved _ => exact moved s named
  · intro op had call next running
    cases hwithin _ running with
    | ask asked _ => exact asked
  · intro op ω world w
    refine ⟨?_, (p.within_perform op).calls named w⟩
    refine (p.within_perform op).steps_run (fun s kind _ => rfl) (fun first rest kind other => ?_)
      named w
    exact (rest kind other).trans (first kind other)

/-- While a stop of a fault that nothing tracks is under way, the call that it makes next is
allowed. -/
theorem operations_isolated_untracked :
    let p : Plane := ⟨{}, {}⟩
    let op : Operation := .stop .jvmLatency " jvm-seat-1 "
    let call : Call := .cluster (.delete .jvmChaos "jvm-seat-1" "chaos")
    ∃ s tasks next, Concurrent p.perform {} s tasks ∧ ⟨op, [], .ask call next⟩ ∈ tasks ∧
      Allowed p.settings op.kinds op.Guarded call := by
  intro p op call
  have started : Concurrent p.perform {} {} [⟨op, [], p.perform op⟩] := Concurrent.init.start op
  have looked := started.step (n := 0) rfl
  refine ⟨_, _, _, looked, List.mem_cons_self, ?_⟩
  exact (p.operations_isolated looked).2.1 op [] call _ List.mem_cons_self

end Plane

end FaultPlane
