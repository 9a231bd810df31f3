import FaultPlane.Proofs.Injection.Outcome
import FaultPlane.Proofs.Injection.RecordId
import FaultPlane.Proofs.Injection.Tracking
import FaultPlane.Proofs.Plane.History

/-!
# Conservation of record ids

No operation loses an id or makes one up. The ids that an operation hands out as removed, and those
that are tracked after it, are the ids that were tracked before and the one that it has added. The
added id is new, because it ends in a number above all those that the clock has issued before
(`accounted_entryOf`).
-/

namespace FaultPlane

open Injection
open FaultPlane.Time (Instant)

/-! ### Ledgers -/

/-- The clock is ahead of every id that is tracked. -/
structure Injection.Ledger.Sound (l : Ledger) : Prop where
  last_nonneg : 0 ≤ l.clock.last
  number_le : ∀ kind, ∀ id ∈ (l.registry kind).ids, idNumber id ≤ l.clock.last

theorem Injection.Ledger.sound_empty : Ledger.Sound {} where
  last_nonneg := Int.le_refl 0
  number_le := by
    intro kind id h
    cases kind <;> simp [Ledger.registry] at h

theorem Injection.Ledger.Sound.issue_nonneg {l : Ledger} (h : l.Sound) (now : Instant) :
    0 ≤ (l.issue now).1 := by
  have hlast := h.last_nonneg
  have hissue := l.last_lt_issue now
  omega

/-- A new id is above every id that is tracked. -/
theorem Injection.Ledger.Sound.untracked {l : Ledger} (h : l.Sound) (now : Instant)
    (fault : FaultKind) (fragment : String) (kind : ResourceKind) :
    recordId fault fragment (l.issue now).1 ∉ (l.registry kind).ids := by
  intro inside
  have hle := h.number_le kind _ inside
  have hlast := l.last_lt_issue now
  rw [idNumber_recordId fault fragment (h.issue_nonneg now)] at hle
  omega

namespace Plane

/-! ### One operation -/

structure Entry.Accounted (catalog : Catalog) (e : Entry) : Prop where
  clock_le : e.before.clock.last ≤ e.after.clock.last
  issued : ∀ {id}, e.issued? catalog = some id →
    e.before.clock.last < idNumber id ∧ idNumber id ≤ e.after.clock.last
  reported : ∀ {id}, e.event.reported? = some id → e.issued? catalog = some id
  conserved : ∀ kind, (e.removed kind ++ (e.after.registry kind).ids).Perm
    ((e.before.registry kind).ids ++ (e.event.applied? kind).toList)
  applied : ∀ kind, (e.event.applied? kind).toList.length = e.event.applyCount kind
  counted : ∀ kind, (e.before.registry kind).size < UInt64.size → (e.removed kind).length =
    e.event.stopCount kind + e.event.sweepCount kind + e.event.clearCount kind

variable {ω : Type} (p : Plane) (world : World ω) (s : State) (w : ω)

/-- An operation that issues no id, adds nothing and hands out what it takes out. -/
theorem Entry.Accounted.of_removal {catalog : Catalog} {e : Entry}
    (clock : e.after.clock = e.before.clock) (silent : e.issued? catalog = none)
    (unreported : e.event.reported? = none) (unapplied : ∀ kind, e.event.applyCount kind = 0)
    (conserved : ∀ kind,
      (e.removed kind ++ (e.after.registry kind).ids).Perm (e.before.registry kind).ids)
    (counted : ∀ kind, (e.before.registry kind).size < UInt64.size → (e.removed kind).length =
      e.event.stopCount kind + e.event.sweepCount kind + e.event.clearCount kind) :
    e.Accounted catalog where
  clock_le := Int.le_of_eq (by rw [clock])
  issued := by
    intro id h
    rw [silent] at h
    cases h
  reported := by
    intro id h
    rw [unreported] at h
    cases h
  conserved kind := by
    rw [Event.applied_of_unreported unreported, Option.toList_none, List.append_nil]
    exact conserved kind
  applied kind := by
    rw [Event.applied_of_unreported unreported, unapplied]
    rfl
  counted := counted

theorem Entry.Accounted.of_idle {catalog : Catalog} {e : Entry} (same : e.after = e.before)
    (silent : e.issued? catalog = none) (unreported : e.event.reported? = none)
    (unapplied : ∀ kind, e.event.applyCount kind = 0) (handed : ∀ kind, e.removed kind = [])
    (counts : ∀ kind,
      e.event.stopCount kind + e.event.sweepCount kind + e.event.clearCount kind = 0) :
    e.Accounted catalog := by
  refine .of_removal (by rw [same]) silent unreported unapplied ?_ ?_
  · intro kind
    rw [handed, same]
    exact List.Perm.refl _
  · intro kind _
    rw [handed, counts]
    rfl

theorem ids_after_apply (l : Ledger) (now : Instant) {record : FaultRecord} {kind : ResourceKind}
    (fresh : record.id ∉ (l.registry kind).ids) (k : ResourceKind) :
    ((((l.issue now).2.updateRegistry kind fun r => ((), r.put record)).2.registry k).ids).Perm
      ((l.registry k).ids ++ if kind = k then [record.id] else []) := by
  simp only [Ledger.registry_updateRegistry, Ledger.registry_issue]
  by_cases hkind : kind = k
  · subst hkind
    simp only [if_true, Registry.ids_put _ fresh]
    exact List.Perm.refl _
  · have hkind' : ¬ k = kind := fun same => hkind same.symm
    simp only [if_neg hkind, if_neg hkind', List.append_nil]
    exact List.Perm.refl _

/-- An operation that issues an id and takes nothing out. -/
theorem Entry.Accounted.of_issue {catalog : Catalog} {now : Instant} {request : Request}
    {plan : Plan} {l l' : Ledger} {response : ActionResponse} (h : l.Sound)
    (hplan : request.plan catalog = .ok plan) (clock : l'.clock.last = (l.issue now).1)
    (reported : ∀ id, response.recordId = some id → plan.recordId request.kind l now = id)
    (named : response.success = true → response.recordId ≠ none)
    (conserved : ∀ kind, (l'.registry kind).ids.Perm
      ((l.registry kind).ids ++ (Event.applied? kind (.applied now request response)).toList)) :
    Entry.Accounted catalog ⟨l, .applied now request response, l'⟩ := by
  have hlast := l.last_lt_issue now
  have hnumber : idNumber (plan.recordId request.kind l now) = (l.issue now).1 :=
    idNumber_recordId request.kind plan.idFragment (h.issue_nonneg now)
  have hissued : Entry.issued? catalog ⟨l, .applied now request response, l'⟩ =
      some (plan.recordId request.kind l now) := by
    simp only [Entry.issued?, hplan]
  constructor
  · show l.clock.last ≤ l'.clock.last
    omega
  · intro id hid
    rw [hissued] at hid
    cases hid
    show l.clock.last < idNumber (plan.recordId request.kind l now) ∧
      idNumber (plan.recordId request.kind l now) ≤ l'.clock.last
    omega
  · intro id hid
    rw [hissued, reported id hid]
  · exact conserved
  · intro kind
    simp only [Event.applied?, Event.applyCount]
    split
    · next happlied =>
      obtain ⟨id, hid⟩ := Option.ne_none_iff_exists'.1 (named happlied.1)
      rw [hid]
      rfl
    · rfl
  · intro kind _
    rfl

theorem accounted_apply (h : s.ledger.Sound) (now : Instant) (request : Request) :
    (p.entryOf world (.apply now request) s w).1.Accounted p.catalog := by
  rw [entryOf_apply]
  cases hplan : request.plan p.catalog with
  | error problem =>
    rw [run_apply_rejected world p.settings now s.ledger w hplan]
    refine .of_idle rfl ?_ rfl (fun _ => rfl) (fun _ => rfl) (fun _ => rfl)
    simp only [Entry.issued?, hplan]
  | ok plan =>
    rw [apply_planned p.settings now hplan]
    cases hrecord : plan.record? request.kind s.ledger now with
    | none =>
      rw [run_inject_outOfRange world p.settings now request.kind plan s.ledger w hrecord]
      refine .of_issue h hplan rfl ?_ ?_ ?_
      · intro id hid
        cases hid
      · intro hsuccess
        cases hsuccess
      · intro kind
        simp [Event.applied?, ActionResponse.failure]
    | some record =>
      cases hanswer : (plan.attempt world p.settings request.kind s.ledger now w).1.success with
      | false =>
        rw [run_inject_refused world p.settings now request.kind plan s.ledger w hrecord hanswer]
        refine .of_issue h hplan rfl ?_ ?_ ?_
        · intro id hid
          exact Option.some.inj hid
        · intro hsuccess
          cases hsuccess
        · intro kind
          simp [Event.applied?, ActionResponse.failure, ActionResponse.about]
      | true =>
        rw [run_inject_accepted world p.settings now request.kind plan s.ledger w hrecord hanswer]
        have hid : record.id = plan.recordId request.kind s.ledger now :=
          plan.id_of_record? now request.kind s.ledger hrecord
        have hfresh : record.id ∉ (s.ledger.registry request.kind.resource).ids :=
          hid ▸ h.untracked now request.kind plan.idFragment request.kind.resource
        refine .of_issue h hplan ?_ ?_ ?_ ?_
        · rw [Ledger.clock_updateRegistry, Ledger.clock_issue]
        · intro id hid
          exact Option.some.inj hid
        · intro _
          exact Option.some_ne_none _
        · intro kind
          refine (ids_after_apply s.ledger now hfresh kind).trans ?_
          rw [hid]
          simp only [Event.applied?, ActionResponse.ok, ActionResponse.about, true_and]
          split <;> exact List.Perm.refl _

theorem removed_stopped (l l' : Ledger) (kind : FaultKind) (k : ResourceKind)
    (found : Option FaultRecord) :
    Entry.removed
        ⟨l, .stopped kind (.ok (found.map fun r => { r with status := .stopped })), l'⟩ k =
      if k = kind.resource then (found.map (·.id)).toList else [] := by
  cases found with
  | none => simp [Entry.removed]
  | some record => simp [Entry.removed, eq_comm]

theorem accounted_stop (kind : FaultKind) (name : String) :
    (p.entryOf world (.stop kind name) s w).1.Accounted p.catalog := by
  rw [entryOf_stop]
  by_cases hblank : Text.trim name = ""
  · rw [run_stopRecord_blank world p.settings kind s.ledger w hblank]
    exact .of_idle rfl rfl rfl (fun _ => rfl) (fun _ => rfl) (fun _ => rfl)
  by_cases hknown : Known kind s.ledger (Text.trim name)
  · cases hanswer : (deletion world p.settings kind.resource (Text.trim name) w).1 with
    | false =>
      rw [run_stopRecord_failed world p.settings kind s.ledger w hblank hknown hanswer]
      exact .of_idle rfl rfl rfl (fun _ => rfl) (fun _ => rfl) (fun _ => rfl)
    | true =>
      rw [run_stopRecord_deleted world p.settings kind s.ledger w hblank hknown hanswer]
      refine .of_removal (by simp) rfl rfl (fun _ => rfl) ?_ ?_
      · intro k
        simp only [removed_stopped, Ledger.registry_updateRegistry]
        split
        · next hkind =>
          rw [hkind]
          exact (s.ledger.registry kind.resource).remove_conserved (Text.trim name)
        · exact List.Perm.refl _
      · intro k _
        rw [removed_stopped]
        cases (s.ledger.registry kind.resource).get? (Text.trim name) with
        | none => simp [Event.stopCount, Event.sweepCount, Event.clearCount]
        | some record =>
          by_cases hkind : k = kind.resource
          · simp [hkind, Event.stopCount, Event.sweepCount, Event.clearCount]
          · have hkind' : ¬ kind.resource = k := fun same => hkind same.symm
            simp [hkind, hkind', Event.stopCount, Event.sweepCount, Event.clearCount]
  · obtain ⟨untracked, foreign⟩ := not_or.1 hknown
    rw [run_stopRecord_foreign world p.settings kind s.ledger w hblank
      (Classical.not_not.1 untracked) (Bool.eq_false_iff.2 foreign)]
    exact .of_idle rfl rfl rfl (fun _ => rfl) (fun _ => rfl) (fun _ => rfl)

theorem accounted_stopAll (kind : ResourceKind) :
    (p.entryOf world (.stopAll kind) s w).1.Accounted p.catalog := by
  rw [entryOf_stopAll]
  obtain ⟨hledger, hcleared⟩ := run_stopAll world p.settings kind s.ledger w
  rw [hledger]
  refine .of_removal (by simp) rfl rfl (fun _ => rfl) ?_ ?_
  · intro k
    simp only [Entry.removed, Ledger.registry_setRegistry]
    by_cases hkind : k = kind
    · have hkind' : kind = k := hkind.symm
      simp [hkind']
    · have hkind' : ¬ kind = k := fun same => hkind same.symm
      simp [hkind, hkind']
  · intro k hsmall
    simp only [Entry.removed, Event.stopCount, Event.sweepCount, Event.clearCount] at hsmall ⊢
    by_cases hkind : kind = k
    · subst hkind
      simp only [if_true, Registry.length_ids, hcleared] at hsmall ⊢
      rw [UInt64.toNat_ofNat_of_lt' hsmall]
      omega
    · simp [hkind]

theorem accounted_stopEverything : (p.entryOf world .stopEverything s w).1.Accounted p.catalog := by
  rw [entryOf_stopEverything]
  obtain ⟨hclock, hempty, hnet, hjvm⟩ := run_stopEverything world p.settings s.ledger w
  refine .of_removal hclock rfl rfl (fun _ => rfl) ?_ ?_
  · intro k
    simp [Entry.removed, hempty]
  · intro k hsmall
    cases k <;>
      simp only [Entry.removed, Ledger.registry, Registry.length_ids, Event.stopCount,
        Event.sweepCount, Event.clearCount, hnet, hjvm] at hsmall ⊢ <;>
      rw [UInt64.toNat_ofNat_of_lt' hsmall] <;> omega

theorem accounted_sweep (kind : ResourceKind) (now : Instant) :
    (p.entryOf world (.sweep kind now) s w).1.Accounted p.catalog := by
  rw [entryOf_sweep]
  obtain ⟨hledger, hanswer⟩ := run_sweep world p.settings kind now s.ledger w
  rw [hledger, hanswer]
  have hids : ∀ records : List FaultRecord,
      (records.map fun r => { r with status := .expired }).map (·.id) = records.map (·.id) := by
    intro records
    simp only [List.map_map, Function.comp_def]
  refine .of_removal (by simp) rfl rfl (fun _ => rfl) ?_ ?_
  · intro k
    simp only [Entry.removed, hids, Ledger.registry_updateRegistry]
    by_cases hkind : k = kind
    · subst hkind
      simp only [if_true]
      exact (s.ledger.registry k).removeIf_conserved _
    · have hkind' : ¬ kind = k := fun same => hkind same.symm
      simp [hkind, hkind']
  · intro k _
    simp only [Entry.removed, Event.stopCount, Event.sweepCount, Event.clearCount]
    by_cases hkind : kind = k <;> simp [hkind]

theorem accounted_entryOf (h : s.ledger.Sound) (op : Operation) :
    (p.entryOf world op s w).1.Accounted p.catalog := by
  cases op with
  | apply now request => exact p.accounted_apply world s w h now request
  | stop kind name => exact p.accounted_stop world s w kind name
  | stopAll kind => exact p.accounted_stopAll world s w kind
  | stopEverything => exact p.accounted_stopEverything world s w
  | sweep kind now => exact p.accounted_sweep world s w kind now

end Plane

end FaultPlane
