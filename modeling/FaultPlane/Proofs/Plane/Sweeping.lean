import FaultPlane.Proofs.Plane.Clearing

/-!
# What a sweep takes out

A sweep at an instant takes out the records that have ended before it and asks the cluster to delete
each of them; what the cluster says to that does not matter. So two sweeps one after the other, the
second of them not earlier, do what the second would have done alone, and one that is not later does
nothing any more (`sweep_exact`).
-/

namespace FaultPlane

open Injection
open Dialogue (Exchange)
open FaultPlane.Time (Instant)

namespace Injection

variable {ω : Type} (world : World ω) (settings : InjectionSettings) (kind : ResourceKind)

theorem calls_deleteRecords (records : List FaultRecord) (l : Ledger) (w : ω) :
    (deleteRecords settings kind records).calls world l w =
      records.map fun r => .cluster (.delete kind r.id settings.namespaceName) := by
  induction records generalizing w with
  | nil => rfl
  | cons record records ih =>
    rw [deleteRecords, Dialogue.calls_bind, Dialogue.calls_cluster, Dialogue.run_cluster, ih]
    rfl

/-- A sweep asks for the deletes of the records that it answers. -/
theorem calls_sweep (now : Instant) (l : Ledger) (w : ω) :
    (sweep settings kind now).calls world l w =
      ((sweep settings kind now).run world l w).1.map fun r =>
        .cluster (.delete kind r.id settings.namespaceName) := by
  rw [(run_sweep world settings kind now l w).2, List.map_map]
  simp only [sweep, Dialogue.calls_bind, Dialogue.calls_take, Dialogue.run_take,
    Dialogue.calls_pure, List.nil_append, List.append_nil, calls_deleteRecords]
  rfl

theorem run_sweep_of_none {now : Instant} {l : Ledger}
    (h : ∀ id r, (l.registry kind).get? id = some r → r.isExpiredAt now = false) (w : ω) :
    (sweep settings kind now).run world l w = ([], l, w) ∧
      (sweep settings kind now).transcript world l w = [] := by
  have hupdate : l.updateRegistry kind (·.removeIf (·.isExpiredAt now)) = ([], l) := by
    simp only [Ledger.updateRegistry, Registry.removeIf_of_none h, Ledger.setRegistry_registry]
  simp only [sweep, deleteRecords, Dialogue.run_bind, Dialogue.run_take, hupdate,
    Dialogue.run_pure, Dialogue.transcript_bind, Dialogue.transcript_take,
    Dialogue.transcript_pure, List.append_nil, List.map_nil, and_self]

end Injection

namespace Plane

/-- What a sweep does to a control plane, with the records that it answers and the exchanges that it
has. -/
structure Swept (p : Plane) (kind : ResourceKind) (now : Instant) (s s' : State)
    (records : List FaultRecord) (exchanges : List Exchange) : Prop where
  reported : ∀ r', r' ∈ records ↔ ∃ id r, (s.ledger.registry kind).get? id = some r ∧
    r.endTime.isBefore now = true ∧ r' = { r with status := .expired }
  distinct : (records.map (·.id)).Nodup
  calls : exchanges.map (·.1) = records.map fun r =>
    .cluster (.delete kind r.id p.settings.namespaceName)
  kept : ∀ id, (s'.ledger.registry kind).get? id =
    ((s.ledger.registry kind).get? id).filter fun r => !r.endTime.isBefore now
  others : ∀ k, k ≠ kind → s'.ledger.registry k = s.ledger.registry k
  clock : s'.ledger.clock = s.ledger.clock
  directory : s'.directory = s.directory

section

variable {ω : Type} (p : Plane) (world : World ω) (kind : ResourceKind) (now : Instant) (s : State)
  (w : ω)

theorem run_sweep :
    ((p.sweep kind now).run world s w).2.1 =
        { s with ledger := (s.ledger.updateRegistry kind (·.removeIf (·.isExpiredAt now))).2 } ∧
      ((p.sweep kind now).run world s w).1 =
        ((s.ledger.registry kind).removeIf (·.isExpiredAt now)).1.map fun r =>
          { r with status := .expired } := by
  obtain ⟨hledger, hrecords⟩ := Injection.run_sweep world p.settings kind now s.ledger w
  rw [sweep, run_onLedger, hledger, hrecords]
  exact ⟨rfl, rfl⟩

theorem transcript_sweep :
    ((p.sweep kind now).transcript world s w).map (·.1) =
      ((p.sweep kind now).run world s w).1.map fun r =>
        .cluster (.delete kind r.id p.settings.namespaceName) := by
  rw [sweep, transcript_onLedger, run_onLedger, ← Dialogue.calls_eq_map, calls_sweep]

theorem swept :
    p.Swept kind now s ((p.sweep kind now).run world s w).2.1 ((p.sweep kind now).run world s w).1
      ((p.sweep kind now).transcript world s w) := by
  obtain ⟨hstate, hrecords⟩ := p.run_sweep world kind now s w
  have hcalls := p.transcript_sweep world kind now s w
  rw [hrecords] at hcalls ⊢
  rw [hstate]
  refine ⟨?_, ?_, hcalls, ?_, ?_, ?_, rfl⟩
  · intro r'
    simp only [Registry.removeIf, List.mem_map, List.mem_filter, Registry.mem_values_iff]
    constructor
    · rintro ⟨r, ⟨⟨id, found⟩, ended⟩, rfl⟩
      exact ⟨id, r, found, ended, rfl⟩
    · rintro ⟨id, r, found, ended, rfl⟩
      exact ⟨r, ⟨⟨id, found⟩, ended⟩, rfl⟩
  · -- A record that is answered carries the id that it was tracked under.
    have hnodup := (s.ledger.registry kind).nodup_ids
    rw [Registry.ids_eq_map] at hnodup
    rw [List.map_map]
    exact hnodup.sublist (List.filter_sublist.map _)
  · intro id
    rw [Ledger.registry_updateRegistry, if_pos rfl, Registry.get?_removeIf]
    rfl
  · intro k hk
    rw [Ledger.registry_updateRegistry, if_neg hk]
  · exact s.ledger.clock_updateRegistry kind (·.removeIf (·.isExpiredAt now))

theorem sweep_sweep {later : Instant} (le : later.isBefore now = false) {ω' : Type}
    (world' : World ω') (w' : ω') :
    let first := (p.sweep kind now).run world s w
    let second := (p.sweep kind later).run world first.2.1 first.2.2
    let alone := (p.sweep kind later).run world' s w'
    second.2.1 = alone.2.1 ∧ (first.1 ++ second.1).Perm alone.1 := by
  intro first second alone
  obtain ⟨hfirst, hfirstRecords⟩ := p.run_sweep world kind now s w
  obtain ⟨hsecond, hsecondRecords⟩ := p.run_sweep world kind later first.2.1 first.2.2
  obtain ⟨halone, haloneRecords⟩ := p.run_sweep world' kind later s w'
  have hexpired : ∀ r : FaultRecord, r.isExpiredAt now = true → r.isExpiredAt later = true :=
    fun r ended => Time.Instant.isBefore_of_le ended le
  obtain ⟨hregistry, hrecords⟩ := (s.ledger.registry kind).removeIf_removeIf hexpired
  have hbetween : first.2.1.ledger.registry kind =
      ((s.ledger.registry kind).removeIf (·.isExpiredAt now)).2 := by
    rw [hfirst, Ledger.registry_updateRegistry, if_pos rfl]
  rw [hbetween] at hsecondRecords
  refine ⟨?_, ?_⟩
  · have hledger := (s.ledger.updateRegistry_updateRegistry kind (·.removeIf (·.isExpiredAt now))
      (·.removeIf (·.isExpiredAt later))).trans (congrArg (s.ledger.setRegistry kind) hregistry)
    rw [hsecond, halone, hfirst]
    exact congrArg (fun l => { s with ledger := l }) hledger
  · rw [hfirstRecords, hsecondRecords, haloneRecords, ← List.map_append]
    exact hrecords.map _

/-- After a sweep, a sweep that is not later finds nothing to do. -/
theorem sweep_again {earlier : Instant} (le : now.isBefore earlier = false) (w' : ω) :
    let first := (p.sweep kind now).run world s w
    (p.sweep kind earlier).run world first.2.1 w' = ([], first.2.1, w') ∧
      (p.sweep kind earlier).transcript world first.2.1 w' = [] := by
  intro first
  have hleft : ∀ id r, (first.2.1.ledger.registry kind).get? id = some r →
      r.isExpiredAt earlier = false := by
    intro id r found
    rw [(p.swept world kind now s w).kept, Option.filter_eq_some_iff] at found
    refine Bool.eq_false_iff.2 fun ended => ?_
    have hended : r.endTime.isBefore now = true := Time.Instant.isBefore_of_le ended le
    rw [hended] at found
    cases found.2
  obtain ⟨hrun, htranscript⟩ := run_sweep_of_none world p.settings kind hleft w'
  rw [sweep, run_onLedger, transcript_onLedger, hrun, htranscript]
  exact ⟨rfl, rfl⟩

end

/-- A sweep takes out the records that have ended, and no other. It matters neither how often nor
against which cluster, but only up to which instant is swept. -/
theorem sweep_exact {ω ω' : Type} (p : Plane) (world : World ω) (world' : World ω')
    (kind : ResourceKind) (now : Instant) (s : State) (w : ω) (w' : ω') :
    let first := (p.sweep kind now).run world s w
    p.Swept kind now s first.2.1 first.1 ((p.sweep kind now).transcript world s w) ∧
      (∀ later, later.isBefore now = false →
        let second := (p.sweep kind later).run world first.2.1 first.2.2
        let alone := (p.sweep kind later).run world' s w'
        second.2.1 = alone.2.1 ∧ (first.1 ++ second.1).Perm alone.1) ∧
      ∀ earlier, now.isBefore earlier = false →
        (p.sweep kind earlier).run world first.2.1 first.2.2 = ([], first.2) ∧
          (p.sweep kind earlier).transcript world first.2.1 first.2.2 = [] := by
  intro first
  refine ⟨p.swept world kind now s w, ?_, ?_⟩
  · intro later le
    exact p.sweep_sweep world kind now s w le world' w'
  · intro earlier le
    exact p.sweep_again world kind now s w le first.2.2

/-! The delay ends at 300 seconds. It is tracked at that instant and not a nanosecond later, although
the cluster does not delete it. -/

theorem sweep_exact_checkout :
    let p : Plane := ⟨{}, {}⟩
    let ended : FaultRecord :=
      ⟨"network-delay-checkout-1", "checkout", .networkDelay, 10, 5, ⟨0, 0⟩, ⟨300, 0⟩, .expired⟩
    let first := (p.sweep .networkChaos ⟨300, 0⟩).run World.failing delayedCheckout ()
    let second := (p.sweep .networkChaos ⟨300, 1⟩).run World.failing first.2.1 ()
    first.1 = [] ∧
      first.2.1.ledger.network.get? ended.id = some { ended with status := .active } ∧
      second.1 = [ended] ∧ second.2.1.ledger.network.get? ended.id = none := by
  intro p ended first second
  have later : Instant.isBefore ⟨300, 1⟩ ⟨300, 0⟩ = false := by decide
  obtain ⟨swept, twice, -⟩ := p.sweep_exact World.failing World.failing .networkChaos ⟨300, 0⟩
    delayedCheckout () ()
  obtain ⟨hstate, hrecords⟩ := twice ⟨300, 1⟩ later
  have hfirst : first.1 = [] := by rfl
  have halone : ((p.sweep .networkChaos ⟨300, 1⟩).run World.failing delayedCheckout ()).1 =
      [ended] := by rfl
  rw [hfirst, halone] at hrecords
  have hsecond : second.1 = [ended] := List.perm_singleton.1 hrecords
  have htracked : (delayedCheckout.ledger.registry .networkChaos).get? ended.id =
      some { ended with status := .active } := by rfl
  have hkept := swept.kept ended.id
  rw [htracked, Option.filter_some] at hkept
  have hgone : second.2.1.ledger.network.get? ended.id = none :=
    (congrArg (fun s : State => s.ledger.network.get? ended.id) hstate).trans (by rfl)
  exact ⟨hfirst, hkept, hsecond, hgone⟩

end Plane

end FaultPlane
