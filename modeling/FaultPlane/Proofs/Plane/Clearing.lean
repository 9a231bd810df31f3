import FaultPlane.Proofs.Injection.Tracking
import FaultPlane.Proofs.Plane.History

/-!
# What a stop-all leaves behind

A stop-all forgets every record before it asks the cluster for names, and then deletes what is
listed. Its success says that no delete has failed. So a fault that was tracked is gone if its name
was listed and is not protected; nothing is said of one that was not listed, as when the listing
has failed (`cleared_of_success`, `not_always_deleted`).
-/

namespace FaultPlane

open Injection
open Dialogue (Exchange)

/-- Whether a call was a delete that the cluster has not confirmed. -/
def Dialogue.Exchange.isFailedDelete : Exchange → Bool
  | ⟨.cluster (.delete ..), deleted⟩ => !deleted
  | _ => false

/-- Whether a call was a delete that the cluster has confirmed. -/
def Dialogue.Exchange.isConfirmedDelete : Exchange → Bool
  | ⟨.cluster (.delete ..), deleted⟩ => deleted
  | _ => false

namespace Injection

variable {ω : Type} (world : World ω) (settings : InjectionSettings) (kind : ResourceKind)

/-! ### Deleting what is listed -/

section

variable (names : List String) (summary : StopSummary) (l : Ledger) (w : ω)

theorem calls_deleteListed :
    (deleteListed settings kind names summary).calls world l w =
      (names.filter fun name => !settings.protectedNames.contains name).map fun name =>
        .cluster (.delete kind name settings.namespaceName) := by
  induction names generalizing summary w with
  | nil => rfl
  | cons name names ih =>
    rw [deleteListed]
    by_cases guarded : settings.protectedNames.contains name = true
    · rw [if_pos guarded, ih, List.filter_cons_of_neg (by simp only [guarded]; decide)]
    · rw [if_neg guarded, List.filter_cons_of_pos (by simpa using guarded), List.map_cons,
        Dialogue.calls_bind, Dialogue.calls_cluster, Dialogue.run_cluster, ih]
      rfl

/-- Every name adds to one of three counts: as the cluster has answered to its delete, or as one
that is skipped. -/
theorem counts_deleteListed :
    ((deleteListed settings kind names summary).run world l w).1 =
      { cleared := summary.cleared
        deleted := summary.deleted + UInt64.ofNat
          (((deleteListed settings kind names summary).transcript world l w).countP
            (·.isConfirmedDelete))
        failed := summary.failed + UInt64.ofNat
          (((deleteListed settings kind names summary).transcript world l w).countP
            (·.isFailedDelete))
        skipped := summary.skipped + UInt64.ofNat
          (names.countP settings.protectedNames.contains) } := by
  induction names generalizing summary w with
  | nil => simp [deleteListed]
  | cons name names ih =>
    have hassoc : ∀ count rest : UInt64, count + 1 + rest = count + (rest + 1) := by
      intro count rest
      rw [UInt64.add_assoc, UInt64.add_comm 1]
    rw [deleteListed]
    by_cases guarded : settings.protectedNames.contains name = true
    · rw [if_pos guarded, ih, List.countP_cons_of_pos guarded]
      simp [UInt64.ofNat_add, hassoc]
    · rw [if_neg guarded, List.countP_cons_of_neg guarded, Dialogue.run_bind, Dialogue.run_cluster,
        ih, Dialogue.transcript_bind, Dialogue.transcript_cluster, Dialogue.run_cluster,
        List.singleton_append]
      cases hanswer : (world (.cluster (.delete kind name settings.namespaceName)) w).1 <;>
        simp [Exchange.isConfirmedDelete, Exchange.isFailedDelete,
          UInt64.ofNat_add, hassoc]

/-- With fewer names than 64 bits can count, no delete has failed if none is counted. -/
theorem unfailed_deleteListed (small : names.length < UInt64.size) (fresh : summary.failed = 0)
    (success : ((deleteListed settings kind names summary).run world l w).1.failed = 0) :
    ∀ x ∈ (deleteListed settings kind names summary).transcript world l w,
      x.isFailedDelete = false := by
  -- There are at most as many failures as names, so the counter has not wrapped around.
  have hlength : ((deleteListed settings kind names summary).transcript world l w).length ≤
      names.length := by
    have hcalls := calls_deleteListed world settings kind names summary l w
    have hmap := congrArg List.length (Dialogue.calls_eq_map world _ _ _ |>.symm.trans hcalls)
    simp only [List.length_map] at hmap
    rw [hmap]
    exact List.length_filter_le _ _
  have hcount := List.countP_le_length (p := (·.isFailedDelete))
    (l := (deleteListed settings kind names summary).transcript world l w)
  simp only [counts_deleteListed, fresh, UInt64.zero_add] at success
  have hzero := congrArg UInt64.toNat success
  rw [UInt64.toNat_ofNat_of_lt' (by omega), UInt64.toNat_zero, List.countP_eq_zero] at hzero
  exact fun x inside => Bool.eq_false_iff.2 (hzero x inside)

end

/-! ### One pass and both -/

section

variable (l : Ledger) (w : ω)

/-- The names that the cluster lists to a stop-all. -/
def listing : List String := (world (.cluster (.list kind settings.namespaceName)) w).1

theorem mem_calls_stopAll {name : String} {k : ResourceKind} :
    .cluster (.delete k name settings.namespaceName) ∈ (stopAll settings kind).calls world l w ↔
      (name ∈ listing world settings kind w ∧ name ∉ settings.protectedNames) ∧ kind = k := by
  have hcalls : (stopAll settings kind).calls world l w =
      .cluster (.list kind settings.namespaceName) ::
        ((listing world settings kind w).filter fun name =>
          !settings.protectedNames.contains name).map fun name =>
            .cluster (.delete kind name settings.namespaceName) :=
    congrArg (List.cons _) (calls_deleteListed ..)
  rw [hcalls]
  simp

theorem unfailed_stopAll (small : (listing world settings kind w).length < UInt64.size)
    (success : ((stopAll settings kind).run world l w).1.failed = 0) :
    ∀ x ∈ (stopAll settings kind).transcript world l w, x.isFailedDelete = false := by
  intro x inside
  rcases List.mem_cons.1 inside with rfl | later
  · rfl
  · exact unfailed_deleteListed world settings kind _ _ _ _ small rfl success x later

/-- The names that are listed to the pass over a kind, when everything is stopped. -/
def listed (kind : ResourceKind) (l : Ledger) (w : ω) : List String :=
  match kind with
  | .networkChaos => listing world settings .networkChaos w
  | .jvmChaos =>
    listing world settings .jvmChaos ((stopAll settings .networkChaos).run world l w).2.2

theorem transcript_stopEverything :
    (stopEverything settings).transcript world l w =
      (stopAll settings .networkChaos).transcript world l w ++
        (stopAll settings .jvmChaos).transcript world
          ((stopAll settings .networkChaos).run world l w).2.1
          ((stopAll settings .networkChaos).run world l w).2.2 := by
  simp [stopEverything]

theorem listed_stopEverything :
    ⟨.cluster (.list kind settings.namespaceName), listed world settings kind l w⟩ ∈
      (stopEverything settings).transcript world l w := by
  rw [transcript_stopEverything]
  cases kind with
  | networkChaos => exact List.mem_append_left _ List.mem_cons_self
  | jvmChaos => exact List.mem_append_right _ List.mem_cons_self

theorem mem_calls_stopEverything (name : String) :
    .cluster (.delete kind name settings.namespaceName) ∈
        (stopEverything settings).calls world l w ↔
      name ∈ listed world settings kind l w ∧ name ∉ settings.protectedNames := by
  rw [Dialogue.calls_eq_map, transcript_stopEverything, List.map_append, List.mem_append,
    ← Dialogue.calls_eq_map, ← Dialogue.calls_eq_map, mem_calls_stopAll, mem_calls_stopAll]
  cases kind <;> simp [listed]

theorem unfailed_stopEverything
    (small : ∀ kind, (listed world settings kind l w).length < UInt64.size)
    (success : ((stopEverything settings).run world l w).1.success = true) :
    ∀ x ∈ (stopEverything settings).transcript world l w, x.isFailedDelete = false := by
  obtain ⟨hnetwork, hjvm⟩ : ((stopAll settings .networkChaos).run world l w).1.failed = 0 ∧
      ((stopAll settings .jvmChaos).run world
        ((stopAll settings .networkChaos).run world l w).2.1
        ((stopAll settings .networkChaos).run world l w).2.2).1.failed = 0 := by
    simpa [stopEverything] using success
  rw [transcript_stopEverything]
  intro x inside
  rcases List.mem_append.1 inside with network | jvm
  · exact unfailed_stopAll world settings _ _ _ (small .networkChaos) hnetwork x network
  · exact unfailed_stopAll world settings _ _ _ (small .jvmChaos) hjvm x jvm

end

end Injection

namespace Plane

/-- What the calls of a stop-all and their answers say about a resource, when the cluster has listed
some names of its kind. -/
structure Cleared (settings : InjectionSettings) (exchanges : List Exchange) (r : Resource)
    (names : List String) : Prop where
  listed : ⟨.cluster (.list r.1 settings.namespaceName), names⟩ ∈ exchanges
  deleted : r.2 ∈ names → r.2 ∈ settings.protectedNames ∨
    ⟨.cluster (.delete r.1 r.2 settings.namespaceName), true⟩ ∈ exchanges
  unlisted : r.2 ∉ names → ∀ answer,
    ⟨.cluster (.delete r.1 r.2 settings.namespaceName), answer⟩ ∉ exchanges

variable {ω : Type} (p : Plane) (world : World ω) (s : State) (w : ω)

/-- Whatever was tracked before a stop-all that answers success is not tracked after it, and was
deleted if it was listed, unless it is protected. -/
theorem cleared_of_success
    (small : ∀ kind names, ⟨.cluster (.list kind p.settings.namespaceName), names⟩ ∈
      p.stopEverything.transcript world s w → names.length < UInt64.size)
    (success : (p.stopEverything.run world s w).1.success = true) {r : Resource}
    (tracked : s.ledger.Tracks r) :
    ¬ (p.stopEverything.run world s w).2.1.ledger.Tracks r ∧
      ∃ names, Cleared p.settings (p.stopEverything.transcript world s w) r names := by
  obtain ⟨kind, name⟩ := r
  unfold stopEverything at small success ⊢
  rw [run_onLedger] at success ⊢
  rw [transcript_onLedger] at small ⊢
  have hcalls := mem_calls_stopEverything world p.settings kind s.ledger w name
  rw [Dialogue.calls_eq_map, List.mem_map] at hcalls
  have hkept := unfailed_stopEverything world p.settings s.ledger w
    (fun k => small k _ (listed_stopEverything world p.settings k s.ledger w)) success
  refine ⟨?_, listed world p.settings kind s.ledger w, ?_, ?_, ?_⟩
  · intro still
    rw [Ledger.Tracks, (run_stopEverything world p.settings s.ledger w).2.1] at still
    cases still
  · exact listed_stopEverything world p.settings kind s.ledger w
  · intro inside
    by_cases guarded : name ∈ p.settings.protectedNames
    · exact Or.inl guarded
    · obtain ⟨⟨call, deleted⟩, made, rfl⟩ := hcalls.2 ⟨inside, guarded⟩
      have hdeleted : deleted = true := (Bool.not_eq_false' deleted).mp (hkept _ made)
      rw [← hdeleted]
      exact Or.inr made
  · intro unlisted answer made
    exact unlisted (hcalls.1 ⟨_, made, rfl⟩).1

/-! ### A fault on the service checkout -/

/-- The state after five minutes of delay were accepted for the service checkout. -/
def delayedCheckout : State :=
  ((⟨{}, {}⟩ : Plane).apply ⟨0, 0⟩ (.networkDelay
    { service := "checkout", delaySeconds := some 10, durationMinutes := some 5 })).run
      (World.accepting fun _ => []) {} () |>.2.1

theorem cleared_of_success_checkout :
    let p : Plane := ⟨{}, {}⟩
    let name := "network-delay-checkout-1"
    let world := World.accepting fun kind => if kind = .networkChaos then [name] else []
    (p.stopEverything.run world delayedCheckout ()).1.success = true ∧
      delayedCheckout.ledger.Tracks (.networkChaos, name) ∧
      ∃ names, Cleared p.settings (p.stopEverything.transcript world delayedCheckout ())
        (.networkChaos, name) names := by
  intro p name world
  have htranscript : p.stopEverything.transcript world delayedCheckout () =
      [⟨.cluster (.list .networkChaos "chaos"), [name]⟩,
        ⟨.cluster (.delete .networkChaos name "chaos"), true⟩,
        ⟨.cluster (.list .jvmChaos "chaos"), []⟩] := by rfl
  have success : (p.stopEverything.run world delayedCheckout ()).1.success = true := by rfl
  have tracked : delayedCheckout.ledger.Tracks (.networkChaos, name) := List.mem_cons_self
  refine ⟨success, tracked, (p.cleared_of_success world _ () ?_ success tracked).2⟩
  rw [htranscript]
  intro kind names inside
  have hlength : names.length ≤ 1 := by
    cases kind with
    | networkChaos =>
      obtain ⟨-, rfl⟩ : p.settings.namespaceName = "chaos" ∧ names = [name] := by
        simpa using inside
      exact Nat.le_refl 1
    | jvmChaos =>
      obtain ⟨-, rfl⟩ : p.settings.namespaceName = "chaos" ∧ names = [] := by
        simpa using inside
      exact Nat.zero_le 1
  exact Nat.lt_of_le_of_lt hlength (by decide)

/-- A successful stop-all may have dropped a fault without a delete. -/
theorem not_always_deleted :
    ¬ ∀ (p : Plane) (ω : Type) (world : World ω) (s : State) (w : ω),
      (p.stopEverything.run world s w).1.success = true → ∀ r : Resource, s.ledger.Tracks r →
        r.2 ∈ p.settings.protectedNames ∨
          ⟨.cluster (.delete r.1 r.2 p.settings.namespaceName), true⟩ ∈
            p.stopEverything.transcript world s w := by
  intro always
  have tracked : delayedCheckout.ledger.Tracks (.networkChaos, "network-delay-checkout-1") :=
    List.mem_cons_self
  have htranscript : (⟨{}, {}⟩ : Plane).stopEverything.transcript (World.accepting fun _ => [])
      delayedCheckout () = [⟨.cluster (.list .networkChaos "chaos"), []⟩,
        ⟨.cluster (.list .jvmChaos "chaos"), []⟩] := by rfl
  have hcases := always ⟨{}, {}⟩ Unit (World.accepting fun _ => []) delayedCheckout () rfl _ tracked
  rw [htranscript] at hcases
  rcases hcases with guarded | deleted
  · cases guarded
  · simp at deleted

end Plane

end FaultPlane
