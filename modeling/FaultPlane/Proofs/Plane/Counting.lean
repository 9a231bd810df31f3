import FaultPlane.Proofs.Config.Overrides
import FaultPlane.Proofs.Plane.Clearing
import FaultPlane.Proofs.Text.Trimming

/-!
# The counts of a stop-all

A stop-all pass goes through the names that the cluster lists, as often as each is listed. A name
that is not protected is deleted and counted by the answer to that; one that is protected is counted
as skipped and left alone, as every item of the variable for protected names is
(`stopAll_counted`).
-/

namespace FaultPlane

open Injection
open Dialogue (Exchange)
open Text (Padded)

namespace Injection

variable {ω : Type} (world : World ω) (settings : InjectionSettings) (kind : ResourceKind)

/-- What the cluster is asked after it has listed the names to a stop-all. -/
def deletes (l : Ledger) (w : ω) : List Exchange :=
  ((stopAll settings kind).transcript world l w).tail

variable (l : Ledger) (w : ω)

theorem transcript_stopAll :
    (stopAll settings kind).transcript world l w =
      ⟨.cluster (.list kind settings.namespaceName), listing world settings kind w⟩ ::
        deletes world settings kind l w := rfl

theorem calls_deletes :
    (deletes world settings kind l w).map (·.1) =
      ((listing world settings kind w).filter fun name =>
        !settings.protectedNames.contains name).map fun name =>
          .cluster (.delete kind name settings.namespaceName) :=
  (Dialogue.calls_eq_map world _ _ _).symm.trans (calls_deleteListed ..)

theorem counts_stopAll :
    ((stopAll settings kind).run world l w).1 =
      { cleared := UInt64.ofNat (l.registry kind).size
        deleted := UInt64.ofNat ((deletes world settings kind l w).countP (·.isConfirmedDelete))
        failed := UInt64.ofNat ((deletes world settings kind l w).countP (·.isFailedDelete))
        skipped := UInt64.ofNat
          ((listing world settings kind w).countP settings.protectedNames.contains) } := by
  have hsize : (l.registry kind).drain.1.length = (l.registry kind).size := List.length_map _
  have hcounts := counts_deleteListed world settings kind (listing world settings kind w)
    { cleared := UInt64.ofNat (l.registry kind).drain.1.length }
    (l.updateRegistry kind (·.drain)).2
    (world (.cluster (.list kind settings.namespaceName)) w).2
  simp only [UInt64.zero_add] at hcounts
  rw [← hsize]
  exact hcounts

/-- Every name that is listed is counted once. -/
theorem length_listing :
    (deletes world settings kind l w).countP (·.isConfirmedDelete) +
        (deletes world settings kind l w).countP (·.isFailedDelete) +
        (listing world settings kind w).countP settings.protectedNames.contains =
      (listing world settings kind w).length := by
  have hcalls := calls_deletes world settings kind l w
  have hfailed : (deletes world settings kind l w).countP (·.isFailedDelete) =
      (deletes world settings kind l w).countP fun x => ¬ x.isConfirmedDelete = true := by
    refine List.countP_congr fun x inside => ?_
    have hcall : x.1 ∈ (deletes world settings kind l w).map (·.1) := List.mem_map_of_mem inside
    rw [hcalls] at hcall
    obtain ⟨name, -, hname⟩ := List.mem_map.1 hcall
    obtain ⟨call, answer⟩ := x
    obtain rfl := hname
    simp [Exchange.isFailedDelete, Exchange.isConfirmedDelete]
  have hlength := congrArg List.length hcalls
  rw [List.length_map, List.length_map, ← List.countP_eq_length_filter] at hlength
  rw [hfailed, ← List.length_eq_countP_add_countP, hlength,
    List.length_eq_countP_add_countP settings.protectedNames.contains, Nat.add_comm]
  simp

end Injection

namespace Plane

/-- What a stop-all pass does to a control plane when the cluster lists some names, with the deletes
that follow and the counts that are answered. -/
structure Counted (p : Plane) (kind : ResourceKind) (s s' : State) (names : List String)
    (deletes : List Exchange) (summary : StopSummary) : Prop where
  emptied : ∀ k, s'.ledger.registry k = if k = kind then .empty else s.ledger.registry k
  clock : s'.ledger.clock = s.ledger.clock
  directory : s'.directory = s.directory
  calls : deletes.map (·.1) =
    (names.filter fun name => !p.settings.protectedNames.contains name).map fun name =>
      .cluster (.delete kind name p.settings.namespaceName)
  cleared : summary.cleared = UInt64.ofNat (s.ledger.registry kind).size
  deleted : summary.deleted = UInt64.ofNat (deletes.countP (·.isConfirmedDelete))
  failed : summary.failed = UInt64.ofNat (deletes.countP (·.isFailedDelete))
  skipped : summary.skipped = UInt64.ofNat (names.countP p.settings.protectedNames.contains)
  /-- Memory holds no list whose length 64 bits cannot count; there the sum is exact. -/
  total : summary.deleted + summary.failed + summary.skipped = UInt64.ofNat names.length ∧
    (names.length < UInt64.size →
      summary.deleted.toNat + summary.failed.toNat + summary.skipped.toNat = names.length)
  guarded : ∀ name ∈ p.settings.protectedNames, ∀ k answer,
    ⟨.cluster (.delete k name p.settings.namespaceName), answer⟩ ∉ deletes

variable {ω : Type} (p : Plane) (world : World ω) (s : State) (w : ω) (kind : ResourceKind)

theorem counted :
    p.Counted kind s ((p.stopAll kind).run world s w).2.1 (listing world p.settings kind w)
      (deletes world p.settings kind s.ledger w) ((p.stopAll kind).run world s w).1 := by
  have hledger := (run_stopAll world p.settings kind s.ledger w).1
  have hcalls := calls_deletes world p.settings kind s.ledger w
  have hlength := length_listing world p.settings kind s.ledger w
  rw [stopAll, run_onLedger, hledger, counts_stopAll]
  refine ⟨?_, ?_, rfl, hcalls, rfl, rfl, rfl, rfl, ⟨?_, ?_⟩, ?_⟩
  · exact fun k => s.ledger.registry_setRegistry kind k .empty
  · exact s.ledger.clock_setRegistry kind .empty
  · rw [← UInt64.ofNat_add, ← UInt64.ofNat_add, hlength]
  · intro small
    rw [UInt64.toNat_ofNat_of_lt' (by omega), UInt64.toNat_ofNat_of_lt' (by omega),
      UInt64.toNat_ofNat_of_lt' (by omega), hlength]
  · intro name guarded k answer inside
    have hcall := List.mem_map_of_mem (f := (·.1)) inside
    rw [hcalls] at hcall
    simp [guarded] at hcall

/-- The names that a control plane protects come from the environment, which gives them as parts
between commas. The port is read before them, and they are passed over if it cannot be. -/
structure GivenByEnvironment (p : Plane) (parts : List String) : Prop where
  uncut : ∀ part ∈ parts, ',' ∉ part.toList
  read : ∃ lookup c, p.config = (Config.applyEnvironment lookup c).1 ∧
    lookup "CHAOS_PROTECTED_RESOURCES" = some (String.intercalate "," parts) ∧
    ∀ port, (Config.applyEnvironment lookup c).2 ≠
      .error (.invalidVariable "CONTROL_PLANE_PORT" port)

theorem mem_protectedNames {p : Plane} {parts : List String} (given : p.GivenByEnvironment parts)
    (name : String) :
    name ∈ p.settings.protectedNames ↔ name ≠ "" ∧ ∃ part ∈ parts, Padded part name := by
  obtain ⟨uncut, lookup, c, hconfig, set, reached⟩ := given
  have hnames : p.settings.protectedNames = Text.commaItems (String.intercalate "," parts) := by
    rw [← Config.protectedNames_applyEnvironment lookup set reached, ← hconfig]
    rfl
  rw [hnames, Text.mem_commaItems_intercalate uncut]

/-- A stop-all pass counts every name that is listed and deletes none that is protected, and what
the environment gives to be protected is. -/
theorem stopAll_counted :
    ∃ names deletes,
      (p.stopAll kind).transcript world s w =
          ⟨.cluster (.list kind p.settings.namespaceName), names⟩ :: deletes ∧
        p.Counted kind s ((p.stopAll kind).run world s w).2.1 names deletes
          ((p.stopAll kind).run world s w).1 ∧
        ∀ parts, p.GivenByEnvironment parts → ∀ part ∈ parts, ∀ name, Padded part name →
          name ≠ "" → name ∈ p.settings.protectedNames ∧
            ∀ answer, ⟨.cluster (.delete kind name p.settings.namespaceName), answer⟩ ∉
              deletes := by
  refine ⟨_, _, ?_, p.counted world s w kind, ?_⟩
  · rw [stopAll, transcript_onLedger, transcript_stopAll]
  · intro parts given part member name padded hname
    have guarded := (mem_protectedNames given name).2 ⟨hname, part, member, padded⟩
    exact ⟨guarded, (p.counted world s w kind).guarded name guarded kind⟩

/-! A delay is tracked, its name and another one are listed twice, and the other one is protected. -/

theorem stopAll_counted_checkout :
    let lookup : String → Option String := fun key =>
      if key = "CHAOS_PROTECTED_RESOURCES" then some " baseline,, " else none
    let p : Plane := ⟨(Config.applyEnvironment lookup {}).1, {}⟩
    let name := "network-delay-checkout-1"
    let world := World.accepting fun _ => ["baseline", name, name, "baseline"]
    ((p.stopAll .networkChaos).run world delayedCheckout ()).1 = ⟨1, 2, 0, 2⟩ ∧
      "baseline" ∈ p.settings.protectedNames ∧
      ⟨.cluster (.delete .networkChaos "baseline" p.settings.namespaceName), true⟩ ∉
        (p.stopAll .networkChaos).transcript world delayedCheckout () := by
  intro lookup p name world
  have hread : (Config.applyEnvironment lookup {}).2 = .ok () := by rfl
  have given : p.GivenByEnvironment [" baseline", "", " "] := by
    refine ⟨by decide, lookup, {}, rfl, by decide, ?_⟩
    intro port failed
    rw [hread] at failed
    cases failed
  have padded : Padded " baseline" "baseline" := Text.trim_eq_iff.1 (by decide)
  obtain ⟨names, deletes, htranscript, -, hguarded⟩ :=
    p.stopAll_counted world delayedCheckout () .networkChaos
  obtain ⟨guarded, unmade⟩ :=
    hguarded _ given " baseline" List.mem_cons_self "baseline" padded (by decide)
  refine ⟨by rfl, guarded, ?_⟩
  rw [htranscript, List.mem_cons, not_or]
  exact ⟨by simp, unmade true⟩

end Plane

end FaultPlane
