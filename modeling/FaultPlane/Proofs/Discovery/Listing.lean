import FaultPlane.Proofs.Discovery.Reflection

/-!
# Listings of states

The listing of a directory has one state for each service that was polled, in the order of the ids
that the states carry. A service may send an id of its own choice with its state, so the ids of a
listing need not differ. If they do, the listing does not depend on the order of the entries in the
table (`Reflects.listed`).
-/

namespace FaultPlane

theorem Table.filterMap_get?_perm {α : Type} (table : Table α) {names : List String}
    (once : names.Nodup) (known : ∀ k ∈ table.keys, k ∈ names) :
    (names.filterMap table.get?).Perm table.values := by
  have hkeys : (names.filter fun k => (table.get? k).isSome).Perm table.keys := by
    refine (List.perm_ext_iff_of_nodup (once.filter _) table.nodup).2 fun k => ?_
    rw [List.mem_filter, Option.isSome_iff_exists, ← table.mem_keys_iff]
    exact and_iff_right_of_imp (known k)
  have hfiltered : (names.filter fun k => (table.get? k).isSome).filterMap table.get? =
      names.filterMap table.get? := by
    rw [List.filterMap_filter]
    refine List.filterMap_congr fun k _ => ?_
    cases table.get? k <;> rfl
  have hvalues : table.keys.filterMap table.get? = table.values := by
    have hmap := congrArg (List.filterMap id) table.map_get?_keys
    simpa [List.filterMap_map] using hmap
  rw [← hfiltered, ← hvalues]
  exact hkeys.filterMap table.get?

namespace Discovery

open Contract (ServiceStatus)

/-! ### Sorted listings -/

section

variable (d : Directory)

theorem perm_allStatuses : d.allStatuses.Perm d.statuses.values := List.mergeSort_perm _ _

theorem ordered_allStatuses :
    d.allStatuses.Pairwise fun a b => a.serviceId ≤ b.serviceId := by
  have hsorted : d.allStatuses.Pairwise fun a b => decide (a.serviceId ≤ b.serviceId) = true := by
    refine List.pairwise_mergeSort (fun a b c hab hbc => ?_) (fun a b => ?_) _
    · rw [decide_eq_true_eq] at hab hbc ⊢
      exact String.le_trans hab hbc
    · rw [Bool.or_eq_true, decide_eq_true_eq, decide_eq_true_eq]
      exact String.le_total a.serviceId b.serviceId
  exact hsorted.imp fun h => of_decide_eq_true h

theorem increasing_iff_nodup {listing : List ServiceStatus}
    (ordered : listing.Pairwise fun a b => a.serviceId ≤ b.serviceId) :
    (listing.Pairwise fun a b => a.serviceId < b.serviceId) ↔
      (listing.map (·.serviceId)).Nodup := by
  rw [List.Nodup, List.pairwise_map]
  constructor
  · refine List.Pairwise.imp fun {a b} hlt same => ?_
    rw [same] at hlt
    exact String.lt_irrefl _ hlt
  · refine fun different => ordered.imp₂ (fun a b hle hne => ?_) different
    exact String.not_le.1 fun hge => hne (String.le_antisymm hle hge)

/-- States with different ids can be put in order in one way only. -/
theorem eq_of_ordered {listing listing' : List ServiceStatus} (same : listing.Perm listing')
    (different : (listing.map (·.serviceId)).Nodup)
    (ordered : listing.Pairwise fun a b => a.serviceId ≤ b.serviceId)
    (ordered' : listing'.Pairwise fun a b => a.serviceId ≤ b.serviceId) : listing = listing' := by
  refine List.Perm.eq_of_pairwise (fun a b ha hb hab hba => ?_) ordered ordered' same
  exact List.inj_on_of_nodup_map different ha (same.mem_iff.2 hb) (String.le_antisymm hab hba)

end

/-! ### Listings of the polled services -/

/-- The states that are noted of some services. -/
def Directory.statesOf (d : Directory) (services : List ServiceEntry) : List ServiceStatus :=
  services.filterMap fun service => d.statuses.get? service.id

/-- The directory with the entries of its states in another order. -/
def Directory.Reordered (d d' : Directory) : Prop :=
  d'.infos = d.infos ∧ d'.statuses.entries.Perm d.statuses.entries

/-- What is listed of some services after some polls. -/
structure Listed (services : List ServiceEntry) (history : List Observation) (d : Directory) :
    Prop where
  unpolled : ∀ id, d.statuses.get? id = none ↔ ∀ o ∈ history, o.service.id ≠ id
  /-- A state carries the id of its service, unless the service has sent another one with it. -/
  carried : ∀ service ∈ services, ∀ earlier o, IsLast history service.id earlier o →
    (d.statuses.get? service.id).map (·.serviceId) = some
      (match o.status with
        | .ok status => if status.serviceId = "" then service.id else status.serviceId
        | .error _ => service.id)
  once : ∀ d', d.Reordered d' → d'.allStatuses.Perm (d.statesOf services)
  ordered : ∀ d', d.Reordered d' → d'.allStatuses.Pairwise fun a b => a.serviceId ≤ b.serviceId
  increasing : ∀ d', d.Reordered d' →
    ((d'.allStatuses.Pairwise fun a b => a.serviceId < b.serviceId) ↔
      ((d.statesOf services).map (·.serviceId)).Nodup)
  unique : ((d.statesOf services).map (·.serviceId)).Nodup →
    ∀ d', d.Reordered d' → d'.allStatuses = d.allStatuses

theorem Reflects.perm_statesOf {services : List ServiceEntry} {history : List Observation}
    {d : Directory} (h : Reflects services history d) (distinct : (services.map (·.id)).Nodup) :
    (d.statesOf services).Perm d.statuses.values := by
  have hperm := d.statuses.filterMap_get?_perm distinct fun k inside => h.configured k (.inr inside)
  rw [List.filterMap_map] at hperm
  exact hperm

theorem Reflects.listed {services : List ServiceEntry} {history : List Observation} {d : Directory}
    (h : Reflects services history d) (distinct : (services.map (·.id)).Nodup) :
    Listed services history d := by
  have honce : ∀ d', d.Reordered d' → d'.allStatuses.Perm (d.statesOf services) := by
    intro d' reordered
    have hvalues : d'.statuses.values.Perm d.statuses.values := reordered.2.map Prod.snd
    exact (perm_allStatuses d').trans (hvalues.trans (h.perm_statesOf distinct).symm)
  have hids : ∀ d', d.Reordered d' → ((d'.allStatuses.map (·.serviceId)).Nodup ↔
      ((d.statesOf services).map (·.serviceId)).Nodup) :=
    fun d' reordered => ((honce d' reordered).map _).nodup_iff
  have hsame : d.Reordered d := ⟨rfl, .refl _⟩
  refine ⟨h.unpolled, ?_, honce, fun d' _ => ordered_allStatuses d', ?_, ?_⟩
  · intro service inside earlier o last
    cases hstatus : o.status with
    | ok status => rw [h.online service inside earlier o last status hstatus, Option.map_some]
    | error failure => rw [h.offline service inside earlier o last failure hstatus, Option.map_some]
  · intro d' reordered
    rw [increasing_iff_nodup (ordered_allStatuses d')]
    exact hids d' reordered
  · intro different d' reordered
    have hperm := (honce d' reordered).trans (honce d hsame).symm
    exact eq_of_ordered hperm ((hids d' reordered).2 different) (ordered_allStatuses d')
      (ordered_allStatuses d)

end Discovery

end FaultPlane
