import FaultPlane.Injection.Ledger

/-!
# What is tracked

What the operations on a registry do to the ids in it, and what the changes of a ledger do to the
faults that it tracks.
-/

namespace FaultPlane.Injection

/-! ### Registries -/

namespace Registry

theorem ids_keep (r : Registry) (q : String → Bool) :
    (r.keep fun id _ => q id).ids = r.ids.filter q := by
  simp only [ids, Table.keys, keep, Table.filter, List.filter_map, Function.comp_def]

theorem values_keep (r : Registry) (q : FaultRecord → Bool) :
    (r.keep fun _ record => q record).records.values = r.records.values.filter q := by
  simp only [Table.values, keep, Table.filter, List.filter_map, Function.comp_def]

theorem mem_values_iff (r : Registry) {record : FaultRecord} :
    record ∈ r.records.values ↔ ∃ id, r.get? id = some record :=
  r.records.mem_values_iff

theorem ext {r r' : Registry} (h : r.records = r'.records) : r = r' := by
  cases r
  cases r'
  cases h
  rfl

theorem remove_of_untracked {r : Registry} {id : String} (h : r.get? id = none) :
    (r.remove id).2 = r := by
  have hkept : ∀ k record, r.records.get? k = some record → decide (k ≠ id) = true := by
    intro k record found
    refine decide_eq_true ?_
    rintro rfl
    cases h.symm.trans found
  exact ext (Table.filter_eq_self hkept)

theorem ids_remove (r : Registry) (id : String) : (r.remove id).2.ids = r.ids.erase id := by
  rw [r.nodup_ids.erase_eq_filter]
  refine (r.ids_keep fun k => decide (k ≠ id)).trans ?_
  refine List.filter_congr fun k _ => ?_
  by_cases h : k = id <;> simp [h]

theorem remove_conserved (r : Registry) (id : String) :
    (((r.remove id).1.map (·.id)).toList ++ (r.remove id).2.ids).Perm r.ids := by
  rw [ids_remove]
  cases h : r.get? id with
  | none =>
    have absent : id ∉ r.ids := by
      intro inside
      obtain ⟨record, found⟩ := r.mem_ids_iff.1 inside
      rw [h] at found
      cases found
    have hremove : (r.remove id).1 = none := h
    rw [hremove, List.erase_of_not_mem absent]
    exact List.Perm.refl _
  | some record =>
    have inside : id ∈ r.ids := r.mem_ids_iff.2 ⟨record, h⟩
    have hremove : (r.remove id).1 = some record := h
    rw [hremove]
    simp only [Option.map_some, Option.toList_some, r.keyed h]
    exact (List.perm_cons_erase inside).symm

theorem removeIf_conserved (r : Registry) (q : FaultRecord → Bool) :
    ((r.removeIf q).1.map (·.id) ++ (r.removeIf q).2.ids).Perm r.ids := by
  rw [ids_eq_map, ids_eq_map, ← List.map_append]
  refine List.Perm.map _ ?_
  have kept : (r.removeIf q).2.records.values = r.records.values.filter fun x => !q x :=
    r.values_keep fun x => !q x
  rw [kept]
  exact List.filter_append_perm q r.records.values

theorem removeIf_of_none {r : Registry} {q : FaultRecord → Bool}
    (h : ∀ id record, r.get? id = some record → q record = false) : r.removeIf q = ([], r) := by
  have hnone : r.records.values.filter q = [] := by
    refine List.filter_eq_nil_iff.2 fun record inside => ?_
    obtain ⟨id, found⟩ := r.mem_values_iff.1 inside
    exact Bool.eq_false_iff.1 (h id record found)
  have hkept : ∀ id record, r.records.get? id = some record → (!q record) = true := by
    intro id record found
    rw [h id record found]
    rfl
  have hall : r.keep (fun _ record => !q record) = r := ext (Table.filter_eq_self hkept)
  rw [removeIf, hnone, hall]

/-- Of two conditions in turn, the second of them wider, all that the second alone would remove is
removed. -/
theorem removeIf_removeIf (r : Registry) {q q' : FaultRecord → Bool}
    (wider : ∀ record, q record = true → q' record = true) :
    ((r.removeIf q).2.removeIf q').2 = (r.removeIf q').2 ∧
      ((r.removeIf q).1 ++ ((r.removeIf q).2.removeIf q').1).Perm (r.removeIf q').1 := by
  have hkeep : ∀ record, (!q' record && !q record) = !q' record := by
    intro record
    cases hq : q record with
    | false => simp
    | true => simp [wider record hq]
  have hremove : ∀ record, (q record && q' record) = q record := by
    intro record
    cases hq : q record with
    | false => rfl
    | true => exact wider record hq
  constructor
  · refine ext (Table.ext ?_)
    simp only [removeIf, keep, Table.filter, List.filter_filter, hkeep]
  · have hsplit := List.filter_append_perm q (r.records.values.filter q')
    simp only [removeIf, values_keep, List.filter_filter, hremove] at hsplit ⊢
    simpa only [Bool.and_comm] using hsplit

theorem mem_ids_removeIf (r : Registry) (q : FaultRecord → Bool) (id : String) :
    id ∈ (r.removeIf q).2.ids ↔ id ∈ r.ids ∧ id ∉ (r.removeIf q).1.map (·.id) := by
  have hperm := r.removeIf_conserved q
  have hnodup := hperm.nodup_iff.2 r.nodup_ids
  have hmem := hperm.mem_iff (a := id)
  rw [List.mem_append] at hmem
  constructor
  · intro kept
    refine ⟨hmem.1 (Or.inr kept), ?_⟩
    intro removed
    exact (List.nodup_append.1 hnodup).2.2 id removed id kept rfl
  · rintro ⟨inside, kept⟩
    exact (hmem.2 inside).resolve_left kept

end Registry

/-! ### What a ledger tracks -/

/-- A resource of the cluster, by its kind and its name. -/
abbrev Resource := ResourceKind × String

def Ledger.track (kind : ResourceKind) (record : FaultRecord) (l : Ledger) : Ledger :=
  (l.updateRegistry kind fun r => ((), r.put record)).2

def Ledger.forget (r : Resource) (l : Ledger) : Ledger :=
  (l.updateRegistry r.1 (·.remove r.2)).2

def Ledger.Tracks (l : Ledger) (r : Resource) : Prop := r.2 ∈ (l.registry r.1).ids

@[simp] theorem Ledger.clock_track (l : Ledger) (kind : ResourceKind) (record : FaultRecord) :
    (l.track kind record).clock = l.clock :=
  l.clock_updateRegistry kind _

@[simp] theorem Ledger.clock_forget (l : Ledger) (r : Resource) : (l.forget r).clock = l.clock :=
  l.clock_updateRegistry r.1 _

variable {l : Ledger}

theorem tracks_updateRegistry {α : Type} (l : Ledger) (kind : ResourceKind)
    (f : Registry → α × Registry) (r : Resource) :
    (l.updateRegistry kind f).2.Tracks r ↔
      if r.1 = kind then r.2 ∈ (f (l.registry kind)).2.ids else l.Tracks r := by
  rw [Ledger.Tracks, Ledger.registry_updateRegistry]
  split <;> rfl

theorem tracks_track {kind : ResourceKind} {record : FaultRecord} {r : Resource} :
    (l.track kind record).Tracks r ↔ r = (kind, record.id) ∨ l.Tracks r := by
  obtain ⟨k, id⟩ := r
  rw [Ledger.track, tracks_updateRegistry]
  by_cases hkind : k = kind
  · subst hkind
    simp only [if_true, Registry.mem_ids_iff, Registry.get?_put, Ledger.Tracks, Prod.mk.injEq,
      true_and]
    by_cases hid : id = record.id <;> simp [hid]
  · simp [hkind]

theorem tracks_forget {r' r : Resource} :
    (l.forget r').Tracks r ↔ l.Tracks r ∧ r ≠ r' := by
  obtain ⟨k, id⟩ := r
  obtain ⟨kind, name⟩ := r'
  rw [Ledger.forget, tracks_updateRegistry]
  by_cases hkind : k = kind
  · subst hkind
    simp only [if_true, Registry.mem_ids_iff, Registry.get?_remove, Ledger.Tracks, ne_eq,
      Prod.mk.injEq, true_and]
    by_cases hid : id = name <;> simp [hid]
  · simp [hkind]

theorem tracks_drain {kind : ResourceKind} {r : Resource} :
    (l.updateRegistry kind (·.drain)).2.Tracks r ↔ l.Tracks r ∧ kind ≠ r.1 := by
  rw [tracks_updateRegistry]
  by_cases hkind : r.1 = kind
  · simp [hkind, Registry.drain]
  · have hkind' : kind ≠ r.1 := fun same => hkind same.symm
    simp [hkind, hkind']

theorem tracks_removeIf {kind : ResourceKind} {q : FaultRecord → Bool} {r : Resource} :
    (l.updateRegistry kind (·.removeIf q)).2.Tracks r ↔
      l.Tracks r ∧ ¬ (kind = r.1 ∧ r.2 ∈ ((l.registry kind).removeIf q).1.map (·.id)) := by
  rw [tracks_updateRegistry]
  by_cases hkind : r.1 = kind
  · subst hkind
    rw [if_pos rfl, Registry.mem_ids_removeIf]
    simp [Ledger.Tracks]
  · have hkind' : kind ≠ r.1 := fun same => hkind same.symm
    simp [hkind, hkind']

end FaultPlane.Injection
