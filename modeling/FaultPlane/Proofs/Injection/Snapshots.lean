import Mathlib.Data.List.Induction
import Mathlib.Data.List.Nodup
import FaultPlane.Proofs.Injection.Tracking

/-!
# Listings of tracked records

A registry has in it what was put there last and was not taken out since (`get?_after`). The listing
of a registry is the only list that has every one of these records once and in the order of their
starts (`Snapshot.unique`), so neither the places of the records in the table nor the way that they
came there have a part in it.
-/

namespace FaultPlane.Injection

open FaultPlane.Time (Instant)

/-! ### Changes of a registry -/

namespace Registry

inductive Change where
  | put (record : FaultRecord)
  | remove (id : String)
  | removeIf (p : FaultRecord → Bool)
  | drain

def change (r : Registry) : Change → Registry
  | .put record => r.put record
  | .remove id => (r.remove id).2
  | .removeIf p => (r.removeIf p).2
  | .drain => r.drain.2

/-- A registry that was empty at first, after some changes. -/
def after (changes : List Change) : Registry := changes.foldl change .empty

/-- Whether a record is no longer in a registry after a change. -/
def Change.Drops (record : FaultRecord) : Change → Prop
  | .put other => other.id = record.id
  | .remove id => id = record.id
  | .removeIf p => p record = true
  | .drain => True

/-- Whether a record was put by one of some changes and dropped by none after that. -/
def Remains (changes : List Change) (record : FaultRecord) : Prop :=
  ∃ earlier later, changes = earlier ++ .put record :: later ∧ ∀ c ∈ later, ¬ c.Drops record

theorem get?_change (r : Registry) (c : Change) {id : String} {record : FaultRecord} :
    (r.change c).get? id = some record ↔
      (c = .put record ∧ record.id = id) ∨ (r.get? id = some record ∧ ¬ c.Drops record) := by
  have hkeyed : r.get? id = some record → record.id = id := r.keyed
  cases c with
  | put other =>
    rw [change, get?_put, Change.put.injEq, Change.Drops]
    by_cases same : id = other.id
    · rw [if_pos same, Option.some.injEq]
      constructor
      · rintro rfl
        exact .inl ⟨rfl, same.symm⟩
      · rintro (⟨rfl, -⟩ | ⟨found, fresh⟩)
        · rfl
        · exact absurd (same.symm.trans (hkeyed found).symm) fresh
    · rw [if_neg same]
      constructor
      · intro found
        exact .inr ⟨found, fun drops => same ((hkeyed found).symm.trans drops.symm)⟩
      · rintro (⟨rfl, here⟩ | ⟨found, -⟩)
        · exact absurd here.symm same
        · exact found
  | remove k =>
    rw [change, get?_remove, Change.Drops]
    by_cases same : id = k
    · rw [if_pos same]
      simp only [reduceCtorEq, false_and, false_or, false_iff, not_and, not_not]
      exact fun found => same.symm.trans (hkeyed found).symm
    · rw [if_neg same]
      simp only [reduceCtorEq, false_and, false_or, iff_self_and]
      exact fun found drops => same ((hkeyed found).symm.trans drops.symm)
  | removeIf p =>
    rw [change, get?_removeIf, Option.filter_eq_some_iff, Change.Drops]
    simp
  | drain => simp [change, Change.Drops]

theorem remains_nil {record : FaultRecord} : ¬ Remains [] record := by
  rintro ⟨earlier, later, hsplit, -⟩
  simp at hsplit

theorem remains_append {changes : List Change} {c : Change} {record : FaultRecord} :
    Remains (changes ++ [c]) record ↔
      c = .put record ∨ (Remains changes record ∧ ¬ c.Drops record) := by
  constructor
  · rintro ⟨earlier, later, hsplit, kept⟩
    rcases List.eq_nil_or_concat later with rfl | ⟨front, last, rfl⟩
    · obtain ⟨-, hlast⟩ := List.append_inj' hsplit rfl
      exact .inl (List.head_eq_of_cons_eq hlast)
    · rw [List.concat_eq_append, ← List.cons_append, ← List.append_assoc] at hsplit
      obtain ⟨hfront, hlast⟩ := List.append_inj' hsplit rfl
      rw [List.concat_eq_append, List.forall_mem_append, List.forall_mem_singleton] at kept
      rw [List.head_eq_of_cons_eq hlast]
      exact .inr ⟨⟨earlier, front, hfront, kept.1⟩, kept.2⟩
  · rintro (rfl | ⟨⟨earlier, later, rfl, kept⟩, keeps⟩)
    · exact ⟨changes, [], rfl, List.forall_mem_nil _⟩
    · refine ⟨earlier, later ++ [c], ?_, ?_⟩
      · rw [List.append_assoc, List.cons_append]
      · rw [List.forall_mem_append, List.forall_mem_singleton]
        exact ⟨kept, keeps⟩

/-- A look-up finds what was put last under an id, unless it was dropped. -/
theorem get?_after (changes : List Change) {id : String} {record : FaultRecord} :
    (after changes).get? id = some record ↔ record.id = id ∧ Remains changes record := by
  -- The last change is the one that counts, so the induction takes changes off the end.
  induction changes using List.reverseRecOn with
  | nil => simp [after, remains_nil]
  | append_singleton changes c ih =>
    have hafter : after (changes ++ [c]) = (after changes).change c :=
      List.foldl_concat change .empty c changes
    rw [hafter, get?_change, ih, remains_append, and_or_left, and_assoc, and_comm (a := c = _)]

end Registry

/-! ### Listings -/

/-- The order of records by their start, and by the texts of their ids where the starts are equal. -/
def FaultRecord.Before (a b : FaultRecord) : Prop :=
  a.startTime.isBefore b.startTime = true ∨ (a.startTime = b.startTime ∧ a.id < b.id)

theorem FaultRecord.Before.asymm {a b : FaultRecord} (h : a.Before b) : ¬ b.Before a := by
  rcases h with hab | ⟨hsame, hid⟩
  · have hba := Instant.isBefore_asymm hab
    rintro (hlater | ⟨hsame, -⟩)
    · cases hba.symm.trans hlater
    · rw [hsame, Instant.isBefore_irrefl] at hab
      cases hab
  · rintro (hlater | ⟨-, hid'⟩)
    · rw [hsame, Instant.isBefore_irrefl] at hlater
      cases hlater
    · exact String.lt_asymm hid hid'

theorem FaultRecord.precedes_iff {a b : FaultRecord} :
    a.precedes b = true ↔ a.startTime.isBefore b.startTime = true ∨
      (a.startTime = b.startTime ∧ a.id ≤ b.id) := by
  simp [precedes]

theorem FaultRecord.precedes_trans {a b c : FaultRecord} (hab : a.precedes b = true)
    (hbc : b.precedes c = true) : a.precedes c = true := by
  rw [precedes_iff] at hab hbc ⊢
  rcases hab with hab | ⟨hab, hid⟩
  · rcases hbc with hbc | ⟨hbc, -⟩
    · exact .inl (Instant.isBefore_trans hab hbc)
    · exact .inl (hbc ▸ hab)
  · rcases hbc with hbc | ⟨hbc, hid'⟩
    · exact .inl (hab ▸ hbc)
    · exact .inr ⟨hab.trans hbc, String.le_trans hid hid'⟩

theorem FaultRecord.precedes_total (a b : FaultRecord) : (a.precedes b || b.precedes a) = true := by
  rw [Bool.or_eq_true, precedes_iff, precedes_iff]
  rcases Instant.isBefore_or_eq_or_isBefore a.startTime b.startTime with hab | same | hba
  · exact .inl (.inl hab)
  · rcases String.le_total a.id b.id with hid | hid
    · exact .inl (.inr ⟨same, hid⟩)
    · exact .inr (.inr ⟨same.symm, hid⟩)
  · exact .inr (.inl hba)

/-- A list that has every record of some kind once, in their order. -/
structure Snapshot (tracked : FaultRecord → Prop) (listing : List FaultRecord) : Prop where
  complete : ∀ record, record ∈ listing ↔ tracked record
  once : (listing.map (·.id)).Nodup
  increasing : listing.Pairwise FaultRecord.Before

/-- The same records can be listed in one way only. -/
theorem Snapshot.unique {tracked : FaultRecord → Prop} {listing other : List FaultRecord}
    (h : Snapshot tracked listing) (h' : Snapshot tracked other) : listing = other := by
  have hperm : listing.Perm other := by
    refine (List.perm_ext_iff_of_nodup (h.once.of_map _) (h'.once.of_map _)).2 fun record => ?_
    rw [h.complete, h'.complete]
  exact hperm.eq_of_pairwise (fun a b _ _ hab hba => absurd hba hab.asymm) h.increasing h'.increasing

theorem Snapshot.congr {tracked tracked' : FaultRecord → Prop} {listing : List FaultRecord}
    (h : Snapshot tracked listing) (same : ∀ record, tracked record ↔ tracked' record) :
    Snapshot tracked' listing :=
  { h with complete := fun record => (h.complete record).trans (same record) }

namespace Registry

theorem perm_all (r : Registry) : r.all.Perm r.records.values := List.mergeSort_perm _ _

theorem nodup_values (r : Registry) : (r.records.values.map (·.id)).Nodup := by
  rw [← ids_eq_map]
  exact r.nodup_ids

theorem increasing_all (r : Registry) : r.all.Pairwise FaultRecord.Before := by
  have hsorted : r.all.Pairwise fun a b => a.precedes b = true := by
    refine List.pairwise_mergeSort (fun _ _ _ hab hbc => ?_) (fun a b => ?_) _
    · exact FaultRecord.precedes_trans hab hbc
    · exact a.precedes_total b
  have honce : (r.all.map (·.id)).Nodup := (r.perm_all.map _).nodup_iff.2 r.nodup_values
  refine hsorted.imp₂ (fun a b hab hne => ?_) (List.pairwise_map.1 honce)
  rcases FaultRecord.precedes_iff.1 hab with hbefore | ⟨hsame, hle⟩
  · exact .inl hbefore
  · exact .inr ⟨hsame, String.not_le.1 fun hge => hne (String.le_antisymm hle hge)⟩

theorem snapshot_of_perm {changes : List Change} {listing : List FaultRecord}
    (same : listing.Perm (after changes).records.values)
    (increasing : listing.Pairwise FaultRecord.Before) : Snapshot (Remains changes) listing where
  complete record := by
    rw [same.mem_iff, mem_values_iff]
    simp only [get?_after, exists_and_right, exists_eq', true_and]
  once := (same.map _).nodup_iff.2 (after changes).nodup_values
  increasing := increasing

end Registry

/-! ### Listings of a ledger -/

open Registry (Change Remains)

/-- What is listed depends on nothing but the records that were put and remain. The entries of a
table may be in any order, and other changes may have led to the same records. -/
theorem listings_determined {l : Ledger} {changes : ResourceKind → List Change}
    (reached : ∀ kind, l.registry kind = .after (changes kind)) :
    (∀ kind, Snapshot (Remains (changes kind)) (l.registry kind).all) ∧
    (∀ kind (r : Registry), r.records.entries.Perm (l.registry kind).records.entries →
      r.all = (l.registry kind).all) ∧
    (∀ kind others, (∀ record, Remains others record ↔ Remains (changes kind) record) →
      (Registry.after others).all = (l.registry kind).all) ∧
    ∀ network jvm, Snapshot (Remains (changes .networkChaos)) network →
      Snapshot (Remains (changes .jvmChaos)) jvm → l.active = network ++ jvm := by
  have hlisting : ∀ (changes : List Change) (r : Registry),
      r.records.entries.Perm (Registry.after changes).records.entries →
      Snapshot (Remains changes) r.all := fun _ r same =>
    Registry.snapshot_of_perm (r.perm_all.trans (same.map _)) r.increasing_all
  have hall : ∀ kind, Snapshot (Remains (changes kind)) (l.registry kind).all := by
    intro kind
    rw [reached kind]
    exact hlisting (changes kind) _ (.refl _)
  refine ⟨hall, fun kind r same => ?_, fun kind others same => ?_, fun network jvm hnet hjvm => ?_⟩
  · rw [reached kind] at same
    exact (hlisting (changes kind) r same).unique (hall kind)
  · exact ((hlisting others _ (.refl _)).congr same).unique (hall kind)
  · have hactive : l.active = (l.registry .networkChaos).all ++ (l.registry .jvmChaos).all := rfl
    rw [hactive, (hall .networkChaos).unique hnet, (hall .jvmChaos).unique hjvm]

def startedAt (id : String) (second : Int) : FaultRecord :=
  ⟨id, "ts-seat", .networkDelay, 5, 1, ⟨second, 0⟩, ⟨second + 60, 0⟩, .active⟩

/-- Two records that start together, one that has started before them, and one that was put again
and is gone. -/
def seatChanges : ResourceKind → List Change
  | .networkChaos => [.put (startedAt "b" 60), .put (startedAt "d" 0), .put (startedAt "a" 60),
      .put (startedAt "d" 90), .remove "d", .put (startedAt "c" 0)]
  | .jvmChaos => [.put (startedAt "e" 30), .removeIf fun _ => false]

def seatLedger : Ledger where
  network := .after (seatChanges .networkChaos)
  jvm := .after (seatChanges .jvmChaos)

theorem listings_determined_seat :
    (∀ kind, seatLedger.registry kind = .after (seatChanges kind)) ∧ seatLedger.active =
      [startedAt "c" 0, startedAt "a" 60, startedAt "b" 60, startedAt "e" 30] := by
  have hreached : ∀ kind, seatLedger.registry kind = .after (seatChanges kind) := by
    intro kind
    cases kind with
    | networkChaos => rfl
    | jvmChaos => rfl
  obtain ⟨-, -, -, hactive⟩ := listings_determined hreached
  have hpair : (startedAt "a" 60).Before (startedAt "b" 60) := .inr ⟨rfl, by decide⟩
  have hfirst : ∀ r ∈ [startedAt "a" 60, startedAt "b" 60], (startedAt "c" 0).Before r :=
    List.forall_mem_cons.2 ⟨.inl (by decide), List.forall_mem_singleton.2 (.inl (by decide))⟩
  refine ⟨hreached, hactive [startedAt "c" 0, startedAt "a" 60, startedAt "b" 60]
    [startedAt "e" 30] (Registry.snapshot_of_perm ?_ ?_) (Registry.snapshot_of_perm ?_ ?_)⟩
  · decide
  · exact List.pairwise_cons.2 ⟨hfirst, List.pairwise_pair.2 hpair⟩
  · decide
  · exact List.pairwise_singleton _ _

end FaultPlane.Injection
