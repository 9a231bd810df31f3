import Mathlib.Algebra.Order.Ring.Nat
import FaultPlane.Proofs.Injection.Conservation

/-!
# The account of a run

The account of a whole run follows from the accounts of its operations. The ids that were handed out
and those that are still tracked are together the ids of the successful applies, and no two of them
are equal, whatever the cluster answers and whatever the wall clock says. From this it follows which
ids are tracked, that an id leaves for good, and that the numbers add up (`history_reconciled`). The
ids of all applies are different from each other, also those of faults that were never tracked
(`issued_ids_distinct`).
-/

namespace FaultPlane.Plane

open Injection

/-! ### Entries in a row -/

/-- Some entries that lead from one ledger to another, each accounted for. -/
inductive Accounts (catalog : Catalog) : Ledger → List Entry → Ledger → Prop where
  | nil (l : Ledger) : Accounts catalog l [] l
  | cons {e : Entry} {es : List Entry} {l : Ledger} (first : e.Accounted catalog)
      (rest : Accounts catalog e.after es l) : Accounts catalog e.before (e :: es) l

theorem Entry.Accounted.sound_after {catalog : Catalog} {e : Entry} (h : e.Accounted catalog)
    (sound : e.before.Sound) : e.after.Sound := by
  have hclock := h.clock_le
  constructor
  · have hlast := sound.last_nonneg
    omega
  · intro kind id tracked
    have hbefore : id ∈ (e.before.registry kind).ids ++ (e.event.applied? kind).toList :=
      (h.conserved kind).mem_iff.1 (List.mem_append_right _ tracked)
    rcases List.mem_append.1 hbefore with old | new
    · have hnumber := sound.number_le kind id old
      omega
    · have happlied : e.event.applied? kind = some id := Option.mem_toList.1 new
      exact (h.issued (h.reported (Event.reported_of_applied happlied))).2

theorem history_accounts {ω : Type} (p : Plane) (world : World ω) (ops : List Operation) (s : State)
    (w : ω) (h : s.ledger.Sound) :
    Accounts p.catalog s.ledger (p.history world ops s w).1
      (p.history world ops s w).2.1.ledger := by
  induction ops generalizing s w with
  | nil => exact .nil s.ledger
  | cons op ops ih =>
    have hfirst := p.accounted_entryOf world s w h op
    exact .cons hfirst (ih _ _ (hfirst.sound_after h))

namespace Accounts

variable {catalog : Catalog} {l l' : Ledger} {es fs : List Entry}

theorem sound (h : Accounts catalog l es l') (start : l.Sound) : l'.Sound := by
  induction h with
  | nil => exact start
  | cons first rest ih => exact ih (first.sound_after start)

theorem split (h : Accounts catalog l (es ++ fs) l') :
    ∃ m, Accounts catalog l es m ∧ Accounts catalog m fs l' := by
  induction es generalizing l with
  | nil => exact ⟨l, .nil l, h⟩
  | cons e es ih =>
    cases h with
    | cons first rest =>
      obtain ⟨m, hes, hfs⟩ := ih rest
      exact ⟨m, .cons first hes, hfs⟩

theorem clock_le (h : Accounts catalog l es l') : l.clock.last ≤ l'.clock.last := by
  induction h with
  | nil => exact Int.le_refl _
  | cons first rest ih =>
    have hfirst := first.clock_le
    omega

/-! ### Ids that were issued -/

theorem number_of_issued (h : Accounts catalog l es l') {id : String}
    (issued : id ∈ es.filterMap (·.issued? catalog)) :
    l.clock.last < idNumber id ∧ idNumber id ≤ l'.clock.last := by
  induction h with
  | nil => cases issued
  | @cons e es l' first rest ih =>
    obtain ⟨x, member, hx⟩ := List.mem_filterMap.1 issued
    rcases List.mem_cons.1 member with rfl | later
    · have hnumber := first.issued hx
      have hrest := rest.clock_le
      omega
    · have hnumber := ih (List.mem_filterMap.2 ⟨x, later, hx⟩)
      have hfirst := first.clock_le
      omega

theorem nodup_issued (h : Accounts catalog l es l') :
    (es.filterMap (·.issued? catalog)).Nodup := by
  induction h with
  | nil => exact List.nodup_nil
  | @cons e es l' first rest ih =>
    cases hissued : e.issued? catalog with
    | none =>
      rw [List.filterMap_cons_none hissued]
      exact ih
    | some id =>
      rw [List.filterMap_cons_some hissued]
      refine List.nodup_cons.2 ⟨?_, ih⟩
      intro again
      have hnow := first.issued hissued
      have hlater := rest.number_of_issued again
      omega

theorem reported (h : Accounts catalog l es l') {e : Entry} (member : e ∈ es) {id : String}
    (hid : e.event.reported? = some id) : e.issued? catalog = some id := by
  induction h with
  | nil => cases member
  | cons first rest ih =>
    rcases List.mem_cons.1 member with rfl | later
    · exact first.reported hid
    · exact ih later

/-- Ids that were read off the entries one by one are among those issued, in the same order, if each
of them was issued where it was read. -/
theorem sublist_issued {f : Entry → Option String}
    (h : ∀ e ∈ es, ∀ id, f e = some id → e.issued? catalog = some id) :
    (es.filterMap f).Sublist (es.filterMap (·.issued? catalog)) := by
  induction es with
  | nil => exact List.Sublist.refl []
  | cons e es ih =>
    have hrest := ih fun x member => h x (List.mem_cons_of_mem e member)
    cases hf : f e with
    | none =>
      rw [List.filterMap_cons_none hf]
      exact hrest.trans ((List.sublist_cons_self e es).filterMap _)
    | some id =>
      rw [List.filterMap_cons_some hf, List.filterMap_cons_some (h e List.mem_cons_self id hf)]
      exact hrest.cons_cons id

theorem applied_sublist_issued (h : Accounts catalog l es l') (kind : ResourceKind) :
    (es.filterMap (·.event.applied? kind)).Sublist (es.filterMap (·.issued? catalog)) :=
  sublist_issued fun _ member _ hid => h.reported member (Event.reported_of_applied hid)

/-! ### Ids that come and go -/

/-- The ids that were handed out and those that are tracked at the end are together the ids that
were tracked at the start and those that were applied. -/
theorem conserved (h : Accounts catalog l es l') (kind : ResourceKind) :
    (es.flatMap (·.removed kind) ++ (l'.registry kind).ids).Perm
      ((l.registry kind).ids ++ es.filterMap (·.event.applied? kind)) := by
  induction h with
  | nil l =>
    rw [List.flatMap_nil, List.filterMap_nil, List.nil_append, List.append_nil]
  | @cons e es l' first rest ih =>
    have happlied : (e :: es).filterMap (·.event.applied? kind) =
        (e.event.applied? kind).toList ++ es.filterMap (·.event.applied? kind) := by
      rw [List.filterMap_cons]
      cases e.event.applied? kind <;> rfl
    rw [List.flatMap_cons, happlied, List.append_assoc, ← List.append_assoc (Registry.ids _)]
    have hrest := ih.append_left (e.removed kind)
    rw [← List.append_assoc (e.removed kind) (Registry.ids _)] at hrest
    exact hrest.trans ((first.conserved kind).append_right _)

/-- No id is handed out twice, and none that was handed out is tracked at the end. -/
theorem nodup (h : Accounts catalog l es l') (start : l.Sound) (kind : ResourceKind) :
    (es.flatMap (·.removed kind) ++ (l'.registry kind).ids).Nodup := by
  refine (h.conserved kind).nodup_iff.2 ?_
  refine List.nodup_append.2 ⟨Registry.nodup_ids _, ?_, ?_⟩
  · exact h.nodup_issued.sublist (h.applied_sublist_issued kind)
  · intro old hold new hnew same
    have hle := start.number_le kind old hold
    have hlt := h.number_of_issued ((h.applied_sublist_issued kind).subset hnew)
    rw [same] at hle
    omega

theorem mem_ids_iff (h : Accounts catalog l es l') (start : l.Sound) (kind : ResourceKind)
    (id : String) :
    id ∈ (l'.registry kind).ids ↔
      (id ∈ (l.registry kind).ids ∨ ∃ e ∈ es, e.event.applied? kind = some id) ∧
        ∀ e ∈ es, id ∉ e.removed kind := by
  have hmem := (h.conserved kind).mem_iff (a := id)
  simp only [List.mem_append, List.mem_flatMap, List.mem_filterMap] at hmem
  constructor
  · intro tracked
    refine ⟨hmem.1 (Or.inr tracked), ?_⟩
    intro e member removed
    have hremoved : id ∈ es.flatMap (·.removed kind) := List.mem_flatMap.2 ⟨e, member, removed⟩
    exact (List.nodup_append.1 (h.nodup start kind)).2.2 id hremoved id tracked rfl
  · rintro ⟨hsource, hkept⟩
    rcases hmem.2 hsource with ⟨e, member, removed⟩ | tracked
    · exact absurd removed (hkept e member)
    · exact tracked

theorem applied (h : Accounts catalog l es l') (kind : ResourceKind) :
    (es.filterMap (·.event.applied? kind)).length = (es.map (·.event.applyCount kind)).sum := by
  induction h with
  | nil => rfl
  | @cons e es l' first rest ih =>
    rw [List.map_cons, List.sum_cons, ← ih, ← first.applied kind, List.filterMap_cons]
    cases e.event.applied? kind with
    | none => simp
    | some id => simp [Nat.add_comm]

theorem nil_eq (h : Accounts catalog l [] l') : l = l' := by
  cases h with
  | nil => rfl

theorem before_eq {e : Entry} (h : Accounts catalog l (e :: es) l') : e.before = l := by
  cases h with
  | cons first rest => rfl

theorem after_eq {e : Entry} (h : Accounts catalog l (es ++ [e]) l') : e.after = l' := by
  obtain ⟨m, -, hlast⟩ := h.split
  cases hlast with
  | cons first rest =>
    exact rest.nil_eq

theorem head {e : Entry} (h : Accounts catalog l (e :: es) l') : e.Accounted catalog := by
  cases h with
  | cons first rest => exact first

theorem counted (h : Accounts catalog l es l') (kind : ResourceKind)
    (hsmall : ∀ e ∈ es, (e.before.registry kind).size < UInt64.size) :
    (es.flatMap (·.removed kind)).length =
      (es.map (·.event.stopCount kind)).sum + (es.map (·.event.sweepCount kind)).sum +
        (es.map (·.event.clearCount kind)).sum := by
  induction h with
  | nil => rfl
  | @cons e es l' first rest ih =>
    rw [List.flatMap_cons, List.length_append]
    have hfirst := first.counted kind (hsmall e List.mem_cons_self)
    have hrest := ih fun x member => hsmall x (List.mem_cons_of_mem e member)
    simp only [List.map_cons, List.sum_cons]
    omega

end Accounts

/-! ### The account of a control plane -/

/-- How the faults of a kind of resource that are tracked after a run go together with what has
happened in it. -/
structure Reconciled (kind : ResourceKind) (entries : List Entry) (ledger : Ledger) : Prop where
  /-- The ids tracked are those of the applies that no later operation has taken out. -/
  tracked_iff : ∀ id, id ∈ (ledger.registry kind).ids ↔
    ∃ earlier e later, entries = earlier ++ e :: later ∧ e.event.applied? kind = some id ∧
      ∀ x ∈ later, id ∉ x.removed kind
  removed_nodup : (entries.flatMap (·.removed kind)).Nodup
  /-- What is handed out was applied before. -/
  removed_applied : ∀ earlier e later id, entries = earlier ++ e :: later → id ∈ e.removed kind →
    ∃ x ∈ earlier, x.event.applied? kind = some id
  gone : ∀ earlier e later id, entries = earlier ++ e :: later → id ∈ e.removed kind →
    (∀ x ∈ e :: later, id ∉ (x.after.registry kind).ids) ∧ id ∉ (ledger.registry kind).ids
  /-- What was applied is either tracked or was handed out. -/
  balance : (entries.map (·.event.applyCount kind)).sum =
    (ledger.registry kind).size + (entries.flatMap (·.removed kind)).length
  /-- The counts that were answered add up, as long as the 64 bits in which a stop-all counts can
  hold what is tracked. -/
  counts : (∀ e ∈ entries, (e.before.registry kind).size < UInt64.size) →
    (entries.map (·.event.applyCount kind)).sum =
      (ledger.registry kind).size + (entries.map (·.event.stopCount kind)).sum +
        (entries.map (·.event.sweepCount kind)).sum + (entries.map (·.event.clearCount kind)).sum

theorem Entry.removed_of_applied {e : Entry} {kind : ResourceKind} {id : String}
    (h : e.event.applied? kind = some id) (k : ResourceKind) : e.removed k = [] := by
  obtain ⟨before, event, after⟩ := e
  cases event with
  | applied now request response => rfl
  | _ => cases h

theorem Entry.Accounted.mem_before {catalog : Catalog} {e : Entry} (h : e.Accounted catalog)
    {kind : ResourceKind} {id : String} (removed : id ∈ e.removed kind) :
    id ∈ (e.before.registry kind).ids := by
  have hmem : id ∈ (e.before.registry kind).ids ++ (e.event.applied? kind).toList :=
    (h.conserved kind).mem_iff.1 (List.mem_append_left _ removed)
  rcases List.mem_append.1 hmem with tracked | applied
  · exact tracked
  · rw [Entry.removed_of_applied (Option.mem_toList.1 applied)] at removed
    cases removed

namespace Accounts

variable {catalog : Catalog} {l l' : Ledger} {kind : ResourceKind}
variable {earlier later : List Entry} {e : Entry} {id : String}

theorem applied_of_removed (h : Accounts catalog l (earlier ++ e :: later) l') (start : l.Sound)
    (bare : (l.registry kind).ids = []) (removed : id ∈ e.removed kind) :
    ∃ x ∈ earlier, x.event.applied? kind = some id := by
  obtain ⟨m, hearlier, hlater⟩ := h.split
  have tracked : id ∈ (m.registry kind).ids := by
    rw [← hlater.before_eq]
    exact hlater.head.mem_before removed
  rcases ((hearlier.mem_ids_iff start kind id).1 tracked).1 with old | applied
  · rw [bare] at old
    cases old
  · exact applied

theorem untracked_after (h : Accounts catalog l (earlier ++ e :: later) l') (start : l.Sound)
    (removed : id ∈ e.removed kind) :
    (∀ x ∈ e :: later, id ∉ (x.after.registry kind).ids) ∧ id ∉ (l'.registry kind).ids := by
  constructor
  · intro x member tracked
    obtain ⟨before, rest, hsplit⟩ := List.append_of_mem member
    have hwithin : e ∈ before ++ [x] := by
      cases before with
      | nil => rw [(List.cons.inj hsplit).1]; exact List.mem_cons_self
      | cons y before => rw [(List.cons.inj hsplit).1]; exact List.mem_cons_self
    have hrows : earlier ++ e :: later = (earlier ++ before ++ [x]) ++ rest := by
      simp [hsplit]
    rw [hrows] at h
    obtain ⟨m, hupto, -⟩ := h.split
    rw [hupto.after_eq] at tracked
    refine ((hupto.mem_ids_iff start kind id).1 tracked).2 e ?_ removed
    rw [List.append_assoc]
    exact List.mem_append_right _ hwithin
  · intro tracked
    exact ((h.mem_ids_iff start kind id).1 tracked).2 e
      (List.mem_append_right _ List.mem_cons_self) removed

theorem tracked_of_applied (h : Accounts catalog l (earlier ++ e :: later) l') (start : l.Sound)
    (applied : e.event.applied? kind = some id) (kept : ∀ x ∈ later, id ∉ x.removed kind) :
    id ∈ (l'.registry kind).ids := by
  obtain ⟨m, hearlier, hlater⟩ := h.split
  refine (hlater.mem_ids_iff (hearlier.sound start) kind id).2 ⟨?_, ?_⟩
  · exact Or.inr ⟨e, List.mem_cons_self, applied⟩
  · intro x member
    rcases List.mem_cons.1 member with rfl | inside
    · rw [Entry.removed_of_applied applied]
      exact List.not_mem_nil
    · exact kept x inside

theorem reconciled {es : List Entry} (h : Accounts catalog l es l') (start : l.Sound)
    (bare : (l.registry kind).ids = []) : Reconciled kind es l' := by
  have hbalance : (es.map (·.event.applyCount kind)).sum =
      (l'.registry kind).size + (es.flatMap (·.removed kind)).length := by
    have hlength := (h.conserved kind).length_eq
    rw [bare, List.nil_append, List.length_append, Registry.length_ids, h.applied kind] at hlength
    omega
  refine ⟨?_, ?_, ?_, ?_, hbalance, ?_⟩
  · intro id
    constructor
    · intro tracked
      obtain ⟨hsource, hkept⟩ := (h.mem_ids_iff start kind id).1 tracked
      rw [bare] at hsource
      rcases hsource with old | ⟨e, member, applied⟩
      · cases old
      · obtain ⟨earlier, later, hes⟩ := List.append_of_mem member
        refine ⟨earlier, e, later, hes, applied, ?_⟩
        intro x inside
        refine hkept x ?_
        rw [hes]
        exact List.mem_append_right _ (List.mem_cons_of_mem e inside)
    · rintro ⟨earlier, e, later, rfl, applied, kept⟩
      exact h.tracked_of_applied start applied kept
  · exact (List.nodup_append.1 (h.nodup start kind)).1
  · rintro earlier e later id rfl removed
    exact h.applied_of_removed start bare removed
  · rintro earlier e later id rfl removed
    exact h.untracked_after start removed
  · intro hsmall
    have hcounted := h.counted kind hsmall
    omega

end Accounts

section

variable {ω : Type} (p : Plane) (world : World ω) (ops : List Operation) (w : ω)

/-- Whatever a control plane is asked to do from its start on, whatever the cluster answers and
whatever the time of each request is, the faults that are tracked go together with what has
happened. -/
theorem history_reconciled (kind : ResourceKind) :
    Reconciled kind (p.history world ops {} w).1 (p.history world ops {} w).2.1.ledger := by
  have hrun := p.history_accounts world ops {} w Ledger.sound_empty
  refine hrun.reconciled Ledger.sound_empty ?_
  cases kind <;> rfl

/-- All ids that are issued are different from each other, also those of faults that the cluster has
refused. The ids that the responses name are among them. -/
theorem issued_ids_distinct :
    ((p.history world ops {} w).1.filterMap (·.issued? p.catalog)).Nodup ∧
      ((p.history world ops {} w).1.filterMap (·.event.reported?)).Sublist
        ((p.history world ops {} w).1.filterMap (·.issued? p.catalog)) := by
  have hrun := p.history_accounts world ops {} w Ledger.sound_empty
  exact ⟨hrun.nodup_issued, Accounts.sublist_issued fun _ member _ hid => hrun.reported member hid⟩

end

end FaultPlane.Plane
