import Mathlib.Data.Set.Card
import FaultPlane.Proofs.Injection.Tracking

/-!
# Registries as maps

A registry answers like a map from ids to records (`refines_map`). The records stand in a plain
table, whose values are listed in any order and whose entries may have any name. Records are taken
out of it under the ids that they carry, one after the other, which takes out the right ones because
every record stands under its own id, and every operation leaves it so (`TableStep.keyed`).
-/

namespace FaultPlane

/-! ### Tables -/

namespace Table

variable {α : Type}

/-- Takes the values under some names out of a table, one after the other, and answers those that
are there. -/
def takeEach : List String → Table α → List α × Table α
  | [], table => ([], table)
  | name :: names, table =>
    let (taken, rest) := takeEach names (table.erase name)
    ((table.get? name).toList ++ taken, rest)

theorem snd_takeEach (names : List String) (table : Table α) :
    (takeEach names table).2 = table.filter fun k _ => decide (k ∉ names) := by
  induction names generalizing table with
  | nil =>
    refine (filter_eq_self fun k a _ => ?_).symm
    exact decide_eq_true List.not_mem_nil
  | cons name names ih =>
    refine (ih (table.erase name)).trans (ext ?_)
    simp only [erase, filter, List.filter_filter]
    refine List.filter_congr fun e _ => ?_
    rw [Bool.and_comm, ← Bool.decide_and]
    exact decide_eq_decide.2 (by rw [List.mem_cons, not_or])

theorem fst_takeEach {names : List String} (h : names.Nodup) (table : Table α) :
    (takeEach names table).1 = names.filterMap table.get? := by
  induction names generalizing table with
  | nil => rfl
  | cons name names ih =>
    obtain ⟨fresh, h⟩ := List.nodup_cons.1 h
    have hother : names.filterMap (table.erase name).get? = names.filterMap table.get? := by
      refine List.filterMap_congr fun k inside => ?_
      rw [get?_erase, if_neg]
      rintro rfl
      exact fresh inside
    have hstep : (takeEach (name :: names) table).1 =
        (table.get? name).toList ++ (takeEach names (table.erase name)).1 := rfl
    rw [hstep, ih h, hother, List.filterMap_cons]
    cases table.get? name <;> rfl

end Table

namespace Injection

/-! ### Operations -/

inductive Operation where
  | put (record : FaultRecord)
  | remove (id : String)
  | get (id : String)
  | removeIf (p : FaultRecord → Bool)
  | drain
  | size

inductive Answer where
  | done
  | found (record? : Option FaultRecord)
  | taken (records : List FaultRecord)
  | count (n : Nat)

/-- Some operations one after the other, with their answers. -/
inductive Run {σ : Type} (step : σ → Operation → Answer → σ → Prop) :
    σ → List Operation → List Answer → σ → Prop
  | nil {s : σ} : Run step s [] [] s
  | cons {s s' s'' : σ} {op : Operation} {ops : List Operation} {answer : Answer}
      {answers : List Answer} (first : step s op answer s') (rest : Run step s' ops answers s'') :
      Run step s (op :: ops) (answer :: answers) s''

/-! ### On a registry -/

def Operation.perform : Operation → Registry → Answer × Registry
  | .put record, r => (.done, r.put record)
  | .remove id, r => (.found (r.remove id).1, (r.remove id).2)
  | .get id, r => (.found (r.get? id), r)
  | .removeIf p, r => (.taken (r.removeIf p).1, (r.removeIf p).2)
  | .drain, r => (.taken r.drain.1, r.drain.2)
  | .size, r => (.count r.size, r)

def performAll : List Operation → Registry → List Answer × Registry
  | [], r => ([], r)
  | op :: ops, r =>
    let (answer, r') := op.perform r
    let (answers, r'') := performAll ops r'
    (answer :: answers, r'')

/-! ### On a plain table -/

/-- The ids that the records of a listing carry which fulfil a condition. -/
def idsOf (p : FaultRecord → Bool) (listing : List FaultRecord) : List String :=
  (listing.filter p).map (·.id)

/-- The operations on a table. Its values are listed in any order; what is removed by a condition is
found in such a listing first and then taken out by the ids. -/
inductive TableStep : Table FaultRecord → Operation → Answer → Table FaultRecord → Prop
  | put {t : Table FaultRecord} {record : FaultRecord} :
      TableStep t (.put record) .done (t.insert record.id record)
  | remove {t : Table FaultRecord} {id : String} :
      TableStep t (.remove id) (.found (t.get? id)) (t.erase id)
  | get {t : Table FaultRecord} {id : String} : TableStep t (.get id) (.found (t.get? id)) t
  | removeIf {t : Table FaultRecord} {p : FaultRecord → Bool} {listing : List FaultRecord}
      (listed : listing.Perm t.values) :
      TableStep t (.removeIf p) (.taken (t.takeEach (idsOf p listing)).1)
        (t.takeEach (idsOf p listing)).2
  | drain {t : Table FaultRecord} {listing : List FaultRecord} (listed : listing.Perm t.values) :
      TableStep t .drain (.taken listing) .empty
  | size {t : Table FaultRecord} : TableStep t .size (.count t.size) t

/-- Every record stands under its own id. -/
def Keyed (t : Table FaultRecord) : Prop :=
  ∀ (id : String) (record : FaultRecord), t.get? id = some record → record.id = id

/-! ### On a map -/

/-- The record that was put last under each id. -/
abbrev Contents := String → Option FaultRecord

/-- A list that has every record of some kind once. -/
structure ListsOnce (kind : FaultRecord → Prop) (records : List FaultRecord) : Prop where
  complete : ∀ record, record ∈ records ↔ kind record
  once : (records.map (·.id)).Nodup

/-- The operations on a map. Lists have no order. -/
inductive MapStep : Contents → Operation → Answer → Contents → Prop
  | put {m : Contents} {record : FaultRecord} :
      MapStep m (.put record) .done (Function.update m record.id (some record))
  | remove {m : Contents} {id : String} :
      MapStep m (.remove id) (.found (m id)) (Function.update m id none)
  | get {m : Contents} {id : String} : MapStep m (.get id) (.found (m id)) m
  | removeIf {m : Contents} {p : FaultRecord → Bool} {records : List FaultRecord}
      (lists : ListsOnce (fun record => (∃ id, m id = some record) ∧ p record = true) records) :
      MapStep m (.removeIf p) (.taken records) fun id => (m id).filter fun record => !p record
  | drain {m : Contents} {records : List FaultRecord}
      (lists : ListsOnce (fun record => ∃ id, m id = some record) records) :
      MapStep m .drain (.taken records) fun _ => none
  | size {m : Contents} {n : Nat} (counts : Set.encard {id | m id ≠ none} = n) :
      MapStep m .size (.count n) m

/-! ### From a table to a map -/

section

variable {t t' : Table FaultRecord} {listing : List FaultRecord}

theorem Keyed.get?_id (keyed : Keyed t) {record : FaultRecord} (inside : record ∈ t.values) :
    t.get? record.id = some record := by
  obtain ⟨id, found⟩ := t.mem_values_iff.1 inside
  rw [keyed id record found]
  exact found

theorem Keyed.nodup (keyed : Keyed t) (listed : listing.Perm t.values) :
    (listing.map (·.id)).Nodup := by
  rw [(listed.map _).nodup_iff, t.map_values keyed]
  exact t.nodup

/-- The records that are taken out under the ids in a listing are those of the listing, and all
others stay. This is where every record has to stand under its own id. -/
theorem Keyed.takeEach (keyed : Keyed t) (listed : listing.Perm t.values)
    (p : FaultRecord → Bool) :
    t.takeEach (idsOf p listing) = (listing.filter p, t.filter fun _ record => !p record) := by
  have hids : (idsOf p listing).Nodup := (keyed.nodup listed).sublist (List.filter_sublist.map _)
  have htaken : (t.takeEach (idsOf p listing)).1 = listing.filter p := by
    rw [Table.fst_takeEach hids, idsOf, List.filterMap_map]
    refine (List.filterMap_congr fun record inside => ?_).trans List.filterMap_some
    exact keyed.get?_id (listed.mem_iff.1 (List.mem_filter.1 inside).1)
  have hrest : (t.takeEach (idsOf p listing)).2 = t.filter fun _ record => !p record := by
    rw [Table.snd_takeEach]
    refine Table.filter_congr fun id record found => ?_
    have hmem : id ∈ idsOf p listing ↔ p record = true := by
      rw [idsOf, List.mem_map]
      constructor
      · rintro ⟨other, inside, rfl⟩
        obtain ⟨member, fulfils⟩ := List.mem_filter.1 inside
        have hother := keyed.get?_id (listed.mem_iff.1 member)
        rw [Option.some.inj (found.symm.trans hother)]
        exact fulfils
      · intro fulfils
        have inside := listed.mem_iff.2 (t.mem_values_iff.2 ⟨id, found⟩)
        exact ⟨record, List.mem_filter.2 ⟨inside, fulfils⟩, keyed id record found⟩
    by_cases h : p record = true <;> simp [hmem, h]
  exact Prod.ext htaken hrest

theorem Keyed.listsOnce (keyed : Keyed t) (listed : listing.Perm t.values) :
    ListsOnce (fun record => ∃ id, t.get? id = some record) listing where
  complete record := by rw [listed.mem_iff, t.mem_values_iff]
  once := keyed.nodup listed

theorem ListsOnce.filter {kind : FaultRecord → Prop} {records : List FaultRecord}
    (h : ListsOnce kind records) (p : FaultRecord → Bool) :
    ListsOnce (fun record => kind record ∧ p record = true) (records.filter p) where
  complete record := by rw [List.mem_filter, h.complete]
  once := h.once.sublist (List.filter_sublist.map _)

theorem encard_keys (t : Table FaultRecord) : Set.encard {id | t.get? id ≠ none} = t.size := by
  have hkeys : {id | t.get? id ≠ none} = (t.keys.toFinset : Set String) := by
    ext id
    simp [Table.mem_keys_iff, Option.ne_none_iff_exists']
  have hnodup : t.keys.Nodup := t.nodup
  have hcard : t.keys.toFinset.card = t.size :=
    (List.toFinset_card_of_nodup hnodup).trans (List.length_map Prod.fst)
  rw [hkeys, Set.encard_coe_eq_coe_finsetCard, hcard]

variable {op : Operation} {answer : Answer}

theorem TableStep.keyed (step : TableStep t op answer t') (keyed : Keyed t) : Keyed t' := by
  have hfilter : ∀ q : String → FaultRecord → Bool, Keyed (t.filter q) := by
    intro q id record found
    rw [Table.get?_filter] at found
    exact keyed id record (Option.filter_eq_some_iff.1 found).1
  cases step with
  | @put record =>
    intro id other found
    rw [Table.get?_insert] at found
    split at found
    · next same => rw [← Option.some.inj found, same]
    · exact keyed id other found
  | remove => exact hfilter _
  | get => exact keyed
  | removeIf listed =>
    rw [keyed.takeEach listed]
    exact hfilter _
  | drain =>
    intro id record found
    cases found
  | size => exact keyed

theorem TableStep.mapStep (step : TableStep t op answer t') (keyed : Keyed t) :
    MapStep t.get? op answer t'.get? := by
  cases step with
  | @put record =>
    have hupdate : (t.insert record.id record).get? =
        Function.update t.get? record.id (some record) := by
      funext id
      rw [Table.get?_insert, Function.update_apply]
    rw [hupdate]
    exact .put
  | @remove id =>
    have hupdate : (t.erase id).get? = Function.update t.get? id none := by
      funext k
      rw [Table.get?_erase, Function.update_apply]
    rw [hupdate]
    exact .remove
  | get => exact .get
  | @removeIf p listing listed =>
    have hfilter : (t.filter fun _ record => !p record).get? =
        fun id => (t.get? id).filter fun record => !p record := by
      funext id
      rw [Table.get?_filter]
    rw [keyed.takeEach listed, hfilter]
    exact .removeIf ((keyed.listsOnce listed).filter p)
  | drain listed => exact .drain (keyed.listsOnce listed)
  | size => exact .size (encard_keys t)

end

/-- A run on a table keeps every record under its own id and is a run on the map of the table. -/
theorem Run.onMap {t t' : Table FaultRecord} {ops : List Operation} {answers : List Answer}
    (run : Run TableStep t ops answers t') (keyed : Keyed t) :
    Keyed t' ∧ Run MapStep t.get? ops answers t'.get? := by
  induction run with
  | nil => exact ⟨keyed, .nil⟩
  | cons first rest ih =>
    obtain ⟨hkeyed, hrest⟩ := ih (first.keyed keyed)
    exact ⟨hkeyed, .cons (first.mapStep keyed) hrest⟩

/-! ### From a registry to its table -/

theorem keyed_records (r : Registry) : Keyed r.records := fun _ _ found => r.keyed found

/-- A registry does what its table does whose values are listed in the order of the table. -/
theorem tableStep_perform (op : Operation) (r : Registry) :
    TableStep r.records op (op.perform r).1 (op.perform r).2.records := by
  cases op with
  | put record => exact .put
  | remove id => exact .remove
  | get id => exact .get
  | removeIf p =>
    have hstep : TableStep r.records (.removeIf p) _ _ := .removeIf (List.Perm.refl _)
    rw [(keyed_records r).takeEach (List.Perm.refl _) p] at hstep
    exact hstep
  | drain => exact .drain (List.Perm.refl _)
  | size => exact .size

theorem run_performAll (ops : List Operation) (r : Registry) :
    Run TableStep r.records ops (performAll ops r).1 (performAll ops r).2.records := by
  induction ops generalizing r with
  | nil => exact .nil
  | cons op ops ih => exact .cons (tableStep_perform op r) (ih (op.perform r).2)

/-- A registry answers as a map does from ids to the records that were put last under them. It does
what a plain table does, and however the values of a table are listed, its answers are those of a
map, and every record stands under its own id. -/
theorem refines_map (ops : List Operation) :
    Run MapStep (fun _ => none) ops (performAll ops .empty).1 (performAll ops .empty).2.get? ∧
      Run TableStep .empty ops (performAll ops .empty).1 (performAll ops .empty).2.records ∧
      ∀ answers t, Run TableStep .empty ops answers t →
        Keyed t ∧ Run MapStep (fun _ => none) ops answers t.get? := by
  have hempty : Keyed .empty := keyed_records .empty
  have hrun := run_performAll ops .empty
  exact ⟨(hrun.onMap hempty).2, hrun, fun answers t run => run.onMap hempty⟩

def lasting (id : String) (minutes : UInt64) : FaultRecord :=
  ⟨id, "ts-seat", .networkDelay, 5, minutes, ⟨0, 0⟩, ⟨60 * minutes.toNat, 0⟩, .active⟩

/-- Three records are put, one of them in place of another, and the long ones are removed. -/
def seatOperations : List Operation :=
  [.put (lasting "a" 5), .put (lasting "b" 20), .put (lasting "a" 30), .put (lasting "c" 5), .size,
    .removeIf fun record => 10 < record.durationMinutes, .get "a", .remove "c", .drain]

theorem refines_map_seat :
    (performAll seatOperations .empty).1 =
        [.done, .done, .done, .done, .count 3, .taken [lasting "a" 30, lasting "b" 20],
          .found none, .found (some (lasting "c" 5)), .taken []] ∧
      Keyed (performAll seatOperations .empty).2.records := by
  obtain ⟨-, hrun, htable⟩ := refines_map seatOperations
  exact ⟨by rfl, (htable _ _ hrun).1⟩

end Injection

end FaultPlane
