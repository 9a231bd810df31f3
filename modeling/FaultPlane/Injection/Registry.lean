import FaultPlane.Injection.Record
import FaultPlane.Table

/-!
# The registry of injected faults

The records of the faults that are tracked, each under its id.
-/

namespace FaultPlane.Injection

structure Registry where
  records : Table FaultRecord
  /-- Every record stands under its own id. -/
  keyed : ∀ {id : String} {record : FaultRecord}, records.get? id = some record → record.id = id

namespace Registry

def empty : Registry := ⟨.empty, by simp⟩

instance : Inhabited Registry := ⟨empty⟩

/-- The record under an id. -/
def get? (r : Registry) (id : String) : Option FaultRecord := r.records.get? id

/-- Tracks a record, in place of a former one with its id. -/
def put (r : Registry) (record : FaultRecord) : Registry where
  records := r.records.insert record.id record
  keyed := by
    intro id found h
    rw [Table.get?_insert] at h
    split at h
    · next same => exact (Option.some.inj h) ▸ same.symm
    · exact r.keyed h

/-- Keeps the records that fulfil a condition. -/
def keep (p : String → FaultRecord → Bool) (r : Registry) : Registry where
  records := r.records.filter p
  keyed := by
    intro id found h
    rw [Table.get?_filter] at h
    exact r.keyed (Option.filter_eq_some_iff.1 h).1

def remove (r : Registry) (id : String) : Option FaultRecord × Registry :=
  (r.get? id, r.keep fun k _ => k ≠ id)

/-- Removes the records that fulfil a condition and answers them. -/
def removeIf (p : FaultRecord → Bool) (r : Registry) : List FaultRecord × Registry :=
  (r.records.values.filter p, r.keep fun _ record => !p record)

/-- Removes every record and answers them. -/
def drain (r : Registry) : List FaultRecord × Registry := (r.records.values, empty)

def size (r : Registry) : Nat := r.records.size

/-- The ids of the records. -/
def ids (r : Registry) : List String := r.records.keys

/-- Every record, the one that started first in front. -/
def all (r : Registry) : List FaultRecord := r.records.values.mergeSort FaultRecord.precedes

/-! ### Look-ups after changes -/

@[simp] theorem get?_empty (id : String) : empty.get? id = none := rfl

theorem get?_put (r : Registry) (record : FaultRecord) (id : String) :
    (r.put record).get? id = if id = record.id then some record else r.get? id :=
  r.records.get?_insert record.id id record

theorem get?_remove (r : Registry) (id k : String) :
    (r.remove id).2.get? k = if k = id then none else r.get? k :=
  r.records.get?_erase id k

theorem get?_removeIf (p : FaultRecord → Bool) (r : Registry) (id : String) :
    (r.removeIf p).2.get? id = (r.get? id).filter fun record => !p record :=
  r.records.get?_filter (fun _ record => !p record) id

@[simp] theorem get?_drain (r : Registry) (id : String) : r.drain.2.get? id = none := rfl

/-! ### Ids -/

theorem nodup_ids (r : Registry) : r.ids.Nodup := r.records.nodup

@[simp] theorem length_ids (r : Registry) : r.ids.length = r.size :=
  List.length_map Prod.fst

theorem mem_ids_iff (r : Registry) {id : String} :
    id ∈ r.ids ↔ ∃ record, r.get? id = some record :=
  r.records.mem_keys_iff

/-- The ids of the records are the ids that the records carry. -/
theorem ids_eq_map (r : Registry) : r.ids = r.records.values.map (·.id) :=
  (r.records.map_values fun _ _ => r.keyed).symm

@[simp] theorem ids_empty : empty.ids = [] := rfl

theorem ids_put (r : Registry) {record : FaultRecord} (h : record.id ∉ r.ids) :
    (r.put record).ids = r.ids ++ [record.id] :=
  r.records.keys_insert record h

end Registry

end FaultPlane.Injection
