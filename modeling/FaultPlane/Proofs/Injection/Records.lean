import FaultPlane.Proofs.Injection.Outcome
import FaultPlane.Proofs.Injection.Plans
import FaultPlane.Proofs.Injection.RecordId
import FaultPlane.Proofs.Text.Occurrences
import FaultPlane.Proofs.Time.Windows

/-!
# What a record says

The record of a planned fault lasts for the minutes that were planned, to the nanosecond, and its id
tells when it was made and what made it (`Plan.proper_of_record?`, `Plan.belongs_of_record?`).
-/

namespace FaultPlane

namespace Injection

open FaultPlane.Time (Instant)

/-! ### Names -/

/-- What the names of the resources of a kind start with, if a fault has made them. -/
def ResourceKind.namePrefix : ResourceKind → String
  | .networkChaos => "network-delay-"
  | .jvmChaos => "jvm-"

theorem recordId_starts (kind : FaultKind) (fragment : String) (n : Int) :
    ∃ rest, recordId kind fragment n = kind.idPrefix ++ "-" ++ rest :=
  ⟨fragment ++ "-" ++ Decimal.ofInt n, by simp only [recordId, String.append_assoc]⟩

theorem FaultKind.namePrefix_idPrefix (kind : FaultKind) :
    ∃ rest, kind.idPrefix ++ "-" = kind.resource.namePrefix ++ rest := by
  cases kind with
  | networkDelay => exact ⟨"", rfl⟩
  | jvmException => exact ⟨"", rfl⟩
  | jvmLatency => exact ⟨"latency-", rfl⟩

theorem recordId_named (kind : FaultKind) (fragment : String) (n : Int) :
    ∃ rest, recordId kind fragment n = kind.resource.namePrefix ++ rest := by
  obtain ⟨tail, htail⟩ := recordId_starts kind fragment n
  obtain ⟨rest, hrest⟩ := kind.namePrefix_idPrefix
  refine ⟨rest ++ tail, ?_⟩
  rw [htail, hrest, String.append_assoc]

theorem FaultKind.hasPrefix_iff (kind : FaultKind) (id : String) :
    kind.hasPrefix id = true ↔ ∃ rest, id = kind.idPrefix ++ "-" ++ rest := by
  have hread : kind.hasPrefix id = true ↔
      ∃ cs, Text.afterPrefix? kind.idPrefix.toList id.toList = some ('-' :: cs) := by
    unfold hasPrefix
    split
    · next rest hrest => cases rest <;> simp [hrest]
    · next hnone => simp [hnone]
  simp only [hread, Text.afterPrefix?_eq_some]
  constructor
  · rintro ⟨cs, hcs⟩
    refine ⟨String.ofList cs, String.toList_inj.1 ?_⟩
    simp [hcs]
  · rintro ⟨rest, rfl⟩
    exact ⟨rest.toList, by simp⟩

theorem FaultKind.owns_iff (kind : FaultKind) (id : String) :
    kind.owns id = true ↔ ∃ rest, id = kind.resource.namePrefix ++ rest := by
  cases kind with
  | networkDelay => exact hasPrefix_iff .networkDelay id
  | jvmException => exact hasPrefix_iff .jvmException id
  | jvmLatency => exact Text.startsWith_iff

/-- An id belongs to every kind of fault that shares the kind of resource that it was made for. -/
theorem FaultKind.owns_recordId {kind fault : FaultKind} (same : kind.resource = fault.resource)
    (fragment : String) (n : Int) : kind.owns (recordId fault fragment n) = true := by
  rw [kind.owns_iff, same]
  exact recordId_named fault fragment n

theorem FaultKind.owns_congr {kind kind' : FaultKind} (same : kind.resource = kind'.resource)
    (id : String) : kind.owns id = kind'.owns id := by
  rw [Bool.eq_iff_iff, owns_iff, owns_iff, same]

/-- The names of resources of two kinds start with different letters. -/
theorem ResourceKind.namePrefix_inj {r r' : ResourceKind} {rest rest' : String}
    (h : r.namePrefix ++ rest = r'.namePrefix ++ rest') : r = r' := by
  have hfirst := congrArg (·.toList.head?) h
  rw [String.toList_append, String.toList_append] at hfirst
  cases r <;> cases r'
  · rfl
  · cases hfirst
  · cases hfirst
  · rfl

/-- An id belongs to faults of one kind of resource at most. -/
theorem FaultKind.resource_of_owns {kind kind' : FaultKind} {id : String}
    (h : kind.owns id = true) (h' : kind'.owns id = true) : kind.resource = kind'.resource := by
  obtain ⟨rest, hid⟩ := (kind.owns_iff id).1 h
  obtain ⟨rest', hid'⟩ := (kind'.owns_iff id).1 h'
  exact ResourceKind.namePrefix_inj (hid.symm.trans hid')

/-! ### Records -/

/-- What holds of every record that is kept, whatever made it. -/
structure FaultRecord.Proper (r : FaultRecord) : Prop where
  active : r.status = .active
  duration_pos : 1 ≤ r.durationMinutes.toNat
  duration_le : r.durationMinutes.toNat ≤ 153722867
  window : r.endTime.nanos - r.startTime.nanos = r.durationMinutes.toNat * 60 * 1000000000
  /-- The wall clock was not ahead of the number of the id. -/
  started : r.startTime.millis ≤ idNumber r.id

/-- What distinguishes the records for a kind of resource, given which requests were accepted. -/
def FaultRecord.Belongs (r : FaultRecord) (accepted : Request → Prop) : ResourceKind → Prop
  | .networkChaos =>
    r.kind = .networkDelay ∧ 1 ≤ r.delaySeconds.toNat ∧ ∃ rest, r.id = "network-delay-" ++ rest
  | .jvmChaos =>
    (r.kind = .jvmException ∧ r.delaySeconds = 0 ∧ ∃ rest, r.id = "jvm-" ++ rest) ∨
      (r.kind = .jvmLatency ∧ (∃ rest, r.id = "jvm-latency-" ++ rest) ∧
        ∃ request latency, accepted (.jvmLatency request) ∧ request.latencyMs = some latency ∧
          (r.delaySeconds.toNat : Int) = latency.toInt / 1000)

section

variable {catalog : Catalog} {request : Request} {plan : Plan} {l : Ledger} {now : Instant}
variable {r : FaultRecord}

theorem Plan.proper_of_record? (planned : request.plan catalog = .ok plan)
    (last_nonneg : 0 ≤ l.clock.last) (h : plan.record? request.kind l now = some r) : r.Proper := by
  obtain ⟨endTime, hend, rfl⟩ := active?_eq_some h
  obtain ⟨hpos, hle⟩ := request.duration_of_plan planned
  have hnanos := Instant.nanos_plusMinutes hend
  have hlast := l.last_lt_issue now
  have hnumber : idNumber (plan.recordId request.kind l now) = (l.issue now).1 :=
    idNumber_recordId request.kind plan.idFragment (by omega)
  have hmillis : now.millis ≤ (l.issue now).1 := l.clock.millis_le_issue now
  exact ⟨rfl, hpos, hle, hnanos, by rw [hnumber]; exact hmillis⟩

theorem Plan.belongs_of_record? (planned : request.plan catalog = .ok plan)
    (h : plan.record? request.kind l now = some r) {accepted : Request → Prop}
    (this : accepted request) : r.Belongs accepted request.kind.resource := by
  obtain ⟨endTime, -, rfl⟩ := active?_eq_some h
  have hdelay := request.delay_of_plan planned
  have hname := recordId_starts request.kind plan.idFragment (l.issue now).1
  cases request with
  | networkDelay q => exact ⟨rfl, hdelay.1, hname⟩
  | jvmException q => exact Or.inl ⟨rfl, hdelay, hname⟩
  | jvmLatency q =>
    obtain ⟨latency, hlatency, -, hvalue⟩ := hdelay
    exact Or.inr ⟨rfl, hname, q, latency, this, hlatency, hvalue⟩

end

end Injection

end FaultPlane
