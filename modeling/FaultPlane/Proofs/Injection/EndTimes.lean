import FaultPlane.Proofs.Injection.Outcome
import FaultPlane.Proofs.Time.Timestamps
import FaultPlane.Proofs.Time.Windows

/-!
# When a fault ends

The end of a fault is the exact instant its minutes after its start, and a fault whose end the
calendar does not have is refused. That holds for every number of minutes there is, and for a start
anywhere in the calendar (`ends_exactly`).
-/

namespace FaultPlane

/-! ### Instants -/

namespace Time.Instant

/-- The last instant of the calendar that is in no leap second. -/
def last : Instant := ⟨8210266876799, 999999999⟩

theorem nanos_le_last_iff {t : Instant} : t.nanos ≤ last.nanos ↔ t.second ≤ 8210266876799 := by
  unfold nanos last
  dsimp only
  omega

theorem IsProper.later {t : Instant} (h : t.IsProper) {minutes : Nat}
    (inside : t.second + 60 * minutes ≤ 8210266876799) : (t.later minutes).IsProper := by
  obtain ⟨representable, nano_lt, leap⟩ := h
  obtain ⟨hlow, -⟩ := isRepresentable_iff.1 representable
  refine ⟨isRepresentable_iff.2 ⟨?_, inside⟩, ?_, ?_⟩
  · show (-8334601228800 : Int) ≤ t.second + 60 * minutes
    omega
  · unfold Instant.later
    dsimp only
    split <;> omega
  · unfold Instant.later
    dsimp only
    split <;> omega

theorem nano_later {t : Instant} (h : t.nano < 2000000000) (minutes : Nat) :
    (t.later minutes).nano = if minutes = 0 then t.nano else t.nano % 1000000000 := by
  unfold later
  dsimp only
  split <;> split <;> omega

theorem isBefore_iff_nanos {a b : Instant} (ha : a.nano < 1000000000) (hb : b.nano < 1000000000) :
    a.isBefore b = true ↔ a.nanos < b.nanos := by
  rw [isBefore_iff]
  unfold nanos
  omega

end Time.Instant

namespace Injection

open FaultPlane.Time (Instant)

/-! ### Records -/

/-- What it means that a fault lasts for some minutes from its start on. -/
structure FaultRecord.Lasts (r : FaultRecord) (start : Instant) (minutes : Nat) : Prop where
  startTime : r.startTime = start
  span : r.endTime.nanos = start.nanos + minutes * 60 * 1000000000
  second : r.endTime.second = start.second + 60 * minutes
  /-- A fault that starts in a leap second ends in none, unless it ends at once. -/
  nano : r.endTime.nano = if minutes = 0 then start.nano else start.nano % 1000000000
  proper : r.endTime.IsProper
  running : ∀ now, now = r.endTime ∨ now.isBefore r.endTime = true → r.isExpiredAt now = false
  ended : ∀ now, r.endTime.isBefore now = true → r.isExpiredAt now = true
  /-- Where there are no leap seconds, this is a matter of counting nanoseconds. -/
  counted : start.nano < 1000000000 → ∀ now : Instant, now.nano < 1000000000 →
    (r.isExpiredAt now = true ↔ start.nanos + minutes * 60 * 1000000000 < now.nanos)

section

variable {id service : String} {kind : FaultKind} {delay duration : UInt64} {start : Instant}

theorem active?_eq_some_iff (proper : start.IsProper) {r : FaultRecord} :
    FaultRecord.active? id service kind delay duration start = some r ↔
      start.second + 60 * duration.toNat ≤ 8210266876799 ∧
        r = ⟨id, service, kind, delay, duration, start, start.later duration.toNat, .active⟩ := by
  unfold FaultRecord.active?
  simp only [Option.map_eq_some_iff,
    Time.Instant.plusMinutes?_eq_some_of_representable proper.representable]
  constructor
  · rintro ⟨endTime, ⟨inside, rfl⟩, rfl⟩
    exact ⟨inside, rfl⟩
  · rintro ⟨inside, rfl⟩
    exact ⟨_, ⟨inside, rfl⟩, rfl⟩

theorem FaultRecord.lasts (proper : start.IsProper) {minutes : Nat}
    (inside : start.second + 60 * minutes ≤ 8210266876799) {r : FaultRecord}
    (hstart : r.startTime = start) (hend : r.endTime = start.later minutes) :
    r.Lasts start minutes := by
  refine ⟨hstart, ?_, ?_, ?_, ?_, ?_, fun _ later => later, ?_⟩
  · rw [hend, Instant.nanos_later]
  · rw [hend]
    rfl
  · rw [hend, Instant.nano_later proper.nano_lt]
  · rw [hend]
    exact proper.later inside
  · rintro now (rfl | early)
    · exact Instant.isBefore_irrefl r.endTime
    · exact Instant.isBefore_asymm early
  · intro ordinary now hnow
    have hnano : r.endTime.nano < 1000000000 := by
      rw [hend, Instant.nano_later proper.nano_lt]
      split <;> omega
    rw [FaultRecord.isExpiredAt, Instant.isBefore_iff_nanos hnano hnow, hend, Instant.nanos_later]

end

/-- A fault gets a record exactly if the calendar reaches to the end of its minutes, and then the
record ends at that very instant. -/
theorem ends_exactly (id service : String) (kind : FaultKind) (delay duration : UInt64)
    {start : Instant} (proper : start.IsProper) :
    let record? := FaultRecord.active? id service kind delay duration start
    ((∃ r, record? = some r) ↔
        start.nanos + duration.toNat * 60 * 1000000000 ≤ Instant.last.nanos) ∧
      ∀ r, record? = some r →
        r = ⟨id, service, kind, delay, duration, start, r.endTime, .active⟩ ∧
          r.Lasts start duration.toNat := by
  intro record?
  refine ⟨?_, ?_⟩
  · rw [← Instant.nanos_later, Instant.nanos_le_last_iff]
    constructor
    · rintro ⟨r, hr⟩
      exact ((active?_eq_some_iff proper).1 hr).1
    · intro inside
      exact ⟨_, (active?_eq_some_iff proper).2 ⟨inside, rfl⟩⟩
  · intro r hr
    obtain ⟨inside, rfl⟩ := (active?_eq_some_iff proper).1 hr
    exact ⟨rfl, FaultRecord.lasts proper inside rfl rfl⟩

/-- One minute before the calendar ends, a fault may last one minute, and may not last as many as can
be asked for. -/
theorem ends_exactly_last :
    let start : Instant := ⟨8210266876739, 999999999⟩
    start.IsProper ∧
      (∃ r, FaultRecord.active? "jvm-seat-1" "seat" .jvmException 0 1 start = some r ∧
        r.endTime.second = 8210266876799 ∧ r.endTime.nano = 999999999 ∧
          r.isExpiredAt Instant.last = false) ∧
      ¬ ∃ r, FaultRecord.active? "jvm-seat-1" "seat" .jvmException 0 18446744073709551615 start =
        some r := by
  intro start
  have proper : start.IsProper := by
    refine ⟨by decide, by decide, fun leap => ?_⟩
    exact absurd leap (by decide)
  obtain ⟨hsome, hlasts⟩ := ends_exactly "jvm-seat-1" "seat" .jvmException 0 1 proper
  obtain ⟨hnone, -⟩ := ends_exactly "jvm-seat-1" "seat" .jvmException 0 18446744073709551615 proper
  obtain ⟨r, hr⟩ := hsome.2 (by decide)
  obtain ⟨-, lasts⟩ := hlasts r hr
  have hsecond : r.endTime.second = 8210266876799 := lasts.second
  have hnano : r.endTime.nano = 999999999 := lasts.nano
  have hlast : Instant.last = r.endTime := by
    cases hend : r.endTime
    rw [hend] at hsecond hnano
    cases hsecond
    cases hnano
    rfl
  refine ⟨proper, ⟨r, hr, hsecond, hnano, lasts.running _ (.inl hlast)⟩, ?_⟩
  rw [hnone]
  decide

end Injection

end FaultPlane
