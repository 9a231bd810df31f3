import FaultPlane.Time.Instant

/-!
# Windows of whole minutes

The instant some minutes later is computed in steps, each with a range of its own: the number of
minutes, the window and the instant. For an instant of the calendar only the last range counts, so
the minutes are added exactly, or not at all if the calendar does not reach that far
(`plusMinutes?_eq_some_of_representable`).
-/

namespace FaultPlane.Time

theorem Window.ofMinutes?_eq_some_iff {minutes : Int} {w : Window} :
    ofMinutes? minutes = some w ↔
      w = ⟨60 * minutes⟩ ∧ (60 * minutes).natAbs ≤ 9223372036854775 := by
  have hmax : Int64.maxValue.toInt.toNat / 1000 = 9223372036854775 := by decide
  unfold ofMinutes?
  dsimp only
  rw [hmax]
  split
  · next short => simp [short, eq_comm]
  · next long => simp [long]

namespace Instant

/-- Nanoseconds since 1970, in a count in which a leap second has the numbers of the second before
it. -/
def nanos (t : Instant) : Int := t.second * 1000000000 + (t.nano % 1000000000 : Nat)

/-- The instant some minutes later, in the calendar or not. A leap second is over by then, unless no
time passes. -/
def later (t : Instant) (minutes : Nat) : Instant :=
  ⟨t.second + 60 * minutes,
    if minutes = 0 ∨ t.nano < 1000000000 then t.nano else t.nano - 1000000000⟩

theorem nanos_later (t : Instant) (minutes : Nat) :
    (t.later minutes).nanos = t.nanos + minutes * 60 * 1000000000 := by
  unfold nanos later
  dsimp only
  split <;> omega

theorem plus?_eq (t : Instant) (minutes : Nat) :
    t.plus? ⟨60 * minutes⟩ =
      if (t.later minutes).isRepresentable then some (t.later minutes) else none := by
  have hzero : (60 * minutes : Int) = 0 ↔ minutes = 0 := by omega
  have hforward : ¬ (60 * minutes : Int) < 0 := by omega
  unfold plus? later
  dsimp only
  rw [if_neg hforward, Int.add_zero]
  simp only [hzero]
  split <;> rfl

theorem plusMinutes?_eq_some_iff {t t' : Instant} {minutes : Nat} :
    t.plusMinutes? minutes = some t' ↔
      minutes ≤ 9223372036854775807 ∧ (60 * minutes : Int).natAbs ≤ 9223372036854775 ∧
        (t.later minutes).isRepresentable = true ∧ t' = t.later minutes := by
  have hmax : Int64.maxValue.toInt.toNat = 9223372036854775807 := by decide
  unfold plusMinutes?
  rw [hmax]
  split
  · next fits =>
    simp only [Option.bind_eq_some_iff, Window.ofMinutes?_eq_some_iff]
    constructor
    · rintro ⟨w, ⟨rfl, short⟩, hplus⟩
      rw [plus?_eq] at hplus
      split at hplus
      · next inside => exact ⟨fits, short, inside, (Option.some.inj hplus).symm⟩
      · cases hplus
    · rintro ⟨-, short, inside, rfl⟩
      exact ⟨_, ⟨rfl, short⟩, by rw [plus?_eq, if_pos inside]⟩
  · next large =>
    refine iff_of_false (fun h => ?_) fun h => large h.1
    cases h

theorem nanos_plusMinutes {t t' : Instant} {minutes : Nat} (h : t.plusMinutes? minutes = some t') :
    t'.nanos - t.nanos = minutes * 60 * 1000000000 := by
  obtain ⟨-, -, -, rfl⟩ := plusMinutes?_eq_some_iff.1 h
  rw [nanos_later]
  omega

/-- From an instant of the calendar, all that counts is whether the calendar reaches far enough. -/
theorem plusMinutes?_eq_some_of_representable {t t' : Instant} (h : t.isRepresentable = true)
    {minutes : Nat} :
    t.plusMinutes? minutes = some t' ↔
      t.second + 60 * minutes ≤ 8210266876799 ∧ t' = t.later minutes := by
  have hlater : (t.later minutes).second = t.second + 60 * minutes := rfl
  rw [plusMinutes?_eq_some_iff, isRepresentable_iff, hlater]
  rw [isRepresentable_iff] at h
  -- The calendar is so short that the number of minutes and their window are in no danger.
  constructor
  · rintro ⟨-, -, ⟨-, hend⟩, rfl⟩
    exact ⟨hend, rfl⟩
  · rintro ⟨hend, rfl⟩
    exact ⟨by omega, by omega, ⟨by omega, hend⟩, rfl⟩

end Instant

end FaultPlane.Time
