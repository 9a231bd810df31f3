import FaultPlane.Time.Calendar

/-!
# Instants

Points of time in nanoseconds, within the years of the calendar, and windows of whole minutes.
-/

namespace FaultPlane.Time

/-! ### Windows -/

/-- A length of time in whole seconds. -/
structure Window where
  seconds : Int
  deriving DecidableEq, Repr

/-- A window of whole minutes, if its milliseconds fit a signed word. -/
def Window.ofMinutes? (minutes : Int) : Option Window :=
  let seconds := 60 * minutes
  if seconds.natAbs ≤ Int64.maxValue.toInt.toNat / 1000 then some ⟨seconds⟩ else none

/-! ### Instants -/

/-- Seconds since 1970-01-01T00:00:00Z and nanoseconds past that second. Nanoseconds from `10 ^ 9`
on lie in a leap second that follows the second. -/
structure Instant where
  second : Int
  nano : Nat
  deriving DecidableEq, Repr

namespace Instant

/-! ### Order -/

/-- `a.isBefore b` tells that `a` lies before `b`. -/
def isBefore (a b : Instant) : Bool :=
  a.second < b.second || (a.second = b.second && a.nano < b.nano)

theorem isBefore_iff {a b : Instant} :
    a.isBefore b = true ↔ a.second < b.second ∨ a.second = b.second ∧ a.nano < b.nano := by
  simp [isBefore]

theorem isBefore_irrefl (t : Instant) : t.isBefore t = false := by
  rw [← Bool.not_eq_true, isBefore_iff]
  omega

theorem isBefore_asymm {a b : Instant} (h : a.isBefore b = true) : b.isBefore a = false := by
  rw [isBefore_iff] at h
  rw [← Bool.not_eq_true, isBefore_iff]
  omega

theorem isBefore_trans {a b c : Instant} (hab : a.isBefore b = true) (hbc : b.isBefore c = true) :
    a.isBefore c = true := by
  rw [isBefore_iff] at hab hbc ⊢
  omega

theorem isBefore_or_eq_or_isBefore (a b : Instant) :
    a.isBefore b = true ∨ a = b ∨ b.isBefore a = true := by
  rw [isBefore_iff, isBefore_iff, Instant.mk.injEq]
  omega

theorem isBefore_of_le {a b c : Instant} (h : a.isBefore b = true) (le : c.isBefore b = false) :
    a.isBefore c = true := by
  rw [← Bool.not_eq_true, isBefore_iff] at le
  rw [isBefore_iff] at h ⊢
  omega

/-! ### Milliseconds -/

/-- An instant given in milliseconds since 1970 and nanoseconds past them. -/
def ofMillis (millis : Int) (nanos : Nat) : Instant :=
  ⟨millis / 1000, (millis % 1000).toNat * 1000000 + nanos⟩

/-- Whole milliseconds since 1970. -/
def millis (t : Instant) : Int := t.second * 1000 + (t.nano / 1000000 : Nat)

/-! ### Range -/

/-- The first second of the first year. -/
def firstSecond : Int := (Date.mk firstYear 1 1).dayNumber * 86400

/-- The last second of the last year. -/
def lastSecond : Int := (Date.mk lastYear 12 31).dayNumber * 86400 + 86399

/-- Whether the instant lies within the years of the calendar. -/
def isRepresentable (t : Instant) : Bool :=
  firstSecond ≤ t.second && t.second ≤ lastSecond

theorem isRepresentable_iff {t : Instant} :
    t.isRepresentable = true ↔ -8334601228800 ≤ t.second ∧ t.second ≤ 8210266876799 := by
  have hfirst : firstSecond = -8334601228800 := by decide
  have hlast : lastSecond = 8210266876799 := by decide
  rw [isRepresentable, Bool.and_eq_true, decide_eq_true_eq, decide_eq_true_eq, hfirst, hlast]

/-! ### Later instants -/

/-- The instant a window later, if the calendar reaches that far. A leap second is left for the same
place in an ordinary second. -/
def plus? (t : Instant) (w : Window) : Option Instant :=
  let t' : Instant :=
    if w.seconds = 0 ∨ t.nano < 1000000000 then ⟨t.second + w.seconds, t.nano⟩
    else ⟨t.second + w.seconds + (if w.seconds < 0 then 1 else 0), t.nano - 1000000000⟩
  if t'.isRepresentable then some t' else none

/-- The instant a number of whole minutes later. The number has to fit a signed word, the minutes a
window, and the instant the calendar. -/
def plusMinutes? (t : Instant) (minutes : Nat) : Option Instant :=
  if minutes ≤ Int64.maxValue.toInt.toNat then
    (Window.ofMinutes? minutes).bind t.plus?
  else none

/-! ### Parts of the day -/

def date (t : Instant) : Date := Date.ofDayNumber (t.second / 86400)

def secondOfDay (t : Instant) : Nat := (t.second % 86400).toNat

end Instant

end FaultPlane.Time
