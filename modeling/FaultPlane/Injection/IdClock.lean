import FaultPlane.Time.Instant

/-!
# The clock of record ids

Record ids end in a number of milliseconds. The clock that issues them follows the wall clock but
never issues a number twice and never one below the last, even when the wall clock stands still or
goes back.
-/

namespace FaultPlane.Injection

/-- The last number issued; zero before the first. -/
structure IdClock where
  last : Int := 0
  deriving DecidableEq, Repr, Inhabited

namespace IdClock

/-- Issues the milliseconds of an instant, or the number after the last one if they are not above
it. -/
def issue (c : IdClock) (now : Time.Instant) : Int × IdClock :=
  let n := if c.last < now.millis then now.millis else c.last + 1
  (n, ⟨n⟩)

theorem last_lt_issue (c : IdClock) (now : Time.Instant) : c.last < (c.issue now).1 := by
  simp only [issue]
  split <;> omega

theorem millis_le_issue (c : IdClock) (now : Time.Instant) : now.millis ≤ (c.issue now).1 := by
  simp only [issue]
  split <;> omega

/-- The numbers issued at some instants, one after the other. -/
def issueAll (c : IdClock) : List Time.Instant → List Int
  | [] => []
  | t :: ts =>
    let (n, c') := c.issue t
    n :: c'.issueAll ts

end IdClock

end FaultPlane.Injection
