/-!
# Timers and the flag that stops them

Times are milliseconds of a clock that only goes forward. A timer is asked at some times what it
does; it does what is due.
-/

namespace FaultPlane.Schedule

/-! ### The stop flag -/

/-- The flag that background loops watch. It stops them when it is raised, and when nobody is left
who could raise it. -/
structure StopFlag where
  raised : Bool := false
  abandoned : Bool := false
  deriving DecidableEq, Repr, Inhabited

namespace StopFlag

/-- Sets the flag. An abandoned flag stays as it is. -/
def set (f : StopFlag) (value : Bool) : StopFlag :=
  if f.abandoned then f else { f with raised := value }

/-- The one who could set the flag goes away. -/
def abandon (f : StopFlag) : StopFlag := { f with abandoned := true }

def stops (f : StopFlag) : Bool := f.raised || f.abandoned

end StopFlag

/-! ### Regular ticks -/

/-- A timer with a tick every `period` milliseconds. -/
structure Ticker where
  period : Nat
  deadline : Nat
  deriving DecidableEq, Repr

namespace Ticker

/-- A timer whose first tick comes one period after its start. -/
def start (period now : Nat) : Ticker := ⟨period, now + period⟩

def isDue (t : Ticker) (now : Nat) : Bool := t.deadline ≤ now

/-- The lateness, in milliseconds, up to which a tick counts as being on time. -/
def tolerance : Nat := 5

/-- The timer after a tick. The next tick comes one period after the time at which this one was
due, or one period after now if this one was late. -/
def tick (t : Ticker) (now : Nat) : Ticker :=
  { t with
    deadline := (if t.deadline + tolerance < now then now else t.deadline) + t.period }

end Ticker

/-! ### Loops -/

/-- What a loop is doing: waiting for its next tick, working until some time, or nothing more. -/
inductive Phase where
  | waiting
  | working (finish : Nat)
  | stopped
  deriving DecidableEq, Repr

/-- A loop that does work of some length at every tick. Work is not interrupted, and its ticks do
not overlap. -/
structure Loop where
  ticker : Ticker
  work : Nat
  phase : Phase := .waiting
  deriving DecidableEq, Repr

namespace Loop

def start (period work now : Nat) : Loop := { ticker := Ticker.start period now, work := work }

/-- Ends work that is done and stops a loop that is not working, if the flag says so. -/
def settle (l : Loop) (flag : StopFlag) (now : Nat) : Loop :=
  let phase := match l.phase with
    | .working finish => if finish ≤ now then .waiting else .working finish
    | phase => phase
  { l with phase := if phase = .waiting ∧ flag.stops then .stopped else phase }

/-- What a loop does at a time: it ends its work, stops, or begins work if a tick is due. The
number of ticks that begin at once is bounded by `fuel`. -/
def wake (flag : StopFlag) (now : Nat) : Nat → Loop → List Nat × Loop
  | 0, l => ([], l)
  | fuel + 1, l =>
    let l := l.settle flag now
    if l.phase = .waiting ∧ l.ticker.isDue now then
      let l' := { l with ticker := l.ticker.tick now, phase := .working (now + l.work) }
      let (ticks, l'') := wake flag now fuel l'
      (now :: ticks, l'')
    else ([], l)

end Loop

/-! ### Pauses -/

/-- A wait that shutdown cuts short. An ended pause tells whether to go on, and when it ended. -/
inductive Pause where
  | waiting (deadline : Nat)
  | ended (goOn : Bool) (time : Nat)
  deriving DecidableEq, Repr

namespace Pause

/-- A pause from now on. If the flag stops it, it ends at once. -/
def start (flag : StopFlag) (now delay : Nat) : Pause :=
  if flag.stops then .ended false now else .waiting (now + delay)

/-- Ends a pause whose time is over. -/
def wake (now : Nat) : Pause → Pause
  | .waiting deadline => if deadline ≤ now then .ended true now else .waiting deadline
  | p => p

/-- Ends a pause because something was done with the flag, whose new state is given. -/
def notice (flag : StopFlag) (now : Nat) : Pause → Pause
  | .waiting _ => .ended (!flag.stops) now
  | p => p

end Pause

/-! ### Signals -/

/-- The time at which a signal that comes after some milliseconds raises the flag. If listening for
the signal fails, it never does. -/
def signalTime (delay : Nat) (fails : Bool) : Option Nat := if fails then none else some delay

end FaultPlane.Schedule
