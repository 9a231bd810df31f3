import FaultPlane.Plane.Basic
import FaultPlane.Schedule.Basic

/-!
# Background loops

Services are polled once at start-up, again after the settle delay and then regularly; expired
faults are swept out regularly, with a loop for each kind of resource. All loops end with the stop
flag. Times are milliseconds since some common start.
-/

namespace FaultPlane.Plane

open Injection (ResourceKind)
open FaultPlane.Schedule (Ticker StopFlag Pause)
open FaultPlane.Time (Instant)

/-- A background loop. -/
inductive BackgroundLoop where
  | settling (pause : Pause)
  | scanning (ticker : Ticker)
  | sweeping (kind : ResourceKind) (ticker : Ticker)
  | finished
  deriving DecidableEq, Repr

namespace BackgroundLoop

/-- A loop after a change of the stop flag. -/
def heed (flag : StopFlag) (l : BackgroundLoop) : BackgroundLoop :=
  if flag.stops then .finished else l

/-- What a loop does at a time when the flag does not stop it. -/
def wake (p : Plane) (time : Nat) (now : Instant) :
    BackgroundLoop → Dialogue State BackgroundLoop
  | .settling pause =>
    match pause.wake time with
    | .ended true _ => do
      p.pollAll now
      pure (.scanning (Ticker.start p.config.discovery.scanIntervalMs.toNat time))
    | .ended false _ => pure .finished
    | pause => pure (.settling pause)
  | .scanning ticker =>
    if ticker.isDue time then do
      p.pollAll now
      pure (.scanning (ticker.tick time))
    else pure (.scanning ticker)
  | .sweeping kind ticker =>
    if ticker.isDue time then do
      let _ ← p.sweep kind now
      pure (.sweeping kind (ticker.tick time))
    else pure (.sweeping kind ticker)
  | .finished => pure .finished

end BackgroundLoop

/-- Lets every loop do what is due. -/
def wakeAll (p : Plane) (time : Nat) (now : Instant) :
    List BackgroundLoop → Dialogue State (List BackgroundLoop)
  | [] => pure []
  | l :: ls => do
    let l' ← l.wake p time now
    let ls' ← p.wakeAll time now ls
    pure (l' :: ls')

/-- Starts the loops. The first poll, if services are polled at all, is over when they start. -/
def startLoops (p : Plane) (flag : StopFlag) (time : Nat) (now : Instant) :
    Dialogue State (List BackgroundLoop) := do
  let sweeps := [ResourceKind.networkChaos, .jvmChaos].map fun kind =>
    BackgroundLoop.sweeping kind (Ticker.start p.config.chaos.sweepIntervalMs.toNat time)
  let scan ← if p.config.discovery.enabled then do
      p.pollAll now
      let pause := Pause.start flag time p.config.discovery.settleDelayMs.toNat
      pure [BackgroundLoop.settling pause]
    else pure []
  p.wakeAll time now ((scan ++ sweeps).map (·.heed flag))

/-- The number of loops that have ended. -/
def finishedLoops (loops : List BackgroundLoop) : Nat := loops.count .finished

end FaultPlane.Plane
