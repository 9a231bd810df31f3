import FaultPlane.Contract.Command
import FaultPlane.Contract.ServiceInfo
import FaultPlane.Contract.ServiceStatus
import FaultPlane.File
import FaultPlane.Table
import FaultPlane.Text.Find
import FaultPlane.Text.Upper

/-!
# The fault switches of a service

A switch set holds the state of every fault switch that a service describes. It is seeded from the
environment: `FAULT_X` set to `true` enables the switch `x`, `FAULT_X_DELAY_MS` sets its delay, and
`FAULT_DELAY_TIME_MS` the delay of the delaying switches that have none of their own. After that it
changes only by commands.
-/

namespace FaultPlane.Agent

open Contract (Descriptor ServiceInfo ServiceStatus Toggle Command Reply)
open FaultPlane.Time (Instant)

/-! ### Problems -/

/-- Why there is no switch set. -/
inductive Problem where
  | unreadable (path : String) (cause : FileProblem)
  | breach (cause : Contract.Problem)
  | repeatedFault (id : String)
  | invalidVariable (key value : String)
  deriving DecidableEq, Repr

def Problem.message : Problem → String
  | .unreadable path cause => "Cannot read fault descriptors from " ++ path ++ ": " ++ cause.message
  | .breach cause => "Invalid fault descriptors: " ++ cause.message
  | .repeatedFault id => "Duplicate fault id " ++ id
  | .invalidVariable key value => "Invalid environment value " ++ key ++ "=" ++ value

/-- Reads the document in which a service describes itself. -/
def loadInfo (path : String) (entry : FileEntry) : Except Problem ServiceInfo := do
  let text ← entry.text.mapError (.unreadable path)
  (ServiceInfo.ofDocument text).mapError .breach

/-! ### Values -/

/-- The longest delay in milliseconds. -/
def maxDelay : Int64 := 300000

/-- The nearest delay between zero and the longest one. -/
def clampDelay (delay : Int64) : Int64 :=
  if delay < 0 then 0 else if maxDelay < delay then maxDelay else delay

/-- The nearest probability. -/
def clampProbability (p : Float) : Float := if p < 0 then 0 else if 1 < p then 1 else p

/-! ### Seeding -/

/-- The variable that enables a switch. -/
def variableName (faultId : String) : String :=
  "FAULT_" ++ String.ofList ((Text.upper faultId).toList.map fun c =>
    if c = '-' ∨ c = '.' ∨ c = ' ' then '_' else c)

/-- A delay given by a variable; a blank value counts as none. -/
def readDelay (lookup : String → Option String) (key : String) :
    Except Problem (Option Int64) :=
  match (lookup key).map Text.trim with
  | none | some "" => pure none
  | some value =>
    match Decimal.int64? value with
    | some delay => pure (some (clampDelay delay))
    | none => throw (.invalidVariable key value)

/-- Whether a variable is set to `true`, in letters of any case. -/
def isSetTrue (lookup : String → Option String) (key : String) : Bool :=
  (lookup key).any fun value => Text.asciiLower (Text.trim value) == "true"

/-- The first state of a switch. `common` is the delay of switches without one of their own. -/
def seed (lookup : String → Option String) (common : Option Int64) (d : Descriptor) :
    Except Problem Toggle := do
  let key := variableName d.id
  let own ← readDelay lookup (key ++ "_DELAY_MS")
  let delay := match own with
    | some delay => some delay
    | none => if d.isDelay then (common <|> d.defaultDelay).map clampDelay else none
  pure ⟨d.id, isSetTrue lookup key, delay, d.defaultErrorCode, d.defaultProbability⟩

/-- The first name that occurs earlier in a list; `seen` are the names before the list. -/
def firstRepeat? (seen : List String) : List String → Option String
  | [] => none
  | name :: rest => if seen.contains name then some name else firstRepeat? (name :: seen) rest

/-- The fault switches of a service. -/
structure SwitchSet where
  info : ServiceInfo
  states : Table Toggle

namespace SwitchSet

/-- The switch set of a service, seeded from variables. -/
def ofLookup (lookup : String → Option String) (info : ServiceInfo) :
    Except Problem SwitchSet := do
  match firstRepeat? [] (info.faults.map (·.id)) with
  | some id => throw (.repeatedFault id)
  | none =>
    let common ← readDelay lookup "FAULT_DELAY_TIME_MS"
    let toggles ← info.faults.mapM (seed lookup common)
    pure ⟨info, Table.ofList (toggles.map fun t => (t.id, t))⟩

/-- The switch set of a service without variables: every switch is off. -/
def new (info : ServiceInfo) : Except Problem SwitchSet := ofLookup (fun _ => none) info

/-! ### Commands -/

/-- The state of a switch after a command. -/
def obey (t : Toggle) (c : Command) : Toggle where
  id := t.id
  enabled := c.enable
  delayMs := (c.delayMs.map clampDelay) <|> t.delayMs
  errorCode := c.errorCode <|> t.errorCode
  probability := (c.probability.map clampProbability) <|> t.probability

/-- What the reply to a command says about the new state. -/
def describe (t : Toggle) (c : Command) : String :=
  if t.enabled then
    match t.delayMs, c.delayMs with
    | some delay, some _ =>
      "Fault " ++ t.id ++ " enabled with delay " ++ Decimal.ofInt delay.toInt ++ "ms"
    | _, _ => "Fault " ++ t.id ++ " enabled"
  else "Fault " ++ t.id ++ " disabled"

/-- Carries out a command. A command to an unknown switch changes nothing. -/
def control (s : SwitchSet) (c : Command) : Reply × SwitchSet :=
  match s.states.get? c.faultId with
  | none => (.failure c.faultId ("Unknown fault: " ++ c.faultId), s)
  | some t =>
    let t' := obey t c
    (⟨true, describe t' c, t'.id, t'.enabled⟩, { s with states := s.states.insert c.faultId t' })

/-! ### Views -/

/-- The states of all switches, in the order of their descriptors. -/
def status (s : SwitchSet) (now : Instant) : ServiceStatus :=
  let faults := s.info.faults.filterMap fun d => s.states.get? d.id
  let enabled := (faults.filter (·.enabled)).length
  { serviceId := s.info.serviceId
    serviceName := s.info.serviceName
    status := "normal"
    details := Decimal.ofNat enabled ++ " of " ++ Decimal.ofNat faults.length ++ " faults enabled"
    timestamp := Int64.ofInt now.millis
    reachable := true
    faults := faults }

/-- The state of a switch that is enabled. -/
def enabled? (s : SwitchSet) (id : String) : Option Toggle := (s.states.get? id).filter (·.enabled)

def isEnabled (s : SwitchSet) (id : String) : Bool := (s.enabled? id).isSome

/-- The milliseconds by which an enabled switch delays. -/
def delayFor (s : SwitchSet) (id : String) : Option Nat :=
  ((s.enabled? id).bind (·.delayMs)).map fun delay => delay.toInt.toNat

/-- The code with which an enabled switch answers. -/
def errorCodeFor (s : SwitchSet) (id : String) : Option Int32 :=
  (s.enabled? id).bind (·.errorCode)

/-- Whether a random word of 64 bits is below a share of all words. -/
def isBelowShare (p : Float) (word : UInt64) : Bool :=
  let p := clampProbability p
  p == 1 || word < (p * 18446744073709551616).toUInt64

/-- Whether an enabled switch fires, given a random word. One without a probability always does. -/
def fires (s : SwitchSet) (id : String) (word : UInt64) : Bool :=
  (s.enabled? id).any fun t => isBelowShare (t.probability.getD 1) word

end SwitchSet

end FaultPlane.Agent
