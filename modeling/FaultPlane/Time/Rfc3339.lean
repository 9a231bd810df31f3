import FaultPlane.Text.Blank
import FaultPlane.Decimal.Integer
import FaultPlane.Time.Instant

/-!
# RFC 3339 timestamps

Writing an instant in UTC, and reading timestamps with any offset. The reader is lenient about
spaces between the parts, about the case of the letters and about the width of numbers; its errors
name the first part that does not fit.
-/

namespace FaultPlane.Time

open FaultPlane.Text (isBlank)

/-! ### Writing -/

/-- The digits of a fraction of a second after the point: none, three, six or nine, the fewest
that are exact. -/
def fractionText (nano : Nat) : String :=
  if nano = 0 then ""
  else if nano % 1000000 = 0 then "." ++ Decimal.padded 3 (nano / 1000000)
  else if nano % 1000 = 0 then "." ++ Decimal.padded 6 (nano / 1000)
  else "." ++ Decimal.padded 9 nano

/-- Four digits for the years 0 to 9999, else a sign and at least four digits. -/
def yearText (year : Int) : String :=
  if year < 0 then "-" ++ Decimal.padded 4 year.natAbs
  else if year ≤ 9999 then Decimal.padded 4 year.toNat
  else "+" ++ Decimal.padded 4 year.toNat

/-- Hours, minutes and seconds of a day. The second that a leap second follows is counted on to
sixty. -/
def clockText (secondOfDay nano : Nat) : String :=
  let second := secondOfDay % 60 + nano / 1000000000
  Decimal.padded 2 (secondOfDay / 3600) ++ ":" ++ Decimal.padded 2 (secondOfDay / 60 % 60) ++ ":" ++
    Decimal.padded 2 second

namespace Instant

/-- The timestamp of an instant in UTC. -/
def rfc3339 (t : Instant) : String :=
  let d := t.date
  yearText d.year ++ "-" ++ Decimal.padded 2 d.month ++ "-" ++ Decimal.padded 2 d.day ++ "T" ++
    clockText t.secondOfDay t.nano ++ fractionText (t.nano % 1000000000) ++ "Z"

/-- The time of day to the millisecond, as log lines show it. -/
def timeOfDay (t : Instant) : String :=
  clockText t.secondOfDay t.nano ++ "." ++ Decimal.padded 3 (t.nano % 1000000000 / 1000000)

end Instant

/-! ### Reading -/

/-- Why a text is not a timestamp. -/
inductive TimestampProblem where
  | outOfRange
  | impossible
  | invalid
  | tooShort
  | tooLong
  deriving DecidableEq, Repr

def TimestampProblem.message : TimestampProblem → String
  | .outOfRange => "input is out of range"
  | .impossible => "no possible date and time matching input"
  | .invalid => "input contains invalid characters"
  | .tooShort => "premature end of input"
  | .tooLong => "trailing input"

namespace Timestamp

/-- Takes something off the front of a text. -/
abbrev Reader := StateT (List Char) (Except TimestampProblem)

def skipBlanks : Reader Unit := modify (·.dropWhile isBlank)

/-- One or more digits, at most `width`, as a number of at most 63 bits. -/
def number (width : Option Nat) : Reader Nat := fun cs => do
  let window := match width with
    | some w => cs.take w
    | none => cs
  match window.takeWhile Char.isDigit with
  | [] => throw (if cs.isEmpty then .tooShort else .invalid)
  | ds =>
    let n := Decimal.ofDigits 0 ds
    if n ≤ Int64.maxValue.toInt.toNat then pure (n, cs.drop ds.length) else throw .outOfRange

/-- A number of one or two digits within bounds. -/
def field (low high : Nat) : Reader Nat := do
  skipBlanks
  let n ← number (some 2)
  if low ≤ n ∧ n ≤ high then pure n else throw .outOfRange

/-- Up to four digits, or a sign and any number of digits. -/
def year : Reader Int := do
  skipBlanks
  let y : Int ← match ← get with
    | '-' :: cs => do set cs; pure (-((← number none) : Int))
    | '+' :: cs => do set cs; pure (← number none : Int)
    | _ => do pure (← number (some 4) : Int)
  if Int32.minValue.toInt ≤ y ∧ y ≤ Int32.maxValue.toInt then pure y else throw .outOfRange

/-- Blanks and then the given character. -/
def separator (c : Char) : Reader Unit := do
  skipBlanks
  match ← get with
  | [] => throw .tooShort
  | d :: cs => if d = c then set cs else throw .invalid

/-- The letter, or space, between date and time. -/
def dateEnd : Reader Unit := do
  match ← get with
  | [] => throw .tooShort
  | d :: cs => if d = 'T' ∨ d = 't' ∨ d = ' ' then set cs else throw .invalid

/-- A fraction of a second in nanoseconds, zero if there is none; digits after the ninth are
dropped. -/
def fraction : Reader Nat := do
  match ← get with
  | '.' :: cs =>
    set cs
    let n ← number (some 9)
    let width := cs.length - (← get).length
    modify (·.dropWhile Char.isDigit)
    pure (n * Nat.pow 10 (9 - width))
  | _ => pure 0

/-- Two digits; `high` bounds the first one. -/
def twoDigits (high : Char) : Reader Nat := fun cs =>
  if (String.ofList cs).utf8ByteSize < 2 then throw .tooShort
  else match cs with
    | a :: b :: rest =>
      if a.isDigit ∧ b.isDigit then
        if a ≤ high then pure (Decimal.ofDigits 0 [a, b], rest) else throw .outOfRange
      else throw .invalid
    | _ => throw .invalid

/-- The offset from UTC in seconds: a `Z`, the letters `UTC`, or a sign with hours and minutes. -/
def offset : Reader Int := do
  skipBlanks
  match ← get with
  | [] => throw .tooShort
  | c :: cs =>
    if (c :: cs).take 3 |>.map Char.toUpper |> (· == ['U', 'T', 'C']) then do
      set (cs.drop 2)
      pure 0
    else if c = 'Z' ∨ c = 'z' then do
      set cs
      pure 0
    else if c = '+' ∨ c = '-' ∨ c = '\u2212' then do
      set cs
      let hours ← twoDigits '9'
      modify (·.dropWhile fun c => c == ':' || isBlank c)
      let minutes ← twoDigits '5'
      let seconds : Int := hours * 3600 + minutes * 60
      pure (if c = '+' then seconds else -seconds)
    else throw .invalid

/-- The instant that the parts of a timestamp make. The sixtieth second of a minute is the leap
second after the one before it. -/
def assemble (date : Date) (hour minute second nano : Nat) (offset : Int) :
    Except TimestampProblem Instant :=
  if !(date.isValid && firstYear ≤ date.year && date.year ≤ lastYear) then throw .outOfRange
  else if 86400 ≤ offset.natAbs then throw .outOfRange
  else
    let (second, nano) := if second = 60 then (59, nano + 1000000000) else (second, nano)
    let t : Instant :=
      ⟨date.dayNumber * 86400 + (hour * 3600 + minute * 60 + second : Nat) - offset, nano⟩
    if t.isRepresentable then pure t else throw .impossible

/-- The end of a timestamp, which only blanks may follow. -/
def atEnd : Reader Unit := do
  skipBlanks
  unless (← get).isEmpty do throw .tooLong

/-- Date, time and offset of a timestamp as an instant. -/
def instant : Reader Instant := do
  let year ← year
  separator '-'
  let month ← field 1 12
  separator '-'
  let day ← field 1 31
  dateEnd
  let hour ← field 0 23
  separator ':'
  let minute ← field 0 59
  separator ':'
  let second ← field 0 60
  let nano ← fraction
  let offset ← offset
  atEnd
  assemble ⟨year, month, day⟩ hour minute second nano offset

end Timestamp

/-- The instant of a timestamp. -/
def Instant.ofRfc3339 (s : String) : Except TimestampProblem Instant :=
  (Timestamp.instant.run s.toList).map (·.1)

end FaultPlane.Time
