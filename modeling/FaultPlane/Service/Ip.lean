import FaultPlane.Decimal.Integer

/-!
# Numeric hosts

Hosts that are numbers: four octets, given as up to four numbers in decimal, octal or hexadecimal
notation, and eight groups of sixteen bits.
-/

namespace FaultPlane.Service

/-! ### Four octets -/

def digitValue? (c : Char) : Option Nat :=
  if '0' ≤ c && c ≤ '9' then some (c.toNat - 0x30)
  else if 'a' ≤ c && c ≤ 'f' then some (c.toNat - 0x57)
  else if 'A' ≤ c && c ≤ 'F' then some (c.toNat - 0x37)
  else none

/-- A number in a base, read digit by digit; no digits are zero. -/
def inBase? (base : Nat) (cs : List Char) : Option Nat :=
  cs.foldlM (fun n c => do
    let d ← digitValue? c
    if d < base then pure (n * base + d) else none) 0

/-- A part of a numeric host: hexadecimal after `0x`, octal after another zero, else decimal. -/
def hostNumber? (cs : List Char) : Option Nat :=
  match cs with
  | [] => none
  | '0' :: 'x' :: ds | '0' :: 'X' :: ds => inBase? 16 ds
  | '0' :: d :: ds => inBase? 8 (d :: ds)
  | ds => inBase? 10 ds

/-- The labels of a host name, without an empty one at its end. -/
def labels (host : List Char) : List (List Char) :=
  let parts := host.splitOnP (· == '.')
  if parts.length > 1 ∧ parts.getLast? = some [] then parts.dropLast else parts

/-- Whether a host ends in a number and so must be numeric as a whole. -/
def endsInNumber (host : List Char) : Bool :=
  match (labels host).getLast? with
  | some [] | none => false
  | some last => last.all Char.isDigit ||
    (match last with
      | '0' :: 'x' :: _ | '0' :: 'X' :: _ => (hostNumber? last).isSome
      | _ => false)

/-- The value of a numeric host: all parts but the last are octets, the last fills the rest. -/
def quadValue? (parts : List Nat) : Option Nat := do
  let last ← parts.getLast?
  let front := parts.dropLast
  if parts.length ≤ 4 ∧ front.all (· < 256) ∧ last < Nat.pow 256 (4 - front.length) then
    pure (front.zipIdx.foldl (fun sum (n, i) => sum + n * Nat.pow 256 (3 - i)) last)
  else none

/-- A numeric host in dotted notation. -/
def quad? (host : List Char) : Option String := do
  let parts ← (labels host).mapM hostNumber?
  let n ← quadValue? parts
  pure (String.intercalate "."
    ([n / 16777216, n / 65536 % 256, n / 256 % 256, n % 256].map Decimal.ofNat))

/-! ### Eight groups -/

/-- A group of one to four hexadecimal digits. -/
def group? (cs : List Char) : Option Nat :=
  if cs.isEmpty || 4 < cs.length then none else inBase? 16 cs

/-- Four octets in plain decimal notation as two groups. -/
def embeddedQuad? (cs : List Char) : Option (List Nat) := do
  let parts := cs.splitOnP (· == '.')
  let octets ← parts.mapM fun p =>
    if p.head? = some '0' ∧ p.length ≠ 1 then none else Decimal.digits? p
  match octets with
  | [a, b, c, d] =>
    if octets.all (· < 256) then pure [a * 256 + b, c * 256 + d] else none
  | _ => none

/-- Some groups between colons, of which the last may be four octets. -/
def groups? (cs : List Char) : Option (List Nat) :=
  if cs.isEmpty then some []
  else
    let parts := cs.splitOnP (· == ':')
    match parts.getLast? with
    | some last =>
      if last.contains '.' then do
        let front ← parts.dropLast.mapM group?
        let quad ← embeddedQuad? last
        pure (front ++ quad)
      else parts.mapM group?
    | none => none

/-- The text before and after the first pair of colons. -/
def cutPair : List Char → Option (List Char × List Char)
  | ':' :: ':' :: rest => some ([], rest)
  | c :: rest => (cutPair rest).map fun (a, b) => (c :: a, b)
  | [] => none

/-- The eight groups of an address. A pair of colons stands for one or more groups of zero. -/
def eightGroups? (cs : List Char) : Option (List Nat) :=
  match cutPair cs with
  | none => do
    let gs ← groups? cs
    if gs.length = 8 then pure gs else none
  | some (front, back) => do
    if front.contains '.' then none
    let a ← groups? front
    let b ← groups? back
    if a.length + b.length < 8 then
      pure (a ++ List.replicate (8 - a.length - b.length) 0 ++ b)
    else none

/-- The length of the run of zeros at the front. -/
def zeroRun (gs : List Nat) : Nat := (gs.takeWhile (· == 0)).length

/-- The start and the length of the first longest run of at least two zeros. -/
def longestZeros (gs : List Nat) : Option (Nat × Nat) :=
  let runs := (List.range gs.length).map fun i => (i, zeroRun (gs.drop i))
  runs.foldl (fun best run =>
    if 1 < run.2 ∧ (best.all fun b => b.2 < run.2) then some run else best) none

def hexText (n : Nat) : String := String.ofList (Nat.toDigits 16 n)

def colonJoined (gs : List Nat) : String := String.intercalate ":" (gs.map hexText)

/-- Eight groups in their shortest notation. -/
def groupsText (gs : List Nat) : String :=
  match longestZeros gs with
  | some (start, length) =>
    colonJoined (gs.take start) ++ "::" ++ colonJoined (gs.drop (start + length))
  | none => colonJoined gs

end FaultPlane.Service
