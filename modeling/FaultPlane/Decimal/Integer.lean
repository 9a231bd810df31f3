/-!
# Decimal integers

Texts of whole numbers: an optional sign and at least one digit, read into a given width or refused.
-/

namespace FaultPlane.Decimal

/-- The number a list of decimal digits stands for, given the value of the digits before it. -/
def ofDigits (start : Nat) (ds : List Char) : Nat :=
  ds.foldl (fun n d => n * 10 + (d.toNat - '0'.toNat)) start

/-- A non-empty list of decimal digits as a number. -/
def digits? (cs : List Char) : Option Nat :=
  if cs.isEmpty || !cs.all Char.isDigit then none else some (ofDigits 0 cs)

/-- A number without a minus sign; a plus sign may lead. -/
def nat? (s : String) : Option Nat :=
  match s.toList with
  | '+' :: cs => digits? cs
  | cs => digits? cs

/-- A number with an optional sign. -/
def int? (s : String) : Option Int :=
  match s.toList with
  | '-' :: cs => (digits? cs).map fun n => -(n : Int)
  | _ => (nat? s).map Int.ofNat

/-- A number with an optional sign, in 64 bits. -/
def int64? (s : String) : Option Int64 :=
  (int? s).bind fun n =>
    if Int64.minValue.toInt ≤ n ∧ n ≤ Int64.maxValue.toInt then some (Int64.ofInt n) else none

/-- A number without a minus sign, in 64 bits. -/
def uint64? (s : String) : Option UInt64 :=
  (nat? s).bind fun n => if n < UInt64.size then some (UInt64.ofNat n) else none

/-- A number without a minus sign, in 16 bits. -/
def uint16? (s : String) : Option UInt16 :=
  (nat? s).bind fun n => if n < UInt16.size then some (UInt16.ofNat n) else none

/-- The decimal digits of a number. -/
def ofNat (n : Nat) : String := String.ofList (Nat.toDigits 10 n)

/-- The decimal digits of a number, after a minus sign if it is negative. -/
def ofInt : Int → String
  | .ofNat n => ofNat n
  | .negSucc n => "-" ++ ofNat (n + 1)

/-- The decimal digits of a number, filled up with zeros in front to a width. -/
def padded (width n : Nat) : String :=
  String.ofList ((Nat.toDigits 10 n).leftpad width '0')

end FaultPlane.Decimal
