import FaultPlane.Decimal.Integer
import FaultPlane.Decimal.Shortest

/-!
# Numbers in JSON text

Whole numbers keep their digits. A double has the digits of its shortest decimal; it is written
positionally from `0.00001` up to sixteen digits before the point, and always with a point or an
exponent, so that it never looks like a whole number.
-/

namespace FaultPlane.Json

/-- The layout of the decimal `digits * 10 ^ exponent`, which must not be zero. -/
def layout (digits : Nat) (exponent : Int) : String :=
  let ds := Nat.toDigits 10 digits
  let point : Int := (ds.length : Int) + exponent
  if 0 ≤ exponent ∧ point ≤ 16 then
    String.ofList (ds ++ List.replicate exponent.toNat '0') ++ ".0"
  else if 0 < point ∧ point ≤ 16 then
    String.ofList (ds.take point.toNat) ++ "." ++ String.ofList (ds.drop point.toNat)
  else if -5 < point ∧ point ≤ 0 then
    "0." ++ String.ofList (List.replicate (-point).toNat '0' ++ ds)
  else
    let power := point - 1
    let mark := if power < 0 then "e-" else "e+"
    let fraction := if ds.length = 1 then "" else "." ++ String.ofList (ds.drop 1)
    String.ofList (ds.take 1) ++ fraction ++ mark ++ Decimal.ofNat power.natAbs

/-- The text of a double. JSON has none for infinities and for what is not a number: they become
`null`. -/
def realText (x : Float) : String :=
  if x.isNaN || x.isInf then "null"
  else
    let bits := x.toBits.toNat
    let sign := if UInt64.size / 2 ≤ bits then "-" else ""
    let magnitude := Decimal.Binary.ofBits bits
    if magnitude.m = 0 then sign ++ "0.0"
    else
      let (digits, exponent) := magnitude.shortest
      sign ++ layout digits exponent

end FaultPlane.Json
