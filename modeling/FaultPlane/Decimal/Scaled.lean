/-!
# A significand times a power of ten

The double next to a decimal is found in two rounded steps: the significand is rounded to a double,
then multiplied with or divided by a power of ten that is itself rounded. The result can be one
unit in the last place away from the nearest double; texts of at most fifteen digits with a small
exponent are exact.
-/

namespace FaultPlane.Decimal

/-- The double nearest to a power of ten, for exponents up to 308. -/
def powerOfTen (e : Nat) : Float := Float.ofScientific 1 false e

/-- `significand * 10 ^ exponent` as a double, or nothing if it is too large for one. The
significand has 64 bits. Below `10 ^ -616` every significand underflows to zero. -/
def scaled (significand : Nat) (exponent : Int) : Option Float :=
  let x := (UInt64.ofNat significand).toFloat
  if 0 ≤ exponent then
    if exponent ≤ 308 then
      let y := x * powerOfTen exponent.toNat
      if y.isInf then none else some y
    else if significand = 0 then some 0 else none
  else if -308 ≤ exponent then some (x / powerOfTen (-exponent).toNat)
  else if -616 ≤ exponent then
    some (x / powerOfTen 308 / powerOfTen (-exponent - 308).toNat)
  else some 0

end FaultPlane.Decimal
