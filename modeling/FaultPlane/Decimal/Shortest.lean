/-!
# The shortest decimal of a binary fraction

A finite positive double is `m * 2 ^ q`, and the reals that round to it form an interval. Of the
grids of multiples of a power of ten, the coarsest one with a point in that interval gives the
decimal with the fewest digits that reads back; of two such points the nearer one is taken, and of
two equally near ones the even one.
-/

namespace FaultPlane.Decimal

/-! ### Doubles as binary fractions -/

/-- A positive double as `m * 2 ^ q`. `narrow` tells that the gap below it is half of the gap
above. -/
structure Binary where
  m : Nat
  q : Int
  narrow : Bool

/-- The number of fractions that doubles with one exponent have. -/
def fractions : Nat := Nat.pow 2 52

/-- The magnitude of a finite double, read off its bits; zero has `m = 0`. -/
def Binary.ofBits (bits : Nat) : Binary :=
  let exponent := bits / fractions % 2048
  let fraction := bits % fractions
  if exponent = 0 then ⟨fraction, -1074, false⟩
  else ⟨fractions + fraction, (exponent : Int) - 1075, fraction = 0 && 1 < exponent⟩

/-! ### Points of a grid -/

/-- The quarters of a unit `2 ^ (q - 2)` and the points of the grid `10 ^ e` over one common
denominator: `quarter` and `point` are the numerators of the two units. -/
structure Scale where
  quarter : Nat
  point : Nat

def Scale.of (q e : Int) : Scale where
  quarter := Nat.pow 2 (q - 2).toNat * Nat.pow 10 (-e).toNat
  point := Nat.pow 2 (2 - q).toNat * Nat.pow 10 e.toNat

/-- Whether the grid point `d` reads back as the double. The ends of the interval belong to it when
`m` is even. -/
def Binary.covers (x : Binary) (s : Scale) (d : Nat) : Bool :=
  let low := (4 * x.m - if x.narrow then 1 else 2) * s.quarter
  let high := (4 * x.m + 2) * s.quarter
  let here := d * s.point
  if x.m % 2 = 0 then low ≤ here && here ≤ high else low < here && here < high

/-- The nearest grid point that reads back as the double, if there is one. -/
def Binary.nearest? (x : Binary) (e : Int) : Option Nat :=
  let s := Scale.of x.q e
  let value := 4 * x.m * s.quarter
  let below := value / s.point
  let above := below + 1
  match x.covers s below && below ≠ 0, x.covers s above with
  | true, true =>
    let down := value - below * s.point
    let up := above * s.point - value
    some (if down < up ∨ (down = up ∧ below % 2 = 0) then below else above)
  | true, false => some below
  | false, true => some above
  | false, false => none

/-! ### The search -/

/-- Tries the grids `10 ^ e`, `10 ^ (e - 1)`, … and answers the first point with its exponent. -/
def Binary.search (x : Binary) : Nat → Int → Nat × Int
  | 0, e => (0, e)
  | fuel + 1, e =>
    match x.nearest? e with
    | some d => (d, e)
    | none => x.search fuel (e - 1)

/-- The digits and the exponent of the shortest decimal. No double needs a grid above `10 ^ 309` or
below `10 ^ -325`. -/
def Binary.shortest (x : Binary) : Nat × Int := x.search 640 309

end FaultPlane.Decimal
