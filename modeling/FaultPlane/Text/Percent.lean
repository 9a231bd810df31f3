import FaultPlane.Text.Utf8

/-!
# Percent encoding

Decoding of percent-encoded paths and of form-encoded queries. A percent sign that two hexadecimal
digits do not follow stands for itself.
-/

namespace FaultPlane.Text.Percent

/-- The value of a hexadecimal digit, given as an octet. -/
def hexValue? (b : UInt8) : Option UInt8 :=
  if 0x30 ≤ b && b ≤ 0x39 then some (b - 0x30)
  else if 0x41 ≤ b && b ≤ 0x46 then some (b - 0x37)
  else if 0x61 ≤ b && b ≤ 0x66 then some (b - 0x57)
  else none

/-- The octets that percent-encoded octets stand for. -/
def decodeBytes : List UInt8 → List UInt8
  | 0x25 :: a :: b :: rest =>
    match hexValue? a, hexValue? b with
    | some x, some y => (x * 16 + y) :: decodeBytes rest
    | _, _ => 0x25 :: decodeBytes (a :: b :: rest)
  | b :: rest => b :: decodeBytes rest
  | [] => []

/-- A path segment, unless its octets are not UTF-8. -/
def decodeSegment? (s : String) : Option String :=
  Utf8.decode? (decodeBytes (Utf8.encode s))

/-- A name or value of a form: a plus sign is a space, and invalid UTF-8 becomes U+FFFD. -/
def decodeForm (s : String) : String :=
  Utf8.decodeLossy (decodeBytes ((Utf8.encode s).map fun b => if b = 0x2B then 0x20 else b))

/-- The pairs of a form-encoded query: parts between ampersands, empty ones left out, each cut at
its first equals sign. -/
def formPairs (query : String) : List (String × String) :=
  let parts := (query.toList.splitOnP (· == '&')).filter (· ≠ [])
  parts.map fun part =>
    (decodeForm (String.ofList (part.takeWhile (· ≠ '='))),
      decodeForm (String.ofList ((part.dropWhile (· ≠ '=')).drop 1)))

end FaultPlane.Text.Percent
