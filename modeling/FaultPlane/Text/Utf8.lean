/-!
# Reading UTF-8

An automaton over octets that gives one answer per character: the character, or nothing for a
longest invalid part. Strict reading refuses a text with an invalid part, lossy reading puts
U+FFFD in its place.
-/

namespace FaultPlane.Text.Utf8

/-! ### The automaton -/

/-- Where the automaton stands: between characters, or inside one with the bits read so far, the
range of the next octet and the number of octets owed after that one. -/
inductive State where
  | between
  | inside (bits low high owed : Nat)

/-- What an octet does between characters: it is a character, opens one, or is invalid. -/
def begin (b : Nat) : List (Option Char) × State :=
  if b < 0x80 then ([some (Char.ofNat b)], .between)
  else if b < 0xC2 then ([none], .between)
  else if b < 0xE0 then ([], .inside (b - 0xC0) 0x80 0xBF 0)
  else if b = 0xE0 then ([], .inside 0 0xA0 0xBF 1)
  else if b = 0xED then ([], .inside 0xD 0x80 0x9F 1)
  else if b < 0xF0 then ([], .inside (b - 0xE0) 0x80 0xBF 1)
  else if b = 0xF0 then ([], .inside 0 0x90 0xBF 2)
  else if b < 0xF4 then ([], .inside (b - 0xF0) 0x80 0xBF 2)
  else if b = 0xF4 then ([], .inside 4 0x80 0x8F 2)
  else ([none], .between)

/-- Runs the automaton to the end of the octets. An octet that cannot go on ends the invalid part
before it and is looked at afresh. -/
def run : State → List UInt8 → List (Option Char)
  | .between, [] => []
  | .inside .., [] => [none]
  | .between, b :: bs =>
    let (found, next) := begin b.toNat
    found ++ run next bs
  | .inside bits low high owed, b :: bs =>
    if low ≤ b.toNat && b.toNat ≤ high then
      let bits := bits * 64 + b.toNat % 64
      match owed with
      | 0 => some (Char.ofNat bits) :: run .between bs
      | owed + 1 => run (.inside bits 0x80 0xBF owed) bs
    else
      let (found, next) := begin b.toNat
      none :: (found ++ run next bs)

/-! ### Reading and writing -/

/-- The text, unless some part of the octets is invalid. -/
def decode? (bytes : List UInt8) : Option String :=
  ((run .between bytes).mapM id).map String.ofList

/-- The text with U+FFFD for each invalid part. -/
def decodeLossy (bytes : List UInt8) : String :=
  String.ofList ((run .between bytes).map (·.getD '\uFFFD'))

/-- The octets of a text. -/
def encode (s : String) : List UInt8 := s.toList.flatMap String.utf8EncodeChar

end FaultPlane.Text.Utf8
