import FaultPlane.Json.Number

/-!
# JSON values and their compact text

Objects keep their entries in order. Text is written without blanks; characters above ASCII stand
for themselves.
-/

/-- A JSON value. Whole numbers and doubles are different kinds of value. -/
inductive FaultPlane.Json where
  | null
  | bool (b : Bool)
  | integer (n : Int)
  | real (x : Float)
  | text (s : String)
  | list (items : List Json)
  | object (entries : List (String × Json))

namespace FaultPlane.Json

/-! ### Texts -/

/-- One of the sixteen lower-case hexadecimal digits. -/
def hexDigit (n : Nat) : Char := Char.ofNat (if n < 10 then n + 0x30 else n + 0x57)

/-- One character as it stands between quotes. -/
def escapeChar (c : Char) : List Char :=
  if c = '"' then ['\\', '"']
  else if c = '\\' then ['\\', '\\']
  else if c = '\x08' then ['\\', 'b']
  else if c = '\x0c' then ['\\', 'f']
  else if c = '\n' then ['\\', 'n']
  else if c = '\r' then ['\\', 'r']
  else if c = '\t' then ['\\', 't']
  else if c.toNat < 0x20 then ['\\', 'u', '0', '0', hexDigit (c.toNat / 16), hexDigit (c.toNat % 16)]
  else [c]

/-- A text in quotes. -/
def textChars (s : String) : List Char := '"' :: s.toList.flatMap escapeChar ++ ['"']

/-! ### Values -/

mutual

/-- The compact text of a value. -/
def chars : Json → List Char
  | .null => "null".toList
  | .bool b => (if b then "true" else "false").toList
  | .integer n => (Decimal.ofInt n).toList
  | .real x => (realText x).toList
  | .text s => textChars s
  | .list items => '[' :: itemChars items ++ [']']
  | .object entries => '{' :: entryChars entries ++ ['}']

/-- The items of a list, between commas. -/
def itemChars : List Json → List Char
  | [] => []
  | [x] => x.chars
  | x :: y :: items => x.chars ++ ',' :: itemChars (y :: items)

/-- The entries of an object, between commas. -/
def entryChars : List (String × Json) → List Char
  | [] => []
  | [(key, x)] => textChars key ++ ':' :: x.chars
  | (key, x) :: e :: entries => textChars key ++ ':' :: x.chars ++ ',' :: entryChars (e :: entries)

end

/-- The compact text of a value. -/
def compact (x : Json) : String := String.ofList x.chars

end FaultPlane.Json
