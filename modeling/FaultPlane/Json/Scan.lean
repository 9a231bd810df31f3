import FaultPlane.Decimal.Scaled
import FaultPlane.Json.Problem

/-!
# The words of JSON text

Blanks, texts and numbers, taken off the front of a list of characters, and passing over values
whose content does not matter. What is passed over must be well-formed, but its numbers may have
any size and its texts any escapes.
-/

namespace FaultPlane.Json

/-- Takes a value off the front of a text. -/
abbrev Reader (α : Type) := StateT (List Char) (Except Problem) α

/-! ### Blanks and words -/

def isJsonBlank (c : Char) : Bool := c = ' ' || c = '\n' || c = '\t' || c = '\r'

def dropBlanks (cs : List Char) : List Char := cs.dropWhile isJsonBlank

/-- The rest of a word whose first letter decided that it must be this one. -/
def expectWord : List Char → Reader Unit
  | [], cs => pure ((), cs)
  | _ :: _, [] => throw .endInValue
  | w :: ws, c :: cs => if c = w then expectWord ws cs else throw .expectedWord

/-- The colon between a key and its value. -/
def expectColon : Reader Unit := fun cs =>
  match dropBlanks cs with
  | ':' :: cs => pure ((), cs)
  | [] => throw .endInObject
  | _ => throw .expectedColon

/-! ### Texts -/

def hexValue? (c : Char) : Option Nat :=
  if '0' ≤ c && c ≤ '9' then some (c.toNat - 0x30)
  else if 'a' ≤ c && c ≤ 'f' then some (c.toNat - 0x57)
  else if 'A' ≤ c && c ≤ 'F' then some (c.toNat - 0x37)
  else none

/-- The four hexadecimal digits of an escape. A text with fewer than four octets left has ended. -/
def hexFour : Reader Nat := fun cs =>
  match cs with
  | a :: b :: c :: d :: rest =>
    match hexValue? a, hexValue? b, hexValue? c, hexValue? d with
    | some x, some y, some z, some w => pure (((x * 16 + y) * 16 + z) * 16 + w, rest)
    | _, _, _, _ => throw .invalidEscape
  | cs => throw (if (String.ofList cs).utf8ByteSize < 4 then .endInText else .invalidEscape)

/-- The one-letter escapes. -/
def simpleEscape? : Char → Option Char
  | '"' => some '"'
  | '\\' => some '\\'
  | '/' => some '/'
  | 'b' => some '\x08'
  | 'f' => some '\x0c'
  | 'n' => some '\n'
  | 'r' => some '\r'
  | 't' => some '\t'
  | _ => none

/-- The second half of a surrogate pair whose first half was `high`. -/
def lowSurrogate (high : Nat) : Reader Char := fun cs =>
  match cs with
  | '\\' :: 'u' :: cs => do
    let (low, cs) ← hexFour cs
    if 0xDC00 ≤ low ∧ low ≤ 0xDFFF then
      pure (Char.ofNat ((high - 0xD800) * 0x400 + (low - 0xDC00) + 0x10000), cs)
    else throw .loneSurrogate
  | [] | ['\\'] => throw .endInText
  | _ => throw .unexpectedEndOfEscape

/-- The character that an escape stands for, after the backslash. -/
def escape : Reader Char := fun cs =>
  match cs with
  | [] => throw .endInText
  | 'u' :: cs => do
    let (n, cs) ← hexFour cs
    if 0xDC00 ≤ n ∧ n ≤ 0xDFFF then throw .loneSurrogate
    else if 0xD800 ≤ n ∧ n ≤ 0xDBFF then lowSurrogate n cs
    else pure (Char.ofNat n, cs)
  | c :: cs =>
    match simpleEscape? c with
    | some d => pure (d, cs)
    | none => throw .invalidEscape

/-- The next character of a text, or nothing at its closing quote. -/
def textUnit : Reader (Option Char) := fun cs =>
  match cs with
  | [] => throw .endInText
  | '"' :: cs => pure (none, cs)
  | '\\' :: cs => do
    let (c, cs) ← escape cs
    pure (some c, cs)
  | c :: cs => if c.toNat < 0x20 then throw .controlCharacter else pure (some c, cs)

/-- The characters up to the closing quote; each of them takes at least one off the front. -/
def textLoop : Nat → Reader (List Char)
  | 0, _ => throw .endInText
  | fuel + 1, cs => do
    match ← textUnit cs with
    | (none, cs) => pure ([], cs)
    | (some c, cs) =>
      let (ds, cs) ← textLoop fuel cs
      pure (c :: ds, cs)

/-- A text, after its opening quote. -/
def textBody : Reader String := fun cs => do
  let (ds, cs) ← textLoop (cs.length + 1) cs
  pure (String.ofList ds, cs)

/-! ### Numbers -/

/-- A number as it was written: whole, or with a point or an exponent. Whole numbers that 64 bits
cannot hold, and minus zero, are doubles. -/
inductive Number where
  | integer (n : Int)
  | real (x : Float)
  deriving DecidableEq, Repr

/-- Appends digits to a number of 64 bits as long as it fits, and counts the digits it took. -/
def absorb (start : Nat) : List Char → Nat × Nat
  | [] => (start, 0)
  | d :: ds =>
    let next := start * 10 + (d.toNat - 0x30)
    if next < UInt64.size then
      let (n, taken) := absorb next ds
      (n, taken + 1)
    else (start, 0)

/-- The double with a sign, a significand and a power of ten. -/
def signed (negative : Bool) (significand : Nat) (exponent : Int) : Except Problem Number :=
  match Decimal.scaled significand exponent with
  | some x => pure (.real (if negative then -x else x))
  | none => throw .numberTooLarge

/-- The digits of an exponent, after its sign. -/
def exponentDigits (negative : Bool) : Reader Int := fun cs =>
  match cs with
  | [] => throw .endInValue
  | c :: _ =>
    if c.isDigit then
      let n := Decimal.ofDigits 0 (cs.takeWhile Char.isDigit)
      pure (if negative then -(n : Int) else n, cs.dropWhile Char.isDigit)
    else throw .invalidNumber

/-- An exponent, after its letter. -/
def exponentPart : Reader Int := fun cs =>
  match cs with
  | '+' :: cs => exponentDigits false cs
  | '-' :: cs => exponentDigits true cs
  | cs => exponentDigits false cs

/-- A number without point and exponent. -/
def wholeNumber (negative : Bool) (significand : Nat) (dropped : Int) : Except Problem Number :=
  if dropped ≠ 0 then signed negative significand dropped
  else if !negative then pure (.integer significand)
  else if significand = 0 ∨ UInt64.size / 2 < significand then signed true significand 0
  else pure (.integer (-(significand : Int)))

/-- The end of a number after its last digit: an exponent with which it is `scaled`, or none, so
that it is `plain`. -/
def numberEnd (plain : Except Problem Number) (scaled : Int → Except Problem Number) :
    Reader Number := fun cs =>
  match cs with
  | c :: rest =>
    if c = 'e' || c = 'E' then do
      let (exponent, cs) ← exponentPart rest
      pure (← scaled exponent, cs)
    else do pure (← plain, c :: rest)
  | [] => do pure (← plain, [])

/-- A number from its point on; the point is gone already. -/
def fractionPart (negative : Bool) (significand : Nat) (dropped : Int) : Reader Number := fun cs =>
  let digits := cs.takeWhile Char.isDigit
  let after := cs.dropWhile Char.isDigit
  if digits.isEmpty then throw (if after.isEmpty then .endInValue else .invalidNumber)
  else
    let (significand, taken) := absorb significand digits
    let scale := dropped - taken
    numberEnd (signed negative significand scale)
      (fun exponent => signed negative significand (scale + exponent)) after

/-- A number after the digits before its point; `dropped` of them did not fit the significand. -/
def numberRest (negative : Bool) (significand : Nat) (dropped : Int) : Reader Number := fun cs =>
  match cs with
  | '.' :: cs => fractionPart negative significand dropped cs
  | cs => numberEnd (wholeNumber negative significand dropped)
      (fun exponent => signed negative significand (dropped + exponent)) cs

/-- A number, after its minus sign if it is negative. -/
def numberTail (negative : Bool) : Reader Number := fun cs =>
  match cs with
  | [] => throw .endInValue
  | c :: rest =>
    if !c.isDigit then throw .invalidNumber
    else if c = '0' && rest.head?.any Char.isDigit then throw .invalidNumber
    else
      let whole := cs.takeWhile Char.isDigit
      let (significand, taken) := absorb 0 whole
      numberRest negative significand ((whole.length : Int) - taken) (cs.dropWhile Char.isDigit)

/-- A number whose first character is known to be a minus sign or a digit. -/
def number : Reader Number := fun cs =>
  match cs with
  | '-' :: cs => numberTail true cs
  | cs => numberTail false cs

/-! ### Passing over values -/

/-- One character or escape of a text that does not matter; `true` at the closing quote. -/
def skipUnit : Reader Bool := fun cs =>
  match cs with
  | [] => throw .endInText
  | '"' :: cs => pure (true, cs)
  | ['\\'] => throw .endInText
  | '\\' :: 'u' :: cs => do
    let (_, cs) ← hexFour cs
    pure (false, cs)
  | '\\' :: c :: cs => if (simpleEscape? c).isSome then pure (false, cs) else throw .invalidEscape
  | c :: cs => if c.toNat < 0x20 then throw .controlCharacter else pure (false, cs)

def skipTextLoop : Nat → Reader Unit
  | 0, _ => throw .endInText
  | fuel + 1, cs => do
    match ← skipUnit cs with
    | (true, cs) => pure ((), cs)
    | (false, cs) => skipTextLoop fuel cs

/-- Passes over a text, after its opening quote. -/
def skipText : Reader Unit := fun cs => skipTextLoop (cs.length + 1) cs

/-- Passes over an exponent, after its letter. -/
def skipExponent : Reader Unit := fun cs => do
  let cs := match cs with
    | '+' :: cs | '-' :: cs => cs
    | cs => cs
  if cs.head?.any Char.isDigit then pure ((), cs.dropWhile Char.isDigit)
  else throw .invalidNumber

/-- Passes over a number, after its minus sign if it is negative. -/
def skipNumber : Reader Unit := fun cs => do
  match cs with
  | [] => throw .invalidNumber
  | c :: rest =>
    unless c.isDigit do throw .invalidNumber
    if c = '0' && (rest.head?.any Char.isDigit) then throw .invalidNumber
    match cs.dropWhile Char.isDigit with
    | '.' :: cs =>
      if !(cs.head?.any Char.isDigit) then throw .invalidNumber
      match cs.dropWhile Char.isDigit with
      | 'e' :: cs | 'E' :: cs => skipExponent cs
      | cs => pure ((), cs)
    | 'e' :: cs | 'E' :: cs => skipExponent cs
    | cs => pure ((), cs)

mutual

/-- Passes over a value. Every nested call has taken at least one character off the front. -/
def skipValueLoop : Nat → Reader Unit
  | 0, _ => throw .endInValue
  | fuel + 1, cs =>
    match dropBlanks cs with
    | [] => throw .endInValue
    | 'n' :: cs => expectWord ['u', 'l', 'l'] cs
    | 't' :: cs => expectWord ['r', 'u', 'e'] cs
    | 'f' :: cs => expectWord ['a', 'l', 's', 'e'] cs
    | '-' :: cs => skipNumber cs
    | '"' :: cs => skipText cs
    | '[' :: cs =>
      match dropBlanks cs with
      | [] => throw .endInList
      | ']' :: cs => pure ((), cs)
      | cs => skipItems fuel cs
    | '{' :: cs =>
      match dropBlanks cs with
      | [] => throw .endInObject
      | '}' :: cs => pure ((), cs)
      | cs => skipEntries fuel cs
    | c :: cs => if c.isDigit then skipNumber (c :: cs) else throw .expectedValue

/-- Passes over the items of a list up to its closing bracket. -/
def skipItems : Nat → Reader Unit
  | 0, _ => throw .endInValue
  | fuel + 1, cs => do
    let ((), cs) ← skipValueLoop fuel cs
    match dropBlanks cs with
    | [] => throw .endInList
    | ',' :: cs => skipItems fuel cs
    | ']' :: cs => pure ((), cs)
    | _ => throw .expectedCommaOrBracket

/-- Passes over the entries of an object up to its closing brace. -/
def skipEntries : Nat → Reader Unit
  | 0, _ => throw .endInValue
  | fuel + 1, cs => do
    match dropBlanks cs with
    | [] => throw .endInObject
    | '"' :: cs =>
      let ((), cs) ← skipText cs
      let ((), cs) ← expectColon cs
      let ((), cs) ← skipValueLoop fuel cs
      match dropBlanks cs with
      | [] => throw .endInObject
      | ',' :: cs => skipEntries fuel cs
      | '}' :: cs => pure ((), cs)
      | _ => throw .expectedCommaOrBrace
    | _ => throw .keyNotText

end

/-- Passes over a value. -/
def skipValue : Reader Unit := fun cs => skipValueLoop (2 * cs.length + 2) cs

end FaultPlane.Json
