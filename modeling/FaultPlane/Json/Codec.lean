import FaultPlane.Json.Scan
import FaultPlane.Json.Value
import FaultPlane.Time.Rfc3339

/-!
# Codecs

A codec reads values of one type off JSON text and writes them as JSON. Reading builds the typed
value while it walks the text, so the first problem met, of syntax or of shape, is the one reported.
-/

namespace FaultPlane.Json

/-- Reading and writing of one type. -/
structure Codec (α : Type) where
  read : Reader α
  write : α → Json

namespace Codec

/-- The value of a whole text, which only blanks may follow. -/
def decode {α : Type} (codec : Codec α) (text : String) : Except Problem α := do
  let (a, rest) ← codec.read text.toList
  if (dropBlanks rest).isEmpty then pure a else throw .trailingCharacters

/-- The value at the front of a text, whatever follows it. -/
def decodeFront {α : Type} (codec : Codec α) (text : String) : Except Problem α :=
  (codec.read text.toList).map (·.1)

/-- The compact text of a value. -/
def encode {α : Type} (codec : Codec α) (a : α) : String := (codec.write a).compact

end Codec

/-! ### Values of the wrong type -/

/-- Refuses the value at the front of a text, which is not what is wanted. Scalars are read to
their end first, so a problem inside them comes before the wrong type. -/
def refuse {α : Type} (want : String) : Reader α := fun cs =>
  match dropBlanks cs with
  | [] => throw .endInValue
  | 'n' :: cs => do
    let _ ← expectWord ['u', 'l', 'l'] cs
    throw (.wrongType .null want)
  | 't' :: cs => do
    let _ ← expectWord ['r', 'u', 'e'] cs
    throw (.wrongType (.bool true) want)
  | 'f' :: cs => do
    let _ ← expectWord ['a', 'l', 's', 'e'] cs
    throw (.wrongType (.bool false) want)
  | '"' :: cs => do
    let (s, _) ← textBody cs
    throw (.wrongType (.text s) want)
  | '[' :: _ => throw (.wrongType .sequence want)
  | '{' :: _ => throw (.wrongType .map want)
  | c :: cs =>
    if c = '-' ∨ c.isDigit then do
      match ← number (c :: cs) with
      | (.integer n, _) => throw (.wrongType (.integer n) want)
      | (.real x, _) => throw (.wrongType (.real x) want)
    else throw .expectedValue

/-! ### Scalars -/

/-- A text, or a refusal that names what is wanted. -/
def readText (want : String) : Reader String := fun cs =>
  match dropBlanks cs with
  | '"' :: cs => textBody cs
  | _ => refuse want cs

def readBool : Reader Bool := fun cs =>
  match dropBlanks cs with
  | 't' :: cs => do
    let (_, cs) ← expectWord ['r', 'u', 'e'] cs
    pure (true, cs)
  | 'f' :: cs => do
    let (_, cs) ← expectWord ['a', 'l', 's', 'e'] cs
    pure (false, cs)
  | _ => refuse "a boolean" cs

/-- A number, or a refusal that names what is wanted. -/
def readNumber (want : String) : Reader Number := fun cs =>
  match dropBlanks cs with
  | c :: rest => if c = '-' ∨ c.isDigit then number (c :: rest) else refuse want cs
  | [] => refuse want cs

/-- A whole number within bounds. -/
def readInteger (low high : Int) (want : String) : Reader Int := fun cs => do
  match ← readNumber want cs with
  | (.integer n, cs) =>
    if low ≤ n ∧ n ≤ high then pure (n, cs) else throw (.wrongInteger n want)
  | (.real x, _) => throw (.wrongType (.real x) want)

/-- A number as a double; whole numbers are rounded. -/
def readReal : Reader Float := fun cs => do
  match ← readNumber "f64" cs with
  | (.integer n, cs) =>
    let x := (UInt64.ofNat n.natAbs).toFloat
    pure (if n < 0 then -x else x, cs)
  | (.real x, cs) => pure (x, cs)

/-- A timestamp. -/
def readInstant : Reader Time.Instant := fun cs => do
  let (s, cs) ← readText "an RFC 3339 formatted date and time string" cs
  match Time.Instant.ofRfc3339 s with
  | .ok t => pure (t, cs)
  | .error e => throw (.unfitText e.message)

namespace Codec

def text : Codec String := ⟨readText "a string", .text⟩

def path : Codec String := ⟨readText "path string", .text⟩

def bool : Codec Bool := ⟨readBool, .bool⟩

def real : Codec Float := ⟨readReal, .real⟩

def instant : Codec Time.Instant := ⟨readInstant, fun t => .text t.rfc3339⟩

def int64 : Codec Int64 where
  read cs := do
    let (n, cs) ← readInteger Int64.minValue.toInt Int64.maxValue.toInt "i64" cs
    pure (Int64.ofInt n, cs)
  write n := .integer n.toInt

def int32 : Codec Int32 where
  read cs := do
    let (n, cs) ← readInteger Int32.minValue.toInt Int32.maxValue.toInt "i32" cs
    pure (Int32.ofInt n, cs)
  write n := .integer n.toInt

/-- Numbers without sign, of 64 bits; `want` is their name in refusals. -/
def unsigned64 (want : String) : Codec UInt64 where
  read cs := do
    let (n, cs) ← readInteger 0 (UInt64.size - 1 : Nat) want cs
    pure (UInt64.ofNat n.toNat, cs)
  write n := .integer n.toNat

def uint64 : Codec UInt64 := unsigned64 "u64"

/-- Numbers of things. -/
def count : Codec UInt64 := unsigned64 "usize"

def uint16 : Codec UInt16 where
  read cs := do
    let (n, cs) ← readInteger 0 (UInt16.size - 1 : Nat) "u16" cs
    pure (UInt16.ofNat n.toNat, cs)
  write n := .integer n.toNat

/-! ### Options -/

/-- A value or `null`. -/
def option {α : Type} (codec : Codec α) : Codec (Option α) where
  read cs :=
    match dropBlanks cs with
    | 'n' :: cs => do
      let (_, cs) ← expectWord ['u', 'l', 'l'] cs
      pure (none, cs)
    | _ => do
      let (a, cs) ← codec.read cs
      pure (some a, cs)
  write
    | none => .null
    | some a => codec.write a

end Codec

/-! ### Lists -/

/-- Moves to the next item of a list: nothing at the closing bracket, which stays. -/
def nextItem (first : Bool) : Reader Bool := fun cs =>
  match dropBlanks cs with
  | [] => throw .endInList
  | ']' :: cs => pure (false, ']' :: cs)
  | c :: cs =>
    if first then pure (true, c :: cs)
    else if c = ',' then
      match dropBlanks cs with
      | [] => throw .endInValue
      | ']' :: _ => throw .trailingComma
      | cs => pure (true, cs)
    else throw .expectedCommaOrBracket

/-- The closing bracket of a list whose items have all been read. -/
def endList : Reader Unit := fun cs =>
  match dropBlanks cs with
  | [] => throw .endInList
  | ']' :: cs => pure ((), cs)
  | ',' :: cs =>
    match dropBlanks cs with
    | ']' :: _ => throw .trailingComma
    | _ => throw .trailingCharacters
  | _ => throw .trailingCharacters

/-- The items up to the closing bracket; each takes at least one character off the front. -/
def readItems {α : Type} (item : Reader α) : Nat → Bool → Reader (List α)
  | 0, _, _ => throw .endInList
  | fuel + 1, first, cs => do
    match ← nextItem first cs with
    | (false, cs) => pure ([], cs)
    | (true, cs) =>
      let (a, cs) ← item cs
      let (as, cs) ← readItems item fuel false cs
      pure (a :: as, cs)

/-- A list of items. -/
def readList {α : Type} (item : Reader α) : Reader (List α) := fun cs =>
  match dropBlanks cs with
  | '[' :: cs => do
    let (as, cs) ← readItems item (cs.length + 1) true cs
    let (_, cs) ← endList cs
    pure (as, cs)
  | _ => refuse "a sequence" cs

namespace Codec

def list {α : Type} (codec : Codec α) : Codec (List α) where
  read := readList codec.read
  write as := .list (as.map codec.write)

/-- A list for which `null` stands too, when it is empty. -/
def listOrNull {α : Type} (codec : Codec α) : Codec (List α) where
  read cs := do
    let (as, cs) ← (option (list codec)).read cs
    pure (as.getD [], cs)
  write := (list codec).write

end Codec

/-! ### Objects -/

/-- Moves to the next key of an object and past its opening quote: nothing at the closing brace,
which stays. -/
def nextKey (first : Bool) : Reader Bool := fun cs =>
  match dropBlanks cs with
  | [] => throw .endInObject
  | '}' :: cs => pure (false, '}' :: cs)
  | c :: cs =>
    if first then
      if c = '"' then pure (true, cs) else throw .keyNotText
    else if c = ',' then
      match dropBlanks cs with
      | [] => throw .endInValue
      | '"' :: cs => pure (true, cs)
      | '}' :: _ => throw .trailingComma
      | _ => throw .keyNotText
    else throw .expectedCommaOrBrace

/-- The closing brace of an object whose entries have all been read. -/
def endObject : Reader Unit := fun cs =>
  match dropBlanks cs with
  | [] => throw .endInObject
  | '}' :: cs => pure ((), cs)
  | ',' :: _ => throw .trailingComma
  | _ => throw .trailingCharacters

/-- Folds over the entries up to the closing brace: `entry key state` reads one entry after its
key. Each entry takes at least one character off the front. -/
def foldEntries {σ : Type} (entry : String → σ → Reader σ) : Nat → Bool → σ → Reader σ
  | 0, _, _, _ => throw .endInObject
  | fuel + 1, first, state, cs => do
    match ← nextKey first cs with
    | (false, cs) => pure (state, cs)
    | (true, cs) =>
      let (key, cs) ← textBody cs
      let (state, cs) ← entry key state cs
      foldEntries entry fuel false state cs

end FaultPlane.Json
