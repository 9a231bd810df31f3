import FaultPlane.Text.Quoted
import FaultPlane.Json.Number

/-!
# What can be wrong with a JSON text

Problems of the syntax, and problems of a value that does not have the expected shape. Reading
goes from left to right and reports the first problem it meets.
-/

namespace FaultPlane.Json

/-! ### Causes -/

/-- A value as a message names it. -/
inductive Sight where
  | null
  | bool (b : Bool)
  | integer (n : Int)
  | real (x : Float)
  | text (s : String)
  | sequence
  | map
  | unitVariant
  deriving DecidableEq, Repr

/-- The first thing wrong with a text. -/
inductive Problem where
  | endInValue
  | endInObject
  | endInList
  | endInText
  | expectedValue
  | expectedWord
  | keyNotText
  | expectedColon
  | expectedCommaOrBrace
  | expectedCommaOrBracket
  | trailingComma
  | trailingCharacters
  | invalidEscape
  | unexpectedEndOfEscape
  | loneSurrogate
  | controlCharacter
  | invalidNumber
  | numberTooLarge
  | wrongType (got : Sight) (want : String)
  | wrongInteger (got : Int) (want : String)
  | wrongLength (got : Nat) (want : String) (fields : Nat)
  | missingField (key : String)
  | repeatedField (key : String)
  | unknownVariant (got : String) (known : List String)
  | unfitText (reason : String)
  deriving DecidableEq, Repr

/-- Whether the text is well-formed as far as it was read, so that only the shape is wrong. -/
def Problem.isOfShape : Problem → Bool
  | .wrongType .. | .wrongInteger .. | .wrongLength .. | .missingField _ | .repeatedField _
  | .unknownVariant .. | .unfitText _ => true
  | _ => false

/-! ### Wording -/

/-- A word in back quotes. -/
def ticked (s : String) : String := "`" ++ s ++ "`"

def Sight.message : Sight → String
  | .null => "null"
  | .bool b => "boolean " ++ ticked (if b then "true" else "false")
  | .integer n => "integer " ++ ticked (Decimal.ofInt n)
  | .real x => "floating point " ++ ticked (realText x)
  | .text s => "string " ++ Text.quoted s
  | .sequence => "sequence"
  | .map => "map"
  | .unitVariant => "unit variant"

def Problem.message : Problem → String
  | .endInValue => "EOF while parsing a value"
  | .endInObject => "EOF while parsing an object"
  | .endInList => "EOF while parsing a list"
  | .endInText => "EOF while parsing a string"
  | .expectedValue => "expected value"
  | .expectedWord => "expected ident"
  | .keyNotText => "key must be a string"
  | .expectedColon => "expected `:`"
  | .expectedCommaOrBrace => "expected `,` or `\x7d`"
  | .expectedCommaOrBracket => "expected `,` or `]`"
  | .trailingComma => "trailing comma"
  | .trailingCharacters => "trailing characters"
  | .invalidEscape => "invalid escape"
  | .unexpectedEndOfEscape => "unexpected end of hex escape"
  | .loneSurrogate => "lone leading surrogate in hex escape"
  | .controlCharacter => "control character (\\u0000-\\u001F) found while parsing a string"
  | .invalidNumber => "invalid number"
  | .numberTooLarge => "number out of range"
  | .wrongType got want => "invalid type: " ++ got.message ++ ", expected " ++ want
  | .wrongInteger got want =>
    "invalid value: " ++ (Sight.integer got).message ++ ", expected " ++ want
  | .wrongLength got want fields =>
    "invalid length " ++ Decimal.ofNat got ++ ", expected struct " ++ want ++ " with " ++
      Decimal.ofNat fields ++ (if fields = 1 then " element" else " elements")
  | .missingField key => "missing field " ++ ticked key
  | .repeatedField key => "duplicate field " ++ ticked key
  | .unknownVariant got known =>
    "unknown variant " ++ ticked got ++ ", expected one of " ++
      String.intercalate ", " (known.map ticked)
  | .unfitText reason => reason

end FaultPlane.Json
