/-!
# Blank characters

The white-space characters of Unicode, and trimming and splitting of text by them.
-/

namespace FaultPlane.Text

/-! ### The class -/

/-- The characters that have the Unicode property `White_Space`. -/
def isBlank (c : Char) : Bool :=
  let n := c.toNat
  (9 ≤ n && n ≤ 13) || n == 0x20 || n == 0x85 || n == 0xA0 || n == 0x1680 ||
    (0x2000 ≤ n && n ≤ 0x200A) || n == 0x2028 || n == 0x2029 || n == 0x202F ||
    n == 0x205F || n == 0x3000

/-- A text without a character that is not blank; the empty text is one. -/
def allBlank (s : String) : Bool := s.toList.all isBlank

/-! ### Trimming -/

/-- Drops the characters of a class at both ends. -/
def stripBoth (p : Char → Bool) (cs : List Char) : List Char :=
  ((cs.dropWhile p).reverse.dropWhile p).reverse

/-- Drops the blanks at both ends. -/
def trim (s : String) : String := String.ofList (stripBoth isBlank s.toList)

/-- Drops the characters `c` at the end. -/
def dropTrailing (c : Char) (s : String) : String :=
  String.ofList (s.toList.reverse.dropWhile (· == c)).reverse

/-! ### Splitting -/

/-- The pieces of a text between the characters of a class, empty pieces included. -/
def pieces (p : Char → Bool) (s : String) : List String :=
  (s.toList.splitOnP p).map String.ofList

/-- The longest runs of characters that are not blank. -/
def words (s : String) : List String :=
  (pieces isBlank s).filter (· ≠ "")

/-- The comma-separated items of a text, trimmed, without the empty ones. -/
def commaItems (s : String) : List String :=
  ((pieces (· == ',') s).map trim).filter (· ≠ "")

end FaultPlane.Text
