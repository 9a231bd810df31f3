/-!
# Occurrences of one text inside another

Searching, replacing and cutting off a text, on lists of characters.
-/

namespace FaultPlane.Text

/-- The characters after a leading `pat`, if the text starts with it. -/
def afterPrefix? : List Char → List Char → Option (List Char)
  | [], cs => some cs
  | _ :: _, [] => none
  | p :: pat, c :: cs => if p = c then afterPrefix? pat cs else none

/-- Whether `pat` occurs somewhere in the text. -/
def occurs (pat : List Char) : List Char → Bool
  | [] => pat.isEmpty
  | c :: cs => pat.isPrefixOf (c :: cs) || occurs pat cs

/-- Deletes the occurrences of `pat`, taken from the left and without overlap. `skip` counts the
characters of the present occurrence that are still to be passed over. -/
def deleteFrom (pat : List Char) : Nat → List Char → List Char
  | _, [] => []
  | skip + 1, _ :: cs => deleteFrom pat skip cs
  | 0, c :: cs =>
    if pat.isPrefixOf (c :: cs) then deleteFrom pat (pat.length - 1) cs
    else c :: deleteFrom pat 0 cs

/-- The text without any occurrence of `pat`, which must not be empty. -/
def deleteAll (pat s : String) : String :=
  String.ofList (deleteFrom pat.toList 0 s.toList)

/-- Whether the text starts with `pat`. -/
def startsWith (pat s : String) : Bool := pat.toList.isPrefixOf s.toList

/-- The text without a leading `pat`; a text that does not start with it stays as it is. -/
def dropLeading (pat s : String) : String :=
  match afterPrefix? pat.toList s.toList with
  | some rest => String.ofList rest
  | none => s

/-! ### Letter case of ASCII -/

/-- Lower-cases the letters A to Z and keeps all else. -/
def asciiLower (s : String) : String := String.ofList (s.toList.map Char.toLower)

/-- Whether a text contains `pat`, a text of lower-case ASCII letters and blanks that holds neither
`i` nor `k`, once its letters are lower-cased. No letter outside A to Z has a lower-case form with
one of those letters in it, so lower-casing A to Z is enough. -/
def containsIgnoringCase (pat s : String) : Bool :=
  occurs pat.toList (asciiLower s).toList

end FaultPlane.Text
