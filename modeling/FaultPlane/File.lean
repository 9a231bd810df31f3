import FaultPlane.Text.Utf8

/-!
# Text files

What is found at a path, and the text in it.
-/

namespace FaultPlane

/-- What a path leads to. -/
inductive FileEntry where
  | missing
  | directory
  | octets (bytes : List UInt8)
  deriving DecidableEq, Repr

/-- Why there is no text at a path. -/
inductive FileProblem where
  | missing
  | directory
  | notUtf8
  deriving DecidableEq, Repr

def FileProblem.message : FileProblem → String
  | .missing => "No such file or directory (os error 2)"
  | .directory => "Is a directory (os error 21)"
  | .notUtf8 => "stream did not contain valid UTF-8"

/-- The text of a file. -/
def FileEntry.text : FileEntry → Except FileProblem String
  | .missing => throw .missing
  | .directory => throw .directory
  | .octets bytes =>
    match Text.Utf8.decode? bytes with
    | some s => pure s
    | none => throw .notUtf8

end FaultPlane
