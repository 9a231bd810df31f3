import FaultPlane.Catalog.Basic
import FaultPlane.File

/-!
# Reading the catalog

The catalog is read from a document. A control plane that cannot read its catalog goes on with an
empty one.
-/

namespace FaultPlane

/-- Why a file is no catalog. -/
inductive CatalogProblem where
  | unreadable (cause : FileProblem)
  | malformed (cause : Json.Problem)
  deriving DecidableEq, Repr

def CatalogProblem.message (path : String) : CatalogProblem → String
  | .unreadable cause => "Service catalog unavailable at " ++ path ++ ": " ++ cause.message
  | .malformed cause =>
    "Service catalog unavailable at " ++ path ++ ": JSON serialization error: " ++ cause.message

namespace Catalog

/-- The catalog in a document. -/
def ofDocument (text : String) : Except Json.Problem Catalog :=
  (documentCodec.decode text).map fun services => { services := services }

/-- The catalog in a file. -/
def load (entry : FileEntry) : Except CatalogProblem Catalog := do
  let text ← entry.text.mapError .unreadable
  (ofDocument text).mapError .malformed

/-- The catalog in a file, or an empty one. -/
def loadOrEmpty (entry : FileEntry) : Catalog := (load entry).toOption.getD .empty

end Catalog

end FaultPlane
