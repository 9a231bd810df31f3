import FaultPlane.Json.Codec

/-!
# Breaches of the fault contract

What can be wrong with a document that a service sends or publishes about its faults.
-/

namespace FaultPlane.Contract

/-- Why a document does not keep the contract. -/
inductive Problem where
  | malformed (cause : Json.Problem)
  | serviceIdMissing
  | faultIdMissing (index : Nat)
  deriving DecidableEq, Repr

def Problem.message : Problem → String
  | .malformed cause => "Deserialization failed: " ++ cause.message
  | .serviceIdMissing => "Leaf contract violation: serviceId is missing"
  | .faultIdMissing index =>
    "Leaf contract violation: fault #" ++ Decimal.ofNat index ++ " has no id"

/-- Reads one document of the contract. -/
def decode {α : Type} (codec : Json.Codec α) (text : String) : Except Problem α :=
  (codec.decode text).mapError .malformed

end FaultPlane.Contract
