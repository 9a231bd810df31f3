import FaultPlane.Injection.Injector
import FaultPlane.Proofs.Decimal.Digits
import FaultPlane.Proofs.Text.Trimming

/-!
# The number at the end of a record id

A record id is `PREFIX-FRAGMENT-NUMBER`, and the fragment comes from a request: it may hold dashes
and digits, so the prefix of one kind and the fragment of another may run into each other. The
number is what stands after the last dash, whatever the fragment is (`idNumber_recordId`), and it
is the number that the clock issued. An id neither starts nor ends with a blank
(`unpadded_recordId`).
-/

namespace FaultPlane

namespace Injection

/-! ### Ids -/

/-- The number after the last dash of an id. -/
def idNumber (id : String) : Int :=
  Decimal.ofDigits 0 (id.toList.reverse.takeWhile (· ≠ '-')).reverse

/-- An id ends in the number it was made with, whatever its fragment is. -/
theorem idNumber_recordId (kind : FaultKind) (fragment : String) {n : Int} (hn : 0 ≤ n) :
    idNumber (recordId kind fragment n) = n := by
  have hlist : (recordId kind fragment n).toList =
      (kind.idPrefix ++ "-" ++ fragment).toList ++ '-' :: Nat.toDigits 10 n.toNat := by
    simp [recordId, Decimal.toList_ofInt hn]
  have hdigits : ∀ c ∈ (Nat.toDigits 10 n.toNat).reverse, decide (c ≠ '-') = true := by
    intro c hc
    have hdash := Decimal.not_mem_toDigits (c := '-') (by decide) n.toNat
    refine decide_eq_true ?_
    rintro rfl
    exact hdash (List.mem_reverse.1 hc)
  have htail : (recordId kind fragment n).toList.reverse.takeWhile (· ≠ '-') =
      (Nat.toDigits 10 n.toNat).reverse := by
    rw [hlist, List.reverse_append, List.reverse_cons, List.append_assoc,
      List.takeWhile_append_of_pos hdigits]
    simp
  rw [idNumber, htail, List.reverse_reverse, Decimal.ofDigits_toDigits]
  exact Int.toNat_of_nonneg hn

/-- An id starts with a letter and ends with a digit, whatever its fragment is. -/
theorem unpadded_recordId (kind : FaultKind) (fragment : String) (n : Int) :
    Text.Unpadded (recordId kind fragment n) := by
  obtain ⟨sign, ds, hnumber, hne, hdigits⟩ := Decimal.ofInt_ends n
  constructor
  · intro c inside
    rw [recordId, String.append_assoc, String.append_assoc, String.append_assoc,
      String.toList_append] at inside
    cases kind <;> cases inside <;> rfl
  · intro c inside
    rw [recordId, String.toList_append, hnumber, ← List.append_assoc,
      List.getLast?_append_of_ne_nil _ hne] at inside
    exact Text.isBlank_of_isDigit (hdigits c (List.mem_of_getLast? inside))

end Injection

end FaultPlane
