import FaultPlane.Decimal.Integer
import Mathlib.Data.Nat.Digits.Defs

/-!
# Digits of numbers

What is written as the digits of a number is read as that number (`ofDigits_toDigits`), also behind
zeros that fill it up to a width (`ofDigits_padded`). No number but zero starts with a zero
(`toDigits_eq_zero_cons`), and the digits of a number that has few enough of them fill a width
exactly (`length_padded`). What follows a run of digits, and does not start with one, is no part of
it (`takeWhile_append_of_end`).
-/

namespace FaultPlane.Decimal

/-! ### Numbers of digits -/

theorem ofDigits_eq_ofDigitChars (start : Nat) (ds : List Char) :
    ofDigits start ds = Nat.ofDigitChars 10 ds start := by
  rw [ofDigits, Nat.ofDigitChars_eq_foldl]
  congr 1
  funext n d
  rw [Nat.mul_comm]

theorem ofDigits_toDigits (n : Nat) : ofDigits 0 (Nat.toDigits 10 n) = n := by
  rw [ofDigits_eq_ofDigitChars]
  exact Nat.ofDigitChars_ten_toDigits

@[simp] theorem ofDigits_nil (start : Nat) : ofDigits start [] = start := rfl

@[simp] theorem ofDigits_cons (start : Nat) (d : Char) (ds : List Char) :
    ofDigits start (d :: ds) = ofDigits (start * 10 + (d.toNat - '0'.toNat)) ds :=
  List.foldl_cons ..

/-- Digits that follow never make the number smaller. -/
theorem le_ofDigits (start : Nat) (ds : List Char) : start ≤ ofDigits start ds := by
  induction ds generalizing start with
  | nil => exact Nat.le_refl start
  | cons d ds ih =>
    have hnext := ih (start * 10 + (d.toNat - '0'.toNat))
    rw [ofDigits_cons]
    omega

theorem ofDigits_replicate_zero (width : Nat) (ds : List Char) :
    ofDigits 0 (List.replicate width '0' ++ ds) = ofDigits 0 ds := by
  induction width with
  | zero => rfl
  | succ width ih => rw [List.replicate_succ, List.cons_append, ofDigits_cons, Nat.sub_self, ih]

theorem sub_zero_lt_of_isDigit {d : Char} (h : d.isDigit = true) : d.toNat - '0'.toNat < 10 := by
  have hzero : '0'.toNat = 48 := rfl
  have hbounds : 48 ≤ d.toNat ∧ d.toNat ≤ 57 := by
    rw [Char.isDigit, Bool.and_eq_true, decide_eq_true_eq, decide_eq_true_eq] at h
    exact h
  omega

/-- A number of `width` digits lies below the power of ten with `width` zeros. -/
theorem ofDigits_lt {ds : List Char} (digits : ∀ d ∈ ds, d.isDigit = true) (start : Nat) :
    ofDigits start ds < (start + 1) * 10 ^ ds.length := by
  induction ds generalizing start with
  | nil => simp
  | cons d ds ih =>
    have hdigit := sub_zero_lt_of_isDigit (digits d List.mem_cons_self)
    have hrest := ih (fun d h => digits d (List.mem_cons_of_mem _ h))
      (start * 10 + (d.toNat - '0'.toNat))
    have hstep : (start * 10 + (d.toNat - '0'.toNat) + 1) * 10 ^ ds.length ≤
        (start + 1) * 10 * 10 ^ ds.length := Nat.mul_le_mul_right _ (by omega)
    rw [ofDigits_cons, List.length_cons, Nat.pow_succ', ← Nat.mul_assoc]
    exact Nat.lt_of_lt_of_le hrest hstep

/-! ### Digits of numbers -/

theorem not_mem_toDigits {c : Char} (hc : c.isDigit = false) (n : Nat) :
    c ∉ Nat.toDigits 10 n := by
  intro h
  have hd := Nat.isDigit_of_mem_toDigits (by decide) (by decide) h
  rw [hc] at hd
  cases hd

theorem isDigit_of_mem_toDigits {n : Nat} {c : Char} (h : c ∈ Nat.toDigits 10 n) :
    c.isDigit = true :=
  Nat.isDigit_of_mem_toDigits (by decide) (by decide) h

/-- The first digit of a positive number is not zero. -/
theorem head_toDigits_ne {n : Nat} (hn : 0 < n) : (Nat.toDigits 10 n).head? ≠ some '0' := by
  induction n using Nat.strongRecOn with
  | ind n ih =>
    by_cases h : n < 10
    · rw [Nat.toDigits_of_lt_base h]
      have hdigits : ∀ n < 10, 0 < n → [Nat.digitChar n].head? ≠ some '0' := by decide
      exact hdigits n h hn
    · rw [Nat.toDigits_of_base_le (by decide) (by omega), List.head?_append]
      have hfront := ih (n / 10) (by omega) (by omega)
      cases hdigits : Nat.toDigits 10 (n / 10) with
      | nil => exact absurd hdigits Nat.toDigits_ne_nil
      | cons d ds =>
        rw [hdigits] at hfront
        exact hfront

/-- Only the digits of zero start with a zero, and nothing follows it there. -/
theorem toDigits_eq_zero_cons {n : Nat} {ds : List Char} (h : Nat.toDigits 10 n = '0' :: ds) :
    ds = [] := by
  rcases Nat.eq_zero_or_pos n with rfl | hn
  · rw [Nat.toDigits_zero] at h
    exact (List.cons.inj h).2.symm
  · exact absurd (congrArg List.head? h) (head_toDigits_ne hn)

theorem toList_ofInt {z : Int} (hz : 0 ≤ z) : (ofInt z).toList = Nat.toDigits 10 z.toNat := by
  cases z with
  | ofNat n => simp [ofInt, ofNat]
  | negSucc n => exact absurd hz (Int.not_le.2 (Int.negSucc_lt_zero n))

theorem toList_ofInt_of_neg {z : Int} (hz : z < 0) :
    (ofInt z).toList = '-' :: Nat.toDigits 10 z.natAbs := by
  cases z with
  | ofNat n => exact absurd hz (Int.not_lt.2 (Int.natCast_nonneg n))
  | negSucc n => simp [ofInt, ofNat]

/-- The text of a number ends in digits. -/
theorem ofInt_ends (z : Int) :
    ∃ sign ds, (ofInt z).toList = sign ++ ds ∧ ds ≠ [] ∧ ∀ d ∈ ds, d.isDigit = true := by
  rcases Int.lt_or_le z 0 with negative | nonneg
  · exact ⟨['-'], Nat.toDigits 10 z.natAbs, toList_ofInt_of_neg negative, Nat.toDigits_ne_nil,
      fun d inside => isDigit_of_mem_toDigits inside⟩
  · exact ⟨[], Nat.toDigits 10 z.toNat, toList_ofInt nonneg, Nat.toDigits_ne_nil,
      fun d inside => isDigit_of_mem_toDigits inside⟩

/-! ### Digits of a fixed width -/

theorem toList_padded (width n : Nat) : (padded width n).toList =
    List.replicate (width - (Nat.toDigits 10 n).length) '0' ++ Nat.toDigits 10 n := by
  rw [padded, String.toList_ofList, List.leftpad]

theorem isDigit_of_mem_padded {width n : Nat} {c : Char} (h : c ∈ (padded width n).toList) :
    c.isDigit = true := by
  rw [toList_padded, List.mem_append] at h
  rcases h with filler | digit
  · rw [(List.mem_replicate.1 filler).2]
    rfl
  · exact isDigit_of_mem_toDigits digit

theorem ofDigits_padded (width n : Nat) : ofDigits 0 (padded width n).toList = n := by
  rw [toList_padded, ofDigits_replicate_zero, ofDigits_toDigits]

theorem length_padded {width n : Nat} (positive : 0 < width) (h : n < 10 ^ width) :
    (padded width n).toList.length = width := by
  have hdigits := Nat.toDigits_length 10 n width positive h
  rw [toList_padded, List.length_append, List.length_replicate]
  omega

theorem padded_ne_nil (width n : Nat) : (padded width n).toList ≠ [] := by
  rw [toList_padded]
  exact List.append_ne_nil_of_right_ne_nil _ Nat.toDigits_ne_nil

/-! ### Where digits end -/

section

variable {rest : List Char} (ends : rest.head?.any Char.isDigit = false)

include ends

theorem takeWhile_of_end : rest.takeWhile Char.isDigit = [] := by
  cases rest with
  | nil => rfl
  | cons c rest => exact List.takeWhile_cons_of_neg (by simpa using ends)

theorem takeWhile_append_of_end (cs : List Char) :
    (cs ++ rest).takeWhile Char.isDigit = cs.takeWhile Char.isDigit := by
  induction cs with
  | nil => exact takeWhile_of_end ends
  | cons c cs ih => simp only [List.cons_append, List.takeWhile_cons, ih]

theorem dropWhile_append_of_end (cs : List Char) :
    (cs ++ rest).dropWhile Char.isDigit = cs.dropWhile Char.isDigit ++ rest := by
  have hfront := List.takeWhile_append_dropWhile (p := Char.isDigit) (l := cs)
  have hall := List.takeWhile_append_dropWhile (p := Char.isDigit) (l := cs ++ rest)
  rw [takeWhile_append_of_end ends] at hall
  refine List.append_cancel_left (hall.trans ?_)
  rw [← List.append_assoc, hfront]

end

end FaultPlane.Decimal
