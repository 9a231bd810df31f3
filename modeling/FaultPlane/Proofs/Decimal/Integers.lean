import FaultPlane.Proofs.Decimal.Digits

/-!
# Texts of integers

A number is read from decimal digits, of which there is at least one, with a sign in front or none.
The readers take just these texts (`nat?_eq_some`, `int?_eq_some`), and of those with a given width
just the ones whose number has it (`int64?_eq_some`, `uint64?_eq_some`). A number that is written in digits is read as
that number again.
-/

namespace FaultPlane.Decimal

/-! ### Numerals -/

/-- A number as a text of decimal digits, of which there is at least one. -/
def IsNumeral (ds : List Char) (n : Nat) : Prop :=
  ds ≠ [] ∧ (∀ d ∈ ds, d.isDigit = true) ∧ Nat.ofDigitChars 10 ds 0 = n

/-- An integer as a numeral with a sign in front or none. -/
inductive Denotes : List Char → Int → Prop where
  | unsigned {ds : List Char} {n : Nat} (numeral : IsNumeral ds n) : Denotes ds n
  | plus {ds : List Char} {n : Nat} (numeral : IsNumeral ds n) : Denotes ('+' :: ds) n
  | minus {ds : List Char} {n : Nat} (numeral : IsNumeral ds n) : Denotes ('-' :: ds) (-n)

/-- A number as a numeral with a plus sign in front or none. -/
def DenotesNat (cs : List Char) (n : Nat) : Prop :=
  ∃ ds, IsNumeral ds n ∧ (cs = ds ∨ cs = '+' :: ds)

theorem isNumeral_toDigits (n : Nat) : IsNumeral (Nat.toDigits 10 n) n := by
  refine ⟨Nat.toDigits_ne_nil, fun d inside => isDigit_of_mem_toDigits inside, ?_⟩
  rw [← ofDigits_eq_ofDigitChars, ofDigits_toDigits]

/-- No numeral starts with a sign. -/
theorem IsNumeral.head_ne {c : Char} {cs : List Char} {n : Nat} (h : IsNumeral (c :: cs) n)
    {sign : Char} (hsign : sign.isDigit = false) : c ≠ sign := by
  rintro rfl
  exact Bool.false_ne_true (hsign.symm.trans (h.2.1 c List.mem_cons_self))

/-- A text that denotes a number starts with a sign or a digit. -/
theorem Denotes.head {cs : List Char} {z : Int} (h : Denotes cs z) :
    ∃ c rest, cs = c :: rest ∧ (c = '+' ∨ c = '-' ∨ c.isDigit = true) := by
  cases h with
  | unsigned numeral =>
    obtain ⟨c, rest, rfl⟩ := List.exists_cons_of_ne_nil numeral.1
    exact ⟨c, rest, rfl, .inr (.inr (numeral.2.1 c List.mem_cons_self))⟩
  | plus numeral => exact ⟨'+', _, rfl, .inl rfl⟩
  | minus numeral => exact ⟨'-', _, rfl, .inr (.inl rfl)⟩

theorem toLower_of_isDigit {c : Char} (h : c.isDigit = true) : c.toLower = c := by
  obtain ⟨-, below⟩ := Char.isDigit_iff_toNat.1 h
  have hnine : '9'.toNat = 57 := rfl
  have hcapital : 'A'.val.toNat = 65 := rfl
  have hc : c.val.toNat = c.toNat := rfl
  refine dif_neg ?_
  rintro ⟨capital, -⟩
  have above := UInt32.le_iff_toNat_le.1 capital
  omega

/-! ### Reading -/

theorem digits?_eq_some {cs : List Char} {n : Nat} : digits? cs = some n ↔ IsNumeral cs n := by
  unfold digits? IsNumeral
  rw [ofDigits_eq_ofDigitChars]
  split
  · next refused =>
    refine iff_of_false (by simp) ?_
    rintro ⟨filled, digits, -⟩
    simp [filled] at refused
    obtain ⟨d, inside, hd⟩ := refused
    exact Bool.false_ne_true (hd.symm.trans (digits d inside))
  · next taken =>
    simp only [Bool.or_eq_true, List.isEmpty_iff, Bool.not_eq_true', not_or,
      Bool.not_eq_false, List.all_eq_true] at taken
    simp [taken.1]
    exact fun _ => taken.2

theorem nat?_eq_some {s : String} {n : Nat} : nat? s = some n ↔ DenotesNat s.toList n := by
  unfold nat? DenotesNat
  split
  · next cs hs =>
    rw [digits?_eq_some, hs]
    constructor
    · exact fun numeral => ⟨cs, numeral, .inr rfl⟩
    · rintro ⟨ds, numeral, same | same⟩
      · subst same
        exact absurd rfl (numeral.head_ne rfl)
      · cases same
        exact numeral
  · next plain =>
    rw [digits?_eq_some]
    constructor
    · exact fun numeral => ⟨s.toList, numeral, .inl rfl⟩
    · rintro ⟨ds, numeral, same | same⟩
      · exact same ▸ numeral
      · exact absurd same (plain ds)

theorem int?_eq_some {s : String} {z : Int} : int? s = some z ↔ Denotes s.toList z := by
  unfold int?
  split
  · next cs hs =>
    have hmap : (do
        let n ← digits? cs
        pure (n : Int)).map (fun n => -n) = (digits? cs).map fun n : Nat => -(n : Int) := by
      cases digits? cs <;> rfl
    rw [hmap, Option.map_eq_some_iff, hs]
    constructor
    · rintro ⟨n, hn, rfl⟩
      exact .minus (digits?_eq_some.1 hn)
    · intro h
      generalize hcs : '-' :: cs = text at h
      cases h with
      | unsigned numeral =>
        subst hcs
        exact absurd rfl (numeral.head_ne rfl)
      | plus numeral => cases hcs
      | @minus ds n numeral =>
        cases hcs
        exact ⟨n, digits?_eq_some.2 numeral, rfl⟩
  · next unmarked =>
    rw [Option.map_eq_some_iff]
    constructor
    · rintro ⟨n, hn, rfl⟩
      obtain ⟨ds, numeral, same | same⟩ := nat?_eq_some.1 hn
      · exact same ▸ .unsigned numeral
      · exact same ▸ .plus numeral
    · intro h
      generalize hs : s.toList = text at h
      cases h with
      | unsigned numeral => exact ⟨_, nat?_eq_some.2 ⟨text, numeral, .inl hs⟩, rfl⟩
      | plus numeral => exact ⟨_, nat?_eq_some.2 ⟨_, numeral, .inr hs⟩, rfl⟩
      | minus numeral => exact absurd hs (unmarked _)

theorem int64?_eq_some {s : String} {n : Int64} : int64? s = some n ↔ Denotes s.toList n.toInt := by
  have hmax : Int64.maxValue.toInt = 2 ^ 63 - 1 := rfl
  rw [int64?, Option.bind_eq_some_iff, ← int?_eq_some]
  constructor
  · rintro ⟨z, hz, hfits⟩
    split at hfits
    · next inside =>
      cases hfits
      rw [Int64.toInt_ofInt_of_le inside.1 (by omega)]
      exact hz
    · cases hfits
  · intro hn
    refine ⟨n.toInt, hn, ?_⟩
    rw [if_pos ⟨Int64.minValue_le_toInt n, Int64.toInt_le n⟩, Int64.ofInt_toInt]

theorem uint64?_eq_some {s : String} {n : UInt64} :
    uint64? s = some n ↔ DenotesNat s.toList n.toNat := by
  rw [uint64?, Option.bind_eq_some_iff, ← nat?_eq_some]
  constructor
  · rintro ⟨m, hm, hfits⟩
    split at hfits
    · next inside =>
      cases hfits
      rw [UInt64.toNat_ofNat_of_lt' inside]
      exact hm
    · cases hfits
  · intro hn
    exact ⟨n.toNat, hn, by rw [if_pos n.toNat_lt_size, UInt64.ofNat_toNat]⟩

theorem uint16?_eq_some {s : String} {n : UInt16} :
    uint16? s = some n ↔ DenotesNat s.toList n.toNat := by
  rw [uint16?, Option.bind_eq_some_iff, ← nat?_eq_some]
  constructor
  · rintro ⟨m, hm, hfits⟩
    split at hfits
    · next inside =>
      cases hfits
      rw [UInt16.toNat_ofNat_of_lt' inside]
      exact hm
    · cases hfits
  · intro hn
    exact ⟨n.toNat, hn, by rw [if_pos n.toNat_lt_size, UInt16.ofNat_toNat]⟩

/-! ### Reading what was written -/

theorem nat?_ofNat (n : Nat) : nat? (ofNat n) = some n :=
  nat?_eq_some.2 ⟨Nat.toDigits 10 n, isNumeral_toDigits n, .inl (String.toList_ofList ..)⟩

theorem int?_ofInt (z : Int) : int? (ofInt z) = some z := by
  rw [int?_eq_some]
  rcases Int.lt_or_le z 0 with negative | nonneg
  · rw [toList_ofInt_of_neg negative]
    have hz : z = -(z.natAbs : Int) := by omega
    rw [hz, Int.natAbs_neg, Int.natAbs_natCast]
    exact .minus (isNumeral_toDigits z.natAbs)
  · rw [toList_ofInt nonneg]
    have hz : z = (z.toNat : Int) := by omega
    rw [hz, Int.toNat_natCast]
    exact .unsigned (isNumeral_toDigits z.toNat)

theorem uint64?_ofNat (n : UInt64) : uint64? (ofNat n.toNat) = some n :=
  uint64?_eq_some.2 (nat?_eq_some.1 (nat?_ofNat n.toNat))

theorem uint16?_ofNat (n : UInt16) : uint16? (ofNat n.toNat) = some n :=
  uint16?_eq_some.2 (nat?_eq_some.1 (nat?_ofNat n.toNat))

end FaultPlane.Decimal
