import FaultPlane.Json.Scan
import FaultPlane.Json.Value
import FaultPlane.Proofs.Checks
import FaultPlane.Proofs.Decimal.Digits
import Mathlib.Data.List.TakeWhile

/-!
# Reading the words that are written

A text between quotes is read as the text, whatever characters have to be escaped in it
(`textBody_escaped`), and the digits of a whole number as that number (`number_ofInt`). A number
ends where no number can go on, so it does not matter what stands behind it there
(`stops_number`).
-/

namespace FaultPlane.Json

/-! ### Texts -/

theorem hexValue?_hexDigit : ∀ n < 16, hexValue? (hexDigit n) = some n := by decide

theorem escape_code {c : Char} (low : c.toNat < 0x20) (rest : List Char) :
    escape ('u' :: '0' :: '0' :: hexDigit (c.toNat / 16) :: hexDigit (c.toNat % 16) :: rest) =
      .ok (c, rest) := by
  have hhigh := hexValue?_hexDigit (c.toNat / 16) (by omega)
  have hlow := hexValue?_hexDigit (c.toNat % 16) (by omega)
  have hzero : hexValue? '0' = some 0 := by decide
  have hnumber : ((0 * 16 + 0) * 16 + c.toNat / 16) * 16 + c.toNat % 16 = c.toNat := by omega
  have hfour : hexFour ('0' :: '0' :: hexDigit (c.toNat / 16) :: hexDigit (c.toNat % 16) :: rest) =
      .ok (c.toNat, rest) := by
    simp only [hexFour, hzero, hhigh, hlow, hnumber]
    rfl
  have hlower : ¬ (0xDC00 ≤ c.toNat ∧ c.toNat ≤ 0xDFFF) := by omega
  have hupper : ¬ (0xD800 ≤ c.toNat ∧ c.toNat ≤ 0xDBFF) := by omega
  show (hexFour _ >>= _) = _
  rw [hfour]
  show (if 0xDC00 ≤ c.toNat ∧ c.toNat ≤ 0xDFFF then _ else _) = _
  rw [if_neg hlower, if_neg hupper, Char.ofNat_toNat]
  rfl

theorem textUnit_escapeChar (c : Char) (rest : List Char) :
    textUnit (escapeChar c ++ rest) = .ok (some c, rest) := by
  unfold escapeChar
  -- Seven characters have an escape of their own.
  iterate 7
    split
    · subst_vars
      rfl
  split
  · next low =>
    show (escape ('u' :: '0' :: '0' :: hexDigit (c.toNat / 16) :: hexDigit (c.toNat % 16) :: rest)
      >>= _) = _
    rw [escape_code low]
    rfl
  · next notQuote notBackslash _ _ _ _ _ printable =>
    rw [List.singleton_append, textUnit.eq_def]
    split
    · next h => cases h
    · next h => exact absurd (List.cons.inj h).1 notQuote
    · next h => exact absurd (List.cons.inj h).1 notBackslash
    · next h =>
      obtain ⟨rfl, rfl⟩ := List.cons.inj h
      rw [if_neg printable]
      rfl

theorem escapeChar_ne_nil (c : Char) : escapeChar c ≠ [] := by
  unfold escapeChar
  repeat' split
  all_goals exact List.cons_ne_nil _ _

theorem length_le_escaped (cs : List Char) : cs.length ≤ (cs.flatMap escapeChar).length := by
  induction cs with
  | nil => exact Nat.le_refl 0
  | cons c cs ih =>
    have hfirst := List.length_pos_iff.2 (escapeChar_ne_nil c)
    rw [List.flatMap_cons, List.length_append, List.length_cons]
    omega

theorem textLoop_escaped (rest cs : List Char) {fuel : Nat} (enough : cs.length < fuel) :
    textLoop fuel (cs.flatMap escapeChar ++ '"' :: rest) = .ok (cs, rest) := by
  induction cs generalizing fuel with
  | nil =>
    obtain ⟨fuel, rfl⟩ : ∃ n, fuel = n + 1 := ⟨fuel - 1, by simp at enough; omega⟩
    rfl
  | cons c cs ih =>
    obtain ⟨fuel, rfl⟩ : ∃ n, fuel = n + 1 := ⟨fuel - 1, by omega⟩
    have htail : textLoop fuel (cs.flatMap escapeChar ++ '"' :: rest) = .ok (cs, rest) :=
      ih (by simpa using enough)
    rw [textLoop, List.flatMap_cons, List.append_assoc, textUnit_escapeChar]
    show (textLoop fuel _ >>= _) = _
    rw [htail]
    rfl

/-- The characters of a text as they are written are read as that text, up to the quote. -/
theorem textBody_escaped (s : String) (rest : List Char) :
    textBody (s.toList.flatMap escapeChar ++ '"' :: rest) = .ok (s, rest) := by
  have hlength := length_le_escaped s.toList
  rw [textBody, textLoop_escaped rest s.toList
    (by rw [List.length_append, List.length_cons]; omega)]
  show Except.ok (String.ofList s.toList, rest) = _
  rw [String.ofList_toList]

/-! ### Where values end -/

/-- What may stand behind a value: nothing, or what closes or continues the text around it. -/
def Ends : List Char → Prop
  | [] => True
  | c :: _ => c = ',' ∨ c = ']' ∨ c = '}'

theorem Ends.head_not_digit {rest : List Char} (h : Ends rest) :
    rest.head?.any Char.isDigit = false := by
  cases rest with
  | nil => rfl
  | cons c rest => rcases h with rfl | rfl | rfl <;> rfl

theorem Ends.takeWhile_append {rest : List Char} (h : Ends rest) (cs : List Char) :
    (cs ++ rest).takeWhile Char.isDigit = cs.takeWhile Char.isDigit :=
  Decimal.takeWhile_append_of_end h.head_not_digit cs

theorem Ends.dropWhile_append {rest : List Char} (h : Ends rest) (cs : List Char) :
    (cs ++ rest).dropWhile Char.isDigit = cs.dropWhile Char.isDigit ++ rest :=
  Decimal.dropWhile_append_of_end h.head_not_digit cs

/-! ### Where numbers end -/

/-- The reader takes a value that ends where the reader stops, so that it takes the same value
whatever stands behind it there. -/
def Stops {α : Type} (read : Reader α) : Prop :=
  ∀ {cs left : List Char} {a : α}, read cs = .ok (a, left) →
    left <:+ cs ∧ ∀ {rest : List Char}, Ends rest → read (cs ++ rest) = .ok (a, left ++ rest)

theorem stops_exponentDigits (negative : Bool) : Stops (exponentDigits negative) := by
  intro cs left n h
  cases cs with
  | nil => cases h
  | cons c cs =>
    unfold exponentDigits at h
    cases hdigit : c.isDigit with
    | false =>
      simp only [hdigit, Bool.false_eq_true, if_false] at h
      cases h
    | true =>
      simp only [hdigit, if_true] at h
      cases h
      refine ⟨List.dropWhile_suffix _, fun {rest} ends => ?_⟩
      rw [List.cons_append, exponentDigits, if_pos hdigit, ← List.cons_append,
        ends.takeWhile_append, ends.dropWhile_append]
      rfl

theorem stops_exponentPart : Stops exponentPart := by
  intro cs left n h
  unfold exponentPart at h
  split at h
  · next cs =>
    obtain ⟨hsuffix, hmore⟩ := stops_exponentDigits false h
    exact ⟨hsuffix.trans (List.suffix_cons _ _), fun ends => hmore ends⟩
  · next cs =>
    obtain ⟨hsuffix, hmore⟩ := stops_exponentDigits true h
    exact ⟨hsuffix.trans (List.suffix_cons _ _), fun ends => hmore ends⟩
  · next notPlus notMinus =>
    obtain ⟨hsuffix, hmore⟩ := stops_exponentDigits false h
    refine ⟨hsuffix, fun {rest} ends => ?_⟩
    -- The first character, which tells that there is no sign, stays the first.
    cases cs with
    | nil => cases h
    | cons c cs =>
      rw [← hmore ends, List.cons_append, exponentPart.eq_def]
      split
      · next hc => exact absurd (by rw [(List.cons.inj hc).1]) (notPlus cs)
      · next hc => exact absurd (by rw [(List.cons.inj hc).1]) (notMinus cs)
      · rfl

theorem stops_numberEnd (plain : Except Problem Number) (scaled : Int → Except Problem Number) :
    Stops (numberEnd plain scaled) := by
  intro cs left v h
  cases cs with
  | nil =>
    obtain ⟨w, hplain, hpure⟩ := bind_eq_ok.1 (show (plain >>= fun w => pure (w, [])) = _ from h)
    cases hpure
    refine ⟨List.suffix_refl _, fun {rest} ends => ?_⟩
    cases rest with
    | nil => exact h
    | cons d rest =>
      have hletter : (decide (d = 'e') || decide (d = 'E')) = false := by
        rcases ends with rfl | rfl | rfl <;> rfl
      rw [List.nil_append, numberEnd, hletter, hplain]
      rfl
  | cons c cs =>
    unfold numberEnd at h
    cases hletter : (decide (c = 'e') || decide (c = 'E')) with
    | true =>
      simp only [hletter, if_true] at h
      obtain ⟨⟨exponent, left'⟩, hexponent, hvalue⟩ := bind_eq_ok.1 h
      obtain ⟨w, hscaled, hpure⟩ := bind_eq_ok.1 hvalue
      cases hpure
      obtain ⟨hsuffix, hmore⟩ := stops_exponentPart hexponent
      refine ⟨hsuffix.trans (List.suffix_cons _ _), fun {rest} ends => ?_⟩
      rw [List.cons_append, numberEnd, hletter, if_pos rfl, hmore ends]
      show (scaled exponent >>= _) = _
      rw [hscaled]
      rfl
    | false =>
      simp only [hletter, if_false, Bool.false_eq_true] at h
      obtain ⟨w, hplain, hpure⟩ := bind_eq_ok.1 h
      cases hpure
      refine ⟨List.suffix_refl _, fun {rest} _ => ?_⟩
      rw [List.cons_append, numberEnd, hletter, if_neg Bool.false_ne_true, hplain]
      rfl

theorem stops_fractionPart (negative : Bool) (significand : Nat) (dropped : Int) :
    Stops (fractionPart negative significand dropped) := by
  intro cs left v h
  unfold fractionPart at h
  dsimp only at h
  cases hempty : (cs.takeWhile Char.isDigit).isEmpty with
  | true =>
    rw [hempty, if_pos rfl] at h
    cases h
  | false =>
    rw [hempty, if_neg Bool.false_ne_true] at h
    obtain ⟨hsuffix, hmore⟩ := stops_numberEnd _ _ h
    refine ⟨hsuffix.trans (List.dropWhile_suffix _), fun {rest} ends => ?_⟩
    rw [fractionPart, ends.takeWhile_append, ends.dropWhile_append]
    dsimp only
    rw [hempty, if_neg Bool.false_ne_true]
    exact hmore ends

theorem stops_numberRest (negative : Bool) (significand : Nat) (dropped : Int) :
    Stops (numberRest negative significand dropped) := by
  intro cs left v h
  unfold numberRest at h
  split at h
  · obtain ⟨hsuffix, hmore⟩ := stops_fractionPart negative significand dropped h
    exact ⟨hsuffix.trans (List.suffix_cons _ _), fun ends => hmore ends⟩
  · next notPoint =>
    obtain ⟨hsuffix, hmore⟩ := stops_numberEnd _ _ h
    refine ⟨hsuffix, fun {rest} ends => ?_⟩
    rw [← hmore ends, numberRest.eq_def]
    split
    · next hpoint =>
      cases cs with
      | nil =>
        subst hpoint
        rcases ends with hc | hc | hc <;> cases hc
      | cons c cs => exact absurd (by rw [(List.cons.inj hpoint).1]) (notPoint cs)
    · rfl

theorem stops_numberTail (negative : Bool) : Stops (numberTail negative) := by
  intro cs left v h
  cases cs with
  | nil => cases h
  | cons c cs =>
    unfold numberTail at h
    dsimp only at h
    cases hdigit : c.isDigit with
    | false =>
      simp only [hdigit, Bool.not_false, if_true] at h
      cases h
    | true =>
      cases hzero : (decide (c = '0') && cs.head?.any Char.isDigit) with
      | true =>
        simp only [hdigit, hzero, Bool.not_true, Bool.false_eq_true, if_false, if_true] at h
        cases h
      | false =>
        simp only [hdigit, hzero, Bool.not_true, Bool.false_eq_true, if_false] at h
        obtain ⟨hsuffix, hmore⟩ := stops_numberRest _ _ _ h
        refine ⟨hsuffix.trans (List.dropWhile_suffix _), fun {rest} ends => ?_⟩
        -- The character behind a zero may be the first of what follows, and then it is no digit.
        have hhead : (decide (c = '0') && (cs ++ rest).head?.any Char.isDigit) = false := by
          cases cs with
          | nil => rw [List.nil_append, ends.head_not_digit, Bool.and_false]
          | cons d cs => exact hzero
        rw [List.cons_append, numberTail, hdigit, hhead, ← List.cons_append,
          ends.takeWhile_append, ends.dropWhile_append]
        exact hmore ends

theorem number_of_ne {cs : List Char} (h : cs.head? ≠ some '-') :
    number cs = numberTail false cs := by
  unfold number
  split
  · exact absurd rfl h
  · rfl

/-- Nothing that may stand behind a value changes the number before it. -/
theorem stops_number : Stops number := by
  intro cs left v h
  by_cases hminus : cs.head? = some '-'
  · obtain ⟨cs, rfl⟩ := List.head?_eq_some_iff.1 hminus
    obtain ⟨hsuffix, hmore⟩ := stops_numberTail true h
    exact ⟨hsuffix.trans (List.suffix_cons _ _), fun ends => hmore ends⟩
  · rw [number_of_ne hminus] at h
    obtain ⟨hsuffix, hmore⟩ := stops_numberTail false h
    refine ⟨hsuffix, fun {rest} ends => ?_⟩
    have hminus' : (cs ++ rest).head? ≠ some '-' := by
      cases cs with
      | nil => cases h
      | cons c cs => exact hminus
    rw [number_of_ne hminus']
    exact hmore ends

/-! ### Whole numbers -/

theorem absorb_digits {start : Nat} {ds : List Char}
    (fits : Decimal.ofDigits start ds < UInt64.size) :
    absorb start ds = (Decimal.ofDigits start ds, ds.length) := by
  induction ds generalizing start with
  | nil => rfl
  | cons d ds ih =>
    rw [Decimal.ofDigits_cons] at fits ⊢
    have hnext : start * 10 + (d.toNat - 0x30) < UInt64.size :=
      Nat.lt_of_le_of_lt (Decimal.le_ofDigits _ ds) fits
    have hrest : absorb (start * 10 + (d.toNat - 0x30)) ds = _ := ih fits
    rw [absorb]
    dsimp only
    rw [if_pos hnext, hrest]
    rfl

/-- The digits of a number that has 64 bits. -/
theorem numberTail_toDigits (negative : Bool) {n : Nat} (fits : n < UInt64.size) :
    numberTail negative (Nat.toDigits 10 n) =
      (wholeNumber negative n 0).map fun v => (v, []) := by
  have hvalue := Decimal.ofDigits_toDigits n
  have hfirst := @Decimal.toDigits_eq_zero_cons n
  have hdigits : ∀ c ∈ Nat.toDigits 10 n, c.isDigit = true :=
    fun _ => Decimal.isDigit_of_mem_toDigits
  generalize hds : Nat.toDigits 10 n = ds at *
  cases ds with
  | nil => exact absurd hds Nat.toDigits_ne_nil
  | cons c cs =>
    have hzero : (decide (c = '0') && cs.head?.any Char.isDigit) = false := by
      by_cases hc : c = '0'
      · subst hc
        rw [hfirst rfl]
        rfl
      · simp [hc]
    have htake : (c :: cs).takeWhile Char.isDigit = c :: cs := List.takeWhile_eq_self_iff.2 hdigits
    have hdrop : (c :: cs).dropWhile Char.isDigit = [] := List.dropWhile_eq_nil_iff.2 hdigits
    have habsorb : absorb 0 (c :: cs) = (n, (c :: cs).length) := by
      rw [absorb_digits (by rw [hvalue]; exact fits), hvalue]
    rw [numberTail, hdigits c List.mem_cons_self, hzero, htake, hdrop]
    dsimp only
    rw [habsorb]
    show (wholeNumber negative n (((c :: cs).length : Int) - ((c :: cs).length : Int)) >>= _) = _
    rw [Int.sub_self]
    rfl

/-- The digits of a whole number of 64 bits, with or without sign, are read as that number. -/
theorem number_ofInt {n : Int} (low : -(UInt64.size / 2 : Nat) ≤ n) (high : n < UInt64.size)
    {rest : List Char} (ends : Ends rest) :
    number ((Decimal.ofInt n).toList ++ rest) = .ok (.integer n, rest) := by
  have hread : number (Decimal.ofInt n).toList = .ok (.integer n, []) := by
    by_cases hn : 0 ≤ n
    · have hminus : (Nat.toDigits 10 n.toNat).head? ≠ some '-' := fun h =>
        Decimal.not_mem_toDigits rfl _ (List.mem_of_head? h)
      rw [Decimal.toList_ofInt hn, number_of_ne hminus, numberTail_toDigits false (by omega)]
      show Except.ok (Number.integer ((n.toNat : Nat) : Int), []) = _
      rw [Int.toNat_of_nonneg hn]
    · have hwhole : wholeNumber true n.natAbs 0 = .ok (.integer n) := by
        have hbound : ¬ (n.natAbs = 0 ∨ UInt64.size / 2 < n.natAbs) := by omega
        rw [wholeNumber, if_neg (fun h => h rfl), Bool.not_true, if_neg Bool.false_ne_true,
          if_neg hbound]
        show Except.ok (Number.integer (-(n.natAbs : Int))) = _
        rw [Int.ofNat_natAbs_of_nonpos (by omega), Int.neg_neg]
      have hsize : UInt64.size = 18446744073709551616 := rfl
      rw [Decimal.toList_ofInt_of_neg (by omega)]
      show numberTail true (Nat.toDigits 10 n.natAbs) = _
      rw [numberTail_toDigits true (by omega), hwhole]
      rfl
  exact (stops_number hread).2 ends

end FaultPlane.Json
