import FaultPlane.Proofs.Decimal.Digits
import FaultPlane.Proofs.Text.Trimming
import FaultPlane.Proofs.Time.Calendar
import FaultPlane.Time.Rfc3339
import Mathlib.Data.List.TakeWhile

/-!
# Timestamps and instants

The timestamp of a proper instant is read as that instant (`ofRfc3339_rfc3339`), to the nanosecond,
in every year of the calendar and also in a leap second. What is read from a timestamp is always a
proper instant (`isProper_of_ofRfc3339`).
-/

namespace FaultPlane.Time

open FaultPlane.Text (isBlank isBlank_of_isDigit)

/-- An instant of the calendar. It lies in a leap second only at the end of a minute. -/
structure Instant.IsProper (t : Instant) : Prop where
  representable : t.isRepresentable = true
  nano_lt : t.nano < 2000000000
  leap : 1000000000 ≤ t.nano → t.second % 60 = 59

namespace Timestamp

/-! ### Readers one after the other -/

section

variable {α β : Type} {x : Reader α} {f : α → Reader β} {cs cs' : List Char} {a : α}

theorem run_bind_of_ok (h : x.run cs = .ok (a, cs')) : (x >>= f).run cs = (f a).run cs' := by
  rw [StateT.run_bind, h]
  rfl

theorem run_get (cs : List Char) : (get : Reader (List Char)).run cs = .ok (cs, cs) := rfl

theorem run_set (cs cs' : List Char) : (set cs' : Reader Unit).run cs = .ok ((), cs') := rfl

theorem run_pure (a : α) (cs : List Char) : (pure a : Reader α).run cs = .ok (a, cs) := rfl

theorem run_bind_eq_ok {r : β × List Char} (h : (x >>= f).run cs = .ok r) :
    ∃ a cs', x.run cs = .ok (a, cs') ∧ (f a).run cs' = .ok r := by
  rw [StateT.run_bind] at h
  cases hx : x.run cs with
  | error problem =>
    rw [hx] at h
    cases h
  | ok first =>
    rw [hx] at h
    exact ⟨first.1, first.2, rfl, h⟩

end

/-! ### Parts that are written -/

theorem run_skipBlanks {c : Char} (h : isBlank c = false) (cs : List Char) :
    skipBlanks.run (c :: cs) = .ok ((), c :: cs) := by
  show Except.ok ((), (c :: cs).dropWhile isBlank) = _
  rw [List.dropWhile_cons, h]
  rfl

theorem run_separator {c : Char} (h : isBlank c = false) (cs : List Char) :
    (separator c).run (c :: cs) = .ok ((), cs) := by
  rw [separator, run_bind_of_ok (run_skipBlanks h cs)]
  show (if c = c then set cs else throw .invalid : Reader Unit).run (c :: cs) = _
  rw [if_pos rfl]
  rfl

/-- The digits that a number of some width is read from, if the width ends there or no digit
follows. -/
theorem takeWhile_window {width : Nat} {ds : List Char} (rest : List Char)
    (digits : ∀ d ∈ ds, d.isDigit = true) (inside : ds.length ≤ width)
    (ends : ds.length = width ∨ rest.head?.any Char.isDigit = false) :
    ((ds ++ rest).take width).takeWhile Char.isDigit = ds := by
  have hnone : (rest.take (width - ds.length)).takeWhile Char.isDigit = [] := by
    rcases ends with rfl | hrest
    · rw [Nat.sub_self]
      rfl
    · refine Decimal.takeWhile_of_end ?_
      cases rest with
      | nil => rw [List.take_nil, List.head?_nil, Option.any_none]
      | cons c rest => cases width - ds.length <;> first | rfl | exact hrest
  rw [List.take_append, List.take_of_length_le inside, List.takeWhile_append_of_pos digits, hnone,
    List.append_nil]

/-- A run of digits is read as their number, if the width ends there or no digit follows. -/
theorem run_number {width : Option Nat} {ds : List Char} (rest : List Char) (nonempty : ds ≠ [])
    (digits : ∀ d ∈ ds, d.isDigit = true)
    (ends : width = some ds.length ∨
      rest.head?.any Char.isDigit = false ∧ ∀ w ∈ width, ds.length ≤ w)
    (fits : Decimal.ofDigits 0 ds < 9223372036854775808) :
    (number width).run (ds ++ rest) = .ok (Decimal.ofDigits 0 ds, rest) := by
  have hmax : Int64.maxValue.toInt.toNat = 9223372036854775807 := rfl
  have hfits : Decimal.ofDigits 0 ds ≤ Int64.maxValue.toInt.toNat := by omega
  obtain ⟨d, ds, rfl⟩ := List.exists_cons_of_ne_nil nonempty
  unfold number StateT.run
  cases width with
  | some w =>
    have hwindow : ((d :: ds ++ rest).take w).takeWhile Char.isDigit = d :: ds := by
      rcases ends with hw | ⟨hrest, hw⟩
      · cases hw
        exact takeWhile_window rest digits (Nat.le_refl _) (.inl rfl)
      · exact takeWhile_window rest digits (hw w rfl) (.inr hrest)
    dsimp only
    rw [hwindow]
    dsimp only
    rw [if_pos hfits, List.drop_left]
    rfl
  | none =>
    have hrest : rest.head?.any Char.isDigit = false := by
      rcases ends with hw | ⟨hrest, -⟩
      · cases hw
      · exact hrest
    dsimp only
    rw [List.takeWhile_append_of_pos digits, Decimal.takeWhile_of_end hrest, List.append_nil]
    dsimp only
    rw [if_pos hfits, List.drop_left]
    rfl

theorem head_padded (width n : Nat) : ∃ d ds, (Decimal.padded width n).toList = d :: ds ∧
    d.isDigit = true := by
  obtain ⟨d, ds, hds⟩ := List.exists_cons_of_ne_nil (Decimal.padded_ne_nil width n)
  exact ⟨d, ds, hds, Decimal.isDigit_of_mem_padded (by rw [hds]; exact List.mem_cons_self)⟩

theorem run_field {low high n : Nat} (bounds : low ≤ n ∧ n ≤ high) (h : n < 100)
    (rest : List Char) :
    (field low high).run ((Decimal.padded 2 n).toList ++ rest) = .ok (n, rest) := by
  have hlength := Decimal.length_padded (by decide : 0 < 2) h
  have hvalue := Decimal.ofDigits_padded 2 n
  have hnumber : (number (some 2)).run ((Decimal.padded 2 n).toList ++ rest) = .ok (n, rest) := by
    have hread := run_number rest (Decimal.padded_ne_nil 2 n)
      (fun _ => Decimal.isDigit_of_mem_padded) (.inl rfl) (by omega)
    rw [hlength, hvalue] at hread
    exact hread
  obtain ⟨d, ds, hds, hd⟩ := head_padded 2 n
  have hblank : skipBlanks.run ((Decimal.padded 2 n).toList ++ rest) =
      .ok ((), (Decimal.padded 2 n).toList ++ rest) := by
    rw [hds, List.cons_append]
    exact run_skipBlanks (isBlank_of_isDigit hd) _
  rw [field, run_bind_of_ok hblank, run_bind_of_ok hnumber, if_pos bounds]
  rfl

theorem run_number_year {width : Option Nat} {n : Nat} (small : n < 1000000)
    (h : width = none ∨ width = some 4 ∧ n < 10000) (rest : List Char) :
    (number width).run ((Decimal.padded 4 n).toList ++ '-' :: rest) = .ok (n, '-' :: rest) := by
  have hvalue := Decimal.ofDigits_padded 4 n
  have hends : width = some (Decimal.padded 4 n).toList.length ∨
      ('-' :: rest).head?.any Char.isDigit = false ∧
        ∀ w ∈ width, (Decimal.padded 4 n).toList.length ≤ w := by
    rcases h with rfl | ⟨rfl, hn⟩
    · exact .inr ⟨rfl, fun w hw => by cases hw⟩
    · exact .inl (by rw [Decimal.length_padded (by decide : 0 < 4) hn])
  have hread := run_number ('-' :: rest) (Decimal.padded_ne_nil 4 n)
    (fun _ => Decimal.isDigit_of_mem_padded) hends (by omega)
  rw [hvalue] at hread
  exact hread

theorem run_year {y : Int} (bounds : firstYear ≤ y ∧ y ≤ lastYear) (rest : List Char) :
    year.run ((yearText y).toList ++ '-' :: rest) = .ok (y, '-' :: rest) := by
  have hyears : firstYear = -262143 ∧ lastYear = 262142 := ⟨rfl, rfl⟩
  have hmin : Int32.minValue.toInt = -2147483648 := rfl
  have hmax : Int32.maxValue.toInt = 2147483647 := rfl
  have hbounded : ∀ cs, (if Int32.minValue.toInt ≤ y ∧ y ≤ Int32.maxValue.toInt then pure y
      else throw .outOfRange : Reader Int).run cs = .ok (y, cs) := by
    intro cs
    rw [if_pos (by omega)]
    rfl
  unfold yearText
  -- Before the year 0, of four digits, and after the year 9999. Only four digits go without a sign.
  split
  · have hread := run_number_year (by omega : y.natAbs < 1000000) (.inl rfl) rest
    have hvalue : -(y.natAbs : Int) = y := by omega
    have hchars : ("-" ++ Decimal.padded 4 y.natAbs).toList ++ '-' :: rest =
        '-' :: ((Decimal.padded 4 y.natAbs).toList ++ '-' :: rest) := by simp
    rw [hchars, year, run_bind_of_ok (run_skipBlanks rfl _), run_bind_of_ok (run_get _)]
    split
    · next h =>
      rw [← (List.cons.inj h).2, run_bind_of_ok (run_set _ _), run_bind_of_ok hread,
        run_bind_of_ok (run_pure _ _), hvalue]
      exact hbounded _
    · next h => cases (List.cons.inj h).1
    · next h _ => exact absurd rfl (h _)
  split
  · have hread := run_number_year (by omega : y.toNat < 1000000) (.inr ⟨rfl, by omega⟩) rest
    have hvalue : (y.toNat : Int) = y := by omega
    obtain ⟨d, ds, hds, hd⟩ := head_padded 4 y.toNat
    rw [hds, List.cons_append] at hread ⊢
    rw [year, run_bind_of_ok (run_skipBlanks (isBlank_of_isDigit hd) _),
      run_bind_of_ok (run_get _)]
    split
    · next h =>
      rw [(List.cons.inj h).1] at hd
      cases hd
    · next h =>
      rw [(List.cons.inj h).1] at hd
      cases hd
    · rw [run_bind_of_ok hread, run_bind_of_ok (run_pure _ _), hvalue]
      exact hbounded _
  · have hread := run_number_year (by omega : y.toNat < 1000000) (.inl rfl) rest
    have hvalue : (y.toNat : Int) = y := by omega
    have hchars : ("+" ++ Decimal.padded 4 y.toNat).toList ++ '-' :: rest =
        '+' :: ((Decimal.padded 4 y.toNat).toList ++ '-' :: rest) := by simp
    rw [hchars, year, run_bind_of_ok (run_skipBlanks rfl _), run_bind_of_ok (run_get _)]
    split
    · next h => cases (List.cons.inj h).1
    · next h =>
      rw [← (List.cons.inj h).2, run_bind_of_ok (run_set _ _), run_bind_of_ok hread,
        run_bind_of_ok (run_pure _ _), hvalue]
      exact hbounded _
    · next _ h => exact absurd rfl (h _)

theorem run_dateEnd (cs : List Char) : dateEnd.run ('T' :: cs) = .ok ((), cs) := rfl

/-- A fraction of a second with some digits, before the letter of the offset. -/
theorem run_fraction_padded {width n : Nat} (positive : 0 < width) (atMost : width ≤ 9)
    (h : n < 10 ^ width) (rest : List Char) :
    fraction.run ('.' :: ((Decimal.padded width n).toList ++ 'Z' :: rest)) =
      .ok (n * Nat.pow 10 (9 - width), 'Z' :: rest) := by
  have hvalue := Decimal.ofDigits_padded width n
  have hlength := Decimal.length_padded positive h
  have hsmall : 10 ^ width ≤ 10 ^ 9 := Nat.pow_le_pow_right (by decide) atMost
  have hread : (number (some 9)).run ((Decimal.padded width n).toList ++ 'Z' :: rest) =
      .ok (n, 'Z' :: rest) := by
    have h := run_number ('Z' :: rest) (Decimal.padded_ne_nil width n)
      (fun _ => Decimal.isDigit_of_mem_padded)
      (.inr ⟨rfl, fun w (hw : w ∈ some 9) => by cases hw; omega⟩) (by omega)
    rw [hvalue] at h
    exact h
  have hwidth : ((Decimal.padded width n).toList ++ 'Z' :: rest).length - ('Z' :: rest).length =
      width := by
    rw [List.length_append, hlength]
    omega
  rw [fraction, run_bind_of_ok (run_get _)]
  split
  · next same =>
    rw [← (List.cons.inj same).2, run_bind_of_ok (run_set _ _), run_bind_of_ok hread,
      run_bind_of_ok (run_get _), hwidth]
    rfl
  · next other => exact absurd rfl (other _)

/-- The fraction of a second, before the letter of the offset. -/
theorem run_fraction {nano : Nat} (h : nano < 1000000000) (rest : List Char) :
    fraction.run ((fractionText nano).toList ++ 'Z' :: rest) = .ok (nano, 'Z' :: rest) := by
  have hpadded : ∀ width, 0 < width → width ≤ 9 → nano / 10 ^ (9 - width) < 10 ^ width →
      nano % 10 ^ (9 - width) = 0 →
      fraction.run (("." ++ Decimal.padded width (nano / 10 ^ (9 - width))).toList ++ 'Z' :: rest) =
        .ok (nano, 'Z' :: rest) := by
    intro width positive atMost hquotient hexact
    have hchars : ("." ++ Decimal.padded width (nano / 10 ^ (9 - width))).toList ++ 'Z' :: rest =
        '.' :: ((Decimal.padded width (nano / 10 ^ (9 - width))).toList ++ 'Z' :: rest) := by simp
    have hvalue : nano / 10 ^ (9 - width) * Nat.pow 10 (9 - width) = nano :=
      Nat.div_mul_cancel (Nat.dvd_of_mod_eq_zero hexact)
    rw [hchars, run_fraction_padded positive atMost hquotient, hvalue]
  unfold fractionText
  split
  · next hzero =>
    rw [hzero]
    rfl
  split
  · next hmillis => exact hpadded 3 (by decide) (by decide) (by omega) hmillis
  split
  · next hmicros => exact hpadded 6 (by decide) (by decide) (by omega) hmicros
  · have hnanos := hpadded 9 (by decide) (by decide) (by omega) (Nat.mod_one nano)
    rw [Nat.sub_self, Nat.pow_zero, Nat.div_one] at hnanos
    exact hnanos

theorem run_offset : offset.run ['Z'] = .ok (0, []) := rfl

theorem run_atEnd : atEnd.run [] = .ok ((), []) := rfl

/-- Parts of a day that belong to an instant make that instant. -/
theorem assemble_parts {t : Instant} (h : t.IsProper) :
    assemble t.date (t.secondOfDay / 3600) (t.secondOfDay / 60 % 60)
      (t.secondOfDay % 60 + t.nano / 1000000000) (t.nano % 1000000000) 0 = .ok t := by
  obtain ⟨representable, nano_lt, leap⟩ := h
  have hyear := year_bounds representable
  have hdate : t.date.isValid = true := isValid_ofDayNumber (t.second / 86400)
  have hnumber : t.date.dayNumber = t.second / 86400 := dayNumber_ofDayNumber (t.second / 86400)
  have hseconds : (t.secondOfDay : Int) = t.second % 86400 := by
    rw [Instant.secondOfDay]
    omega
  -- A leap second is written as the second 60 of its minute, which is kept in the nanoseconds.
  have hparts : (if t.secondOfDay % 60 + t.nano / 1000000000 = 60 then
      (59, t.nano % 1000000000 + 1000000000)
      else (t.secondOfDay % 60 + t.nano / 1000000000, t.nano % 1000000000)) =
        (t.secondOfDay % 60, t.nano) := by
    split <;> (rw [Prod.mk.injEq]; omega)
  have hsecond : t.second / 86400 * 86400 + ((t.secondOfDay / 3600 * 3600 +
      t.secondOfDay / 60 % 60 * 60 + t.secondOfDay % 60 : Nat) : Int) - 0 = t.second := by
    omega
  unfold assemble
  rw [hdate, decide_eq_true hyear.1, decide_eq_true hyear.2, hnumber, hparts]
  dsimp only
  rw [hsecond, representable]
  rfl

/-! ### Parts that are read -/

/-- A number is read from some digits, no more than its width. -/
theorem number_eq_ok {width : Option Nat} {cs left : List Char} {n : Nat}
    (h : (number width).run cs = .ok (n, left)) : ∃ ds, cs = ds ++ left ∧
      (∀ d ∈ ds, d.isDigit = true) ∧ n = Decimal.ofDigits 0 ds ∧ ∀ w ∈ width, ds.length ≤ w := by
  have hdigits : ∀ window : List Char, ∀ d ∈ window.takeWhile Char.isDigit, d.isDigit = true :=
    fun _ _ inside => List.mem_takeWhile_imp inside
  have hfront : ∀ window : List Char, window <+: cs → cs = window.takeWhile Char.isDigit ++
      cs.drop (window.takeWhile Char.isDigit).length := fun window hprefix =>
    (List.prefix_iff_eq_append.1 ((List.takeWhile_prefix Char.isDigit).trans hprefix)).symm
  unfold number StateT.run at h
  cases width with
  | some w =>
    have hlength := (List.takeWhile_prefix Char.isDigit (l := cs.take w)).length_le
    specialize hdigits (cs.take w)
    specialize hfront (cs.take w) (List.take_prefix w cs)
    dsimp only at h
    generalize (cs.take w).takeWhile Char.isDigit = ds at *
    split at h
    · cases h
    split at h
    · cases h
      exact ⟨ds, hfront, hdigits, rfl, fun _ hw => by
        cases hw
        exact Nat.le_trans hlength (List.length_take_le w cs)⟩
    · cases h
  | none =>
    specialize hdigits cs
    specialize hfront cs (List.prefix_refl cs)
    dsimp only at h
    generalize cs.takeWhile Char.isDigit = ds at *
    split at h
    · cases h
    split at h
    · cases h
      exact ⟨ds, hfront, hdigits, rfl, fun _ hw => by cases hw⟩
    · cases h

theorem fraction_lt {n : Nat} {cs left : List Char} (h : fraction.run cs = .ok (n, left)) :
    n < 1000000000 := by
  obtain ⟨_, _, hget, h⟩ := run_bind_eq_ok h
  cases hget
  split at h
  · next cs =>
    obtain ⟨_, _, hset, h⟩ := run_bind_eq_ok h
    cases hset
    obtain ⟨m, rest, hnumber, h⟩ := run_bind_eq_ok h
    obtain ⟨_, _, hget, h⟩ := run_bind_eq_ok h
    cases hget
    obtain ⟨_, _, _, h⟩ := run_bind_eq_ok h
    obtain ⟨ds, rfl, digits, rfl, hwidth⟩ := number_eq_ok hnumber
    have hlength : (ds ++ rest).length - rest.length = ds.length := by
      rw [List.length_append]
      omega
    have hatMost := hwidth 9 rfl
    have hlt := Decimal.ofDigits_lt digits 0
    rw [hlength] at h
    cases h
    -- The digits that are missing to nine are zeros.
    have hpow : 10 ^ ds.length * 10 ^ (9 - ds.length) = 1000000000 := by
      rw [← Nat.pow_add, Nat.add_sub_cancel' hatMost]
    rw [← hpow]
    exact Nat.mul_lt_mul_of_pos_right (by omega) (Nat.pow_pos (by decide))
  · cases h
    decide

/-- Offsets are whole minutes. -/
theorem offset_mod {z : Int} {cs left : List Char} (h : offset.run cs = .ok (z, left)) :
    z % 60 = 0 := by
  obtain ⟨_, _, _, h⟩ := run_bind_eq_ok h
  obtain ⟨_, _, hget, h⟩ := run_bind_eq_ok h
  cases hget
  split at h
  · cases h
  split at h
  · cases h
    rfl
  split at h
  · cases h
    rfl
  split at h
  · obtain ⟨_, _, _, h⟩ := run_bind_eq_ok h
    obtain ⟨_, _, _, h⟩ := run_bind_eq_ok h
    obtain ⟨_, _, _, h⟩ := run_bind_eq_ok h
    obtain ⟨_, _, _, h⟩ := run_bind_eq_ok h
    cases h
    split <;> omega
  · cases h

theorem isProper_of_assemble {date : Date} {hour minute second nano : Nat} {offset : Int}
    {t : Instant} (hnano : nano < 1000000000) (hoffset : offset % 60 = 0)
    (h : assemble date hour minute second nano offset = .ok t) : t.IsProper := by
  unfold assemble at h
  split at h
  · cases h
  split at h
  · cases h
  by_cases hleap : second = 60
  · rw [if_pos hleap] at h
    dsimp only at h
    split at h
    · next representable =>
      cases h
      exact ⟨representable, by dsimp only; omega, fun _ => by dsimp only; omega⟩
    · cases h
  · rw [if_neg hleap] at h
    dsimp only at h
    split at h
    · next representable =>
      cases h
      exact ⟨representable, by dsimp only; omega, fun h => by dsimp only at h; omega⟩
    · cases h

end Timestamp

open Timestamp

namespace Instant

/-- The parts of a timestamp, in the order in which they are read. -/
theorem toList_rfc3339 (t : Instant) : t.rfc3339.toList =
    (yearText t.date.year).toList ++ '-' :: ((Decimal.padded 2 t.date.month).toList ++
      '-' :: ((Decimal.padded 2 t.date.day).toList ++ 'T' ::
        ((Decimal.padded 2 (t.secondOfDay / 3600)).toList ++ ':' ::
          ((Decimal.padded 2 (t.secondOfDay / 60 % 60)).toList ++ ':' ::
            ((Decimal.padded 2 (t.secondOfDay % 60 + t.nano / 1000000000)).toList ++
              ((fractionText (t.nano % 1000000000)).toList ++ ['Z'])))))) := by
  simp [rfc3339, clockText]

/-- The timestamp of a proper instant is read as that instant. -/
theorem ofRfc3339_rfc3339 {t : Instant} (h : t.IsProper) : ofRfc3339 t.rfc3339 = .ok t := by
  obtain ⟨hmonth, hday⟩ := bounds_of_isValid (d := t.date) (isValid_ofDayNumber (t.second / 86400))
  have hseconds : t.secondOfDay < 86400 := by
    rw [secondOfDay]
    omega
  have hleap := h.nano_lt
  have hhour : 0 ≤ t.secondOfDay / 3600 ∧ t.secondOfDay / 3600 ≤ 23 := by omega
  have hminute : 0 ≤ t.secondOfDay / 60 % 60 ∧ t.secondOfDay / 60 % 60 ≤ 59 := by omega
  have hsecond : 0 ≤ t.secondOfDay % 60 + t.nano / 1000000000 ∧
      t.secondOfDay % 60 + t.nano / 1000000000 ≤ 60 := by omega
  have hread : instant.run t.rfc3339.toList = .ok (t, []) := by
    rw [toList_rfc3339, instant, run_bind_of_ok (run_year (year_bounds h.representable) _),
      run_bind_of_ok (run_separator rfl _), run_bind_of_ok (run_field hmonth (by omega) _),
      run_bind_of_ok (run_separator rfl _), run_bind_of_ok (run_field hday (by omega) _),
      run_bind_of_ok (run_dateEnd _), run_bind_of_ok (run_field hhour (by omega) _),
      run_bind_of_ok (run_separator rfl _), run_bind_of_ok (run_field hminute (by omega) _),
      run_bind_of_ok (run_separator rfl _), run_bind_of_ok (run_field hsecond (by omega) _),
      run_bind_of_ok (run_fraction (Nat.mod_lt _ (by decide)) []), run_bind_of_ok run_offset,
      run_bind_of_ok run_atEnd]
    show (assemble t.date _ _ _ _ _ >>= fun t => pure (t, [])) = _
    rw [assemble_parts h]
    rfl
  rw [ofRfc3339, hread]
  rfl

/-- What is read from a timestamp is a proper instant. -/
theorem isProper_of_ofRfc3339 {s : String} {t : Instant} (h : ofRfc3339 s = .ok t) :
    t.IsProper := by
  have hread : ∃ left, instant.run s.toList = .ok (t, left) := by
    rw [ofRfc3339] at h
    cases hrun : instant.run s.toList with
    | error problem =>
      rw [hrun] at h
      cases h
    | ok r =>
      rw [hrun] at h
      cases h
      exact ⟨r.2, rfl⟩
  obtain ⟨left, h⟩ := hread
  obtain ⟨year, _, _, h⟩ := run_bind_eq_ok h
  obtain ⟨_, _, _, h⟩ := run_bind_eq_ok h
  obtain ⟨month, _, _, h⟩ := run_bind_eq_ok h
  obtain ⟨_, _, _, h⟩ := run_bind_eq_ok h
  obtain ⟨day, _, _, h⟩ := run_bind_eq_ok h
  obtain ⟨_, _, _, h⟩ := run_bind_eq_ok h
  obtain ⟨hour, _, _, h⟩ := run_bind_eq_ok h
  obtain ⟨_, _, _, h⟩ := run_bind_eq_ok h
  obtain ⟨minute, _, _, h⟩ := run_bind_eq_ok h
  obtain ⟨_, _, _, h⟩ := run_bind_eq_ok h
  obtain ⟨second, _, _, h⟩ := run_bind_eq_ok h
  obtain ⟨nano, _, hnano, h⟩ := run_bind_eq_ok h
  obtain ⟨offset, _, hoffset, h⟩ := run_bind_eq_ok h
  obtain ⟨_, _, _, h⟩ := run_bind_eq_ok h
  have hassemble : assemble ⟨year, month, day⟩ hour minute second nano offset = .ok t := by
    cases hparts : assemble ⟨year, month, day⟩ hour minute second nano offset with
    | error problem =>
      rw [hparts] at h
      cases h
    | ok t' =>
      rw [hparts] at h
      cases h
      rfl
  exact isProper_of_assemble (fraction_lt hnano) (offset_mod hoffset) hassemble

end Instant

end FaultPlane.Time
