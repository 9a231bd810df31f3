import Mathlib.Order.Bounds.Basic
import FaultPlane.Injection.IdClock
import FaultPlane.Proofs.Time.Timestamps

/-!
# Numbers of the id clock

A number is the greatest of the readings of the wall clock so far, each moved on by one for every
number that was issued since, and of the number that a wall clock at rest would lead to
(`isGreatest_issueAll`). All else follows from that or from the step of the clock: the numbers
increase, they are never behind the wall clock, and they are ahead of it by no more than their count
(`numbers_issued`).
-/

namespace FaultPlane.Injection

open FaultPlane.Time (Instant)

namespace IdClock

/-! ### One number -/

theorem issue_eq_max (c : IdClock) (now : Instant) :
    (c.issue now).1 = max (c.last + 1) now.millis := by
  simp only [issue]
  split <;> omega

theorem last_issue (c : IdClock) (now : Instant) : (c.issue now).2.last = (c.issue now).1 := rfl

theorem issue_eq_millis_iff (c : IdClock) (now : Instant) :
    (c.issue now).1 = now.millis ↔ c.last < now.millis := by
  rw [issue_eq_max]
  omega

/-! ### Numbers one after the other -/

theorem issueAll_cons (c : IdClock) (t : Instant) (ts : List Instant) :
    c.issueAll (t :: ts) = (c.issue t).1 :: (c.issue t).2.issueAll ts := rfl

theorem length_issueAll (c : IdClock) (ts : List Instant) : (c.issueAll ts).length = ts.length := by
  induction ts generalizing c with
  | nil => rfl
  | cons t ts ih => rw [issueAll_cons, List.length_cons, ih, List.length_cons]

theorem last_lt_of_mem {c : IdClock} {ts : List Instant} {n : Int} (h : n ∈ c.issueAll ts) :
    c.last < n := by
  induction ts generalizing c with
  | nil => cases h
  | cons t ts ih =>
    have hstep := c.last_lt_issue t
    rcases List.mem_cons.1 h with rfl | hlater
    · exact hstep
    · exact Int.lt_trans hstep (ih hlater)

theorem increasing_issueAll (c : IdClock) (ts : List Instant) :
    (c.issueAll ts).Pairwise (· < ·) := by
  induction ts generalizing c with
  | nil => exact List.Pairwise.nil
  | cons t ts ih =>
    rw [issueAll_cons, List.pairwise_cons]
    exact ⟨fun n hlater => last_lt_of_mem hlater, ih _⟩

/-- The number at a place is what the wall clock shows if it shows more than the clock held at first
and issued since. -/
theorem eq_millis_iff {c : IdClock} {ts : List Instant} {i : Nat} {t : Instant} {n : Int}
    (read : ts[i]? = some t) (issued : (c.issueAll ts)[i]? = some n) :
    n = t.millis ↔ ∀ m ∈ c.last :: (c.issueAll ts).take i, m < t.millis := by
  induction ts generalizing c i with
  | nil => cases read
  | cons s ts ih =>
    rw [issueAll_cons] at issued ⊢
    cases i with
    | zero =>
      rw [List.getElem?_cons_zero, Option.some.injEq] at read issued
      rw [← read, ← issued, issue_eq_millis_iff, List.take_zero, List.forall_mem_singleton]
    | succ i =>
      rw [List.getElem?_cons_succ] at read issued
      rw [ih read issued, List.take_succ_cons, last_issue]
      constructor
      · intro above
        have hfirst := above _ List.mem_cons_self
        exact List.forall_mem_cons.2 ⟨Int.lt_trans (c.last_lt_issue s) hfirst, above⟩
      · exact fun above => (List.forall_mem_cons.1 above).2

theorem eq_millis_iff_of_pos {c : IdClock} {ts : List Instant} {i : Nat} {t : Instant} {n : Int}
    (later : 0 < i) (read : ts[i]? = some t) (issued : (c.issueAll ts)[i]? = some n) :
    n = t.millis ↔ ∀ m ∈ (c.issueAll ts).take i, m < t.millis := by
  rw [eq_millis_iff read issued, List.forall_mem_cons]
  refine and_iff_right_of_imp fun above => ?_
  have hplace := (List.getElem?_eq_some_iff.1 issued).1
  have hne : (c.issueAll ts).take i ≠ [] := by
    rw [Ne, List.take_eq_nil_iff, ← List.length_eq_zero_iff]
    omega
  obtain ⟨m, hm⟩ := List.exists_mem_of_ne_nil _ hne
  exact Int.lt_trans (last_lt_of_mem (List.mem_of_mem_take hm)) (above m hm)

/-! ### The closed form -/

/-- What may be the number at a place, counted from zero: the number that the clock gets to without
the wall clock, or an earlier reading moved on by one for every place since. -/
def candidates (c : IdClock) (ts : List Instant) (i : Nat) : Set Int :=
  {n | n = c.last + (i + 1) ∨ ∃ j t, j ≤ i ∧ ts[j]? = some t ∧ n = t.millis + (i - j)}

theorem mem_candidates_zero {c : IdClock} {t : Instant} {ts : List Instant} {n : Int} :
    n ∈ c.candidates (t :: ts) 0 ↔ n = c.last + 1 ∨ n = t.millis := by
  constructor
  · rintro (hn | ⟨j, s, hj, read, hn⟩)
    · left
      omega
    · obtain rfl := Nat.le_zero.1 hj
      rw [List.getElem?_cons_zero, Option.some.injEq] at read
      right
      rw [read]
      omega
  · rintro (hn | hn)
    · refine .inl ?_
      omega
    · refine .inr ⟨0, t, Nat.le_refl 0, List.getElem?_cons_zero, ?_⟩
      omega

theorem mem_candidates_succ {c : IdClock} {t : Instant} {ts : List Instant} {i : Nat} {n : Int} :
    n ∈ c.candidates (t :: ts) (i + 1) ↔
      n = c.last + 1 + (i + 1) ∨ n = t.millis + (i + 1) ∨
        ∃ j s, j ≤ i ∧ ts[j]? = some s ∧ n = s.millis + (i - j) := by
  constructor
  · rintro (hn | ⟨j, s, hj, read, hn⟩)
    · left
      omega
    · cases j with
      | zero =>
        rw [List.getElem?_cons_zero, Option.some.injEq] at read
        right; left
        rw [read]
        omega
      | succ j =>
        rw [List.getElem?_cons_succ] at read
        refine .inr (.inr ⟨j, s, Nat.le_of_succ_le_succ hj, read, ?_⟩)
        omega
  · rintro (hn | hn | ⟨j, s, hj, read, hn⟩)
    · refine .inl ?_
      omega
    · refine .inr ⟨0, t, Nat.zero_le _, List.getElem?_cons_zero, ?_⟩
      omega
    · refine .inr ⟨j + 1, s, Nat.succ_le_succ hj, ?_, ?_⟩
      · rw [List.getElem?_cons_succ]
        exact read
      · omega

theorem isGreatest_issueAll {c : IdClock} {ts : List Instant} {i : Nat} {n : Int}
    (issued : (c.issueAll ts)[i]? = some n) : IsGreatest (c.candidates ts i) n := by
  -- The number that a clock holds carries all that it has been shown, so the clock is generalized
  -- and not the readings that have gone by.
  induction ts generalizing c i with
  | nil => cases issued
  | cons t ts ih =>
    rw [issueAll_cons] at issued
    have hmax := c.issue_eq_max t
    cases i with
    | zero =>
      rw [List.getElem?_cons_zero, Option.some.injEq] at issued
      constructor
      · rw [mem_candidates_zero]
        omega
      · intro m hm
        rw [mem_candidates_zero] at hm
        omega
    | succ i =>
      rw [List.getElem?_cons_succ] at issued
      obtain ⟨hmem, hupper⟩ := ih issued
      constructor
      · rw [mem_candidates_succ]
        rcases hmem with hn | hlater
        · rw [last_issue] at hn
          omega
        · exact .inr (.inr hlater)
      · intro m hm
        have hheld : (c.issue t).1 + (i + 1) ≤ n := hupper (.inl rfl)
        rcases mem_candidates_succ.1 hm with hm | hm | hlater
        · omega
        · omega
        · exact hupper (.inr hlater)

/-! ### The numbers of a new clock -/

/-- What is known of the numbers that a new clock issues at some instants. Places are counted from
zero. Before its first number the clock holds zero. -/
structure Laws (ts : List Instant) (issued : List Int) : Prop where
  length : issued.length = ts.length
  greatest : ∀ (i : Nat) (n : Int), issued[i]? = some n →
    IsGreatest (({} : IdClock).candidates ts i) n
  increasing : issued.Pairwise (· < ·)
  positive : ∀ n ∈ issued, 0 < n
  reached : ∀ (i : Nat) (t : Instant) (n : Int), ts[i]? = some t → issued[i]? = some n →
    t.millis ≤ n
  followed : ∀ (i : Nat) (t : Instant) (n : Int), ts[i]? = some t → issued[i]? = some n →
    (n = t.millis ↔ ∀ m ∈ 0 :: issued.take i, m < t.millis)
  -- Zero counts for the first number alone, since all numbers that are issued are above it.
  followed_later : ∀ (i : Nat) (t : Instant) (n : Int), 0 < i → ts[i]? = some t →
    issued[i]? = some n → (n = t.millis ↔ ∀ m ∈ issued.take i, m < t.millis)
  bounded : ∀ (i : Nat) (n m : Int), issued[i]? = some n → 0 ≤ m →
    (∀ t ∈ ts.take (i + 1), t.millis ≤ m) → n ≤ m + (i + 1)

/-- A number is at least the reading for which it is issued, and ahead of the readings by no more
than the numbers so far. -/
theorem bounds_of_issued {ts : List Instant} {i : Nat} {n : Int}
    (issued : (({} : IdClock).issueAll ts)[i]? = some n) :
    (∀ t, ts[i]? = some t → t.millis ≤ n) ∧
      ∀ m, 0 ≤ m → (∀ t ∈ ts.take (i + 1), t.millis ≤ m) → n ≤ m + (i + 1) := by
  obtain ⟨hmem, hupper⟩ := isGreatest_issueAll issued
  constructor
  · intro t read
    refine hupper (.inr ⟨i, t, Nat.le_refl i, read, ?_⟩)
    omega
  · intro m hm below
    rcases hmem with hn | ⟨j, t, hj, read, hn⟩
    · have hzero : ({} : IdClock).last = 0 := rfl
      omega
    · have hread : (ts.take (i + 1))[j]? = some t := by
        rw [List.getElem?_take_of_lt (Nat.lt_succ_of_le hj), read]
      have hbelow := below t (List.mem_of_getElem? hread)
      omega

theorem laws (ts : List Instant) : Laws ts (({} : IdClock).issueAll ts) where
  length := length_issueAll {} ts
  greatest _ _ := isGreatest_issueAll
  increasing := increasing_issueAll {} ts
  positive _ := last_lt_of_mem
  reached _ t _ read issued := (bounds_of_issued issued).1 t read
  followed _ _ _ := eq_millis_iff
  followed_later _ _ _ := eq_millis_iff_of_pos
  bounded _ _ m issued := (bounds_of_issued issued).2 m

theorem millis_le_of_isProper {t : Instant} (h : t.IsProper) : t.millis ≤ 8210266876800999 := by
  have hsecond := (Instant.isRepresentable_iff.1 h.representable).2
  have hnano := h.nano_lt
  unfold Instant.millis
  omega

/-- The numbers of a new clock are the closed form of its readings, so they increase and follow the
wall clock, and no number of calls that a program gets to brings them to the end of a signed
word. -/
theorem numbers_issued (ts : List Instant) :
    Laws ts (({} : IdClock).issueAll ts) ∧
      ((∀ t ∈ ts, t.IsProper) → ts.length < 2 ^ 62 →
        ∀ held ∈ 0 :: ({} : IdClock).issueAll ts, held + 1 ≤ Int64.maxValue.toInt) := by
  have hlaws := laws ts
  refine ⟨hlaws, fun proper short held hheld => ?_⟩
  have hmax : Int64.maxValue.toInt = 9223372036854775807 := by decide
  rw [hmax]
  rcases List.mem_cons.1 hheld with rfl | hissued
  · decide
  · obtain ⟨i, hi⟩ := List.getElem?_of_mem hissued
    have hplace : i < ts.length := by
      rw [← hlaws.length]
      exact (List.getElem?_eq_some_iff.1 hi).1
    have hle := hlaws.bounded i held 8210266876800999 hi (by decide) fun t inside =>
      millis_le_of_isProper (proper t (List.mem_of_mem_take inside))
    omega

/-- The wall clock starts below zero, gets to the last instant, stands still there and goes back. -/
def backAndForth : List Instant :=
  [⟨-5, 0⟩, ⟨8210266876799, 999000000⟩, ⟨8210266876799, 999999999⟩, ⟨60, 0⟩]

theorem numbers_issued_back_and_forth :
    (∀ t ∈ backAndForth, t.IsProper) ∧ backAndForth.length < 2 ^ 62 ∧
      ({} : IdClock).issueAll backAndForth =
        [1, 8210266876799999, 8210266876800000, 8210266876800001] ∧
      (8210266876800001 + 1 : Int) ≤ Int64.maxValue.toInt := by
  have proper : ∀ t ∈ backAndForth, t.IsProper := by
    intro t inside
    have hrange : t.isRepresentable = true ∧ t.nano < 1000000000 :=
      (by decide : ∀ t ∈ backAndForth, t.isRepresentable = true ∧ t.nano < 1000000000) t inside
    exact ⟨hrange.1, by omega, fun leap => by omega⟩
  have hissued : ({} : IdClock).issueAll backAndForth =
      [1, 8210266876799999, 8210266876800000, 8210266876800001] := by decide
  refine ⟨proper, by decide, hissued, (numbers_issued backAndForth).2 proper (by decide) _ ?_⟩
  rw [hissued]
  decide

end IdClock

end FaultPlane.Injection
