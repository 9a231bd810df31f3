import FaultPlane.Time.Instant
import Mathlib.Tactic.ByContra

/-!
# Days and dates

The date of a day is a day of the calendar (`isValid_ofDayNumber`) whose number is the day again
(`dayNumber_ofDayNumber`). The dates of the instants that can be represented lie within the years
of the calendar (`year_bounds`).
-/

namespace FaultPlane.Time

/-! ### Years of an era -/

/-- The days of an era before one of its years. -/
def daysBefore (y : Int) : Int := y * 365 + y / 4 - y / 100

/-- A day of an era, counted without the leap days before it. -/
def plainDay (d : Int) : Int := d - d / 1460 + d / 36524 - d / 146096

theorem plainDay_mono {d d' : Int} (h : d ≤ d') : plainDay d ≤ plainDay d' := by
  have hfour : d - d / 1460 ≤ d' - d' / 1460 := by omega
  have hcentury : d / 36524 ≤ d' / 36524 := by omega
  -- The last day of an era comes after four whole centuries.
  have hera : ∀ x : Int, x / 146096 = x / 36524 / 4 := fun x => by omega
  rw [plainDay, plainDay, hera d, hera d']
  omega

theorem plainDay_daysBefore : ∀ y : Nat, y < 400 →
    365 * (y : Int) ≤ plainDay (daysBefore y) ∧
      (0 < y → plainDay (daysBefore y - 1) < 365 * (y : Int)) := by
  decide +kernel

/-- The year of a day of an era begins before the day and ends after it. The last year of an era
has a leap day that `daysBefore` does not count. -/
theorem year_of_era {d y : Int} (low : 0 ≤ d) (high : d < 146097) (hy : y = plainDay d / 365) :
    0 ≤ y ∧ y ≤ 399 ∧ daysBefore y ≤ d ∧ (y < 399 → d < daysBefore (y + 1)) := by
  have hrange : 0 ≤ y ∧ y ≤ 399 := by
    have hfirst := plainDay_mono low
    have hlast := plainDay_mono (show d ≤ 146096 by omega)
    have hends : plainDay 0 = 0 ∧ plainDay 146096 = 145999 := by decide
    omega
  obtain ⟨k, rfl⟩ : ∃ k : Nat, y = k := ⟨y.toNat, by omega⟩
  refine ⟨hrange.1, hrange.2, ?_, ?_⟩
  · by_contra hlate
    have hbefore := plainDay_mono (show d ≤ daysBefore k - 1 by omega)
    have hpositive : 0 < k := by
      rcases Nat.eq_zero_or_pos k with rfl | h
      · exact absurd low hlate
      · exact h
    have hstart := (plainDay_daysBefore k (by omega)).2 hpositive
    omega
  · intro hk
    by_contra hlate
    have hafter := plainDay_mono (show daysBefore ((k : Int) + 1) ≤ d by omega)
    have hstart := (plainDay_daysBefore (k + 1) (by omega)).1
    rw [show ((k + 1 : Nat) : Int) = (k : Int) + 1 from rfl] at hstart
    omega

/-! ### Years from March -/

/-- The date of a day of a year that begins in March. -/
def Date.ofMarch (year dayOfYear : Int) : Date :=
  let monthFromMarch := (5 * dayOfYear + 2) / 153
  let day := dayOfYear - (153 * monthFromMarch + 2) / 5 + 1
  let month := if monthFromMarch < 10 then monthFromMarch + 3 else monthFromMarch - 9
  ⟨year + (if month ≤ 2 then 1 else 0), month.toNat, day.toNat⟩

theorem ofMarch_eq (year dayOfYear : Int) : Date.ofMarch year dayOfYear =
    { Date.ofMarch 0 dayOfYear with year := year + (Date.ofMarch 0 dayOfYear).year } := by
  unfold Date.ofMarch
  dsimp only
  rw [Int.zero_add]

/-- Month and day of every day of a year, which is counted on in January. -/
theorem ofMarch_month_day : ∀ k : Nat, k < 366 →
    let d := Date.ofMarch 0 k
    d.year = (if d.month ≤ 2 then 1 else 0) ∧ 1 ≤ d.month ∧ d.month ≤ 12 ∧ 1 ≤ d.day ∧
      (153 * ((d.month + 9) % 12) + 2) / 5 + d.day = k + 1 ∧
      d.day ≤ daysInMonth 0 d.month ∧ (k < 365 → d.day ≤ daysInMonth 1 d.month) ∧
      d.year = (if k < 306 then 0 else 1) := by
  decide +kernel

theorem daysInMonth_of_leap {year : Int} (h : isLeapYear year = true) (month : Nat) :
    daysInMonth year month = daysInMonth 0 month := by
  unfold daysInMonth
  rw [h]
  rfl

theorem daysInMonth_one_le (year : Int) (month : Nat) :
    daysInMonth 1 month ≤ daysInMonth year month := by
  unfold daysInMonth
  split
  · cases isLeapYear year <;> decide
  all_goals exact Nat.le_refl _

theorem dayNumber_ofMarch {year dayOfYear : Int} (low : 0 ≤ dayOfYear) (high : dayOfYear ≤ 365) :
    (Date.ofMarch year dayOfYear).dayNumber =
      year / 400 * 146097 + (daysBefore (year % 400) + dayOfYear) - 719468 := by
  obtain ⟨k, rfl⟩ : ∃ k : Nat, dayOfYear = k := ⟨dayOfYear.toNat, by omega⟩
  obtain ⟨hyear, -, -, -, hday, -⟩ := ofMarch_month_day k (by omega)
  rw [ofMarch_eq]
  generalize Date.ofMarch 0 (k : Nat) = d at *
  have hmarch : (if d.month ≤ 2 then year + d.year - 1 else year + d.year) = year := by
    rw [hyear]
    split <;> omega
  unfold Date.dayNumber daysBefore
  dsimp only
  rw [hmarch]
  omega

theorem isValid_ofMarch {year dayOfYear : Int} (low : 0 ≤ dayOfYear) (high : dayOfYear ≤ 365)
    (leap : dayOfYear = 365 → isLeapYear (year + 1) = true) :
    (Date.ofMarch year dayOfYear).isValid = true := by
  obtain ⟨k, rfl⟩ : ∃ k : Nat, dayOfYear = k := ⟨dayOfYear.toNat, by omega⟩
  obtain ⟨-, hmonth, hmonth', hday, -, hleapDay, hplain, hyear⟩ :=
    ofMarch_month_day k (by omega)
  rw [ofMarch_eq]
  generalize Date.ofMarch 0 (k : Nat) = d at *
  have hday' : d.day ≤ daysInMonth (year + d.year) d.month := by
    by_cases hk : k = 365
    · rw [hyear, if_neg (by omega), daysInMonth_of_leap (leap (by omega))]
      exact hleapDay
    · exact Nat.le_trans (hplain (by omega)) (daysInMonth_one_le _ _)
  simp [Date.isValid, hmonth, hmonth', hday, hday']

/-- The last day of a year that begins in March is a leap day, if it is the 366th. -/
theorem dayOfYear_bounds {d y : Int} (high : d < 146097) (hy : 0 ≤ y ∧ y ≤ 399)
    (hend : y < 399 → d < daysBefore (y + 1)) :
    d - daysBefore y ≤ 365 ∧
      (d - daysBefore y = 365 → (y + 1) % 4 = 0 ∧ ((y + 1) % 100 ≠ 0 ∨ (y + 1) % 400 = 0)) := by
  unfold daysBefore at *
  by_cases hlast : y = 399
  · subst hlast
    omega
  · have hyear := hend (by omega)
    omega

theorem ofDayNumber_eq (n : Int) : ∃ year dayOfYear : Int, 0 ≤ dayOfYear ∧ dayOfYear ≤ 365 ∧
    (dayOfYear = 365 → isLeapYear (year + 1) = true) ∧
    n = year / 400 * 146097 + (daysBefore (year % 400) + dayOfYear) - 719468 ∧
    Date.ofDayNumber n = Date.ofMarch year dayOfYear := by
  have hera : 0 ≤ (n + 719468) % 146097 ∧ (n + 719468) % 146097 < 146097 := by omega
  generalize hd : (n + 719468) % 146097 = d at hera
  generalize hy : plainDay d / 365 = y
  obtain ⟨hlow, hhigh, hstart, hend⟩ := year_of_era hera.1 hera.2 hy.symm
  obtain ⟨hbound, hleap⟩ := dayOfYear_bounds hera.2 ⟨hlow, hhigh⟩ hend
  generalize he : (n + 719468) / 146097 = e
  have hquotient : (y + e * 400) / 400 = e ∧ (y + e * 400) % 400 = y := by omega
  refine ⟨y + e * 400, d - daysBefore y, by omega, hbound, fun hday => ?_, ?_, ?_⟩
  · have hyear := hleap hday
    have hrest : (y + e * 400 + 1) % 4 = (y + 1) % 4 ∧
        (y + e * 400 + 1) % 100 = (y + 1) % 100 ∧ (y + e * 400 + 1) % 400 = (y + 1) % 400 := by
      omega
    rw [isLeapYear, hrest.1, hrest.2.1, hrest.2.2]
    simpa using hyear
  · rw [hquotient.1, hquotient.2]
    omega
  · unfold Date.ofDayNumber
    dsimp only
    rw [hd, he]
    rw [show (d - d / 1460 + d / 36524 - d / 146096) / 365 = y from hy, Int.mul_comm 365 y]
    rfl

/-! ### Days of the calendar -/

theorem dayNumber_ofDayNumber (n : Int) : (Date.ofDayNumber n).dayNumber = n := by
  obtain ⟨year, day, hlow, hhigh, -, hn, hdate⟩ := ofDayNumber_eq n
  rw [hdate, dayNumber_ofMarch hlow hhigh]
  exact hn.symm

theorem isValid_ofDayNumber (n : Int) : (Date.ofDayNumber n).isValid = true := by
  obtain ⟨year, day, hlow, hhigh, hleap, -, hdate⟩ := ofDayNumber_eq n
  rw [hdate]
  exact isValid_ofMarch hlow hhigh hleap

theorem daysInMonth_le (year : Int) (month : Nat) : daysInMonth year month ≤ 31 := by
  unfold daysInMonth
  split
  · split <;> decide
  all_goals decide

theorem bounds_of_isValid {d : Date} (h : d.isValid = true) :
    (1 ≤ d.month ∧ d.month ≤ 12) ∧ 1 ≤ d.day ∧ d.day ≤ 31 := by
  have hmonth := daysInMonth_le d.year d.month
  simp only [Date.isValid, Bool.and_eq_true, decide_eq_true_eq] at h
  omega

/-- The date of an instant that can be represented lies within the years of the calendar. -/
theorem year_bounds {t : Instant} (h : t.isRepresentable = true) :
    firstYear ≤ t.date.year ∧ t.date.year ≤ lastYear := by
  have hyears : firstYear = -262143 ∧ lastYear = 262142 := ⟨rfl, rfl⟩
  rw [Instant.isRepresentable_iff] at h
  obtain ⟨year, day, hlow, hhigh, -, hn, hdate⟩ := ofDayNumber_eq (t.second / 86400)
  obtain ⟨k, rfl⟩ : ∃ k : Nat, day = k := ⟨day.toNat, by omega⟩
  obtain ⟨-, -, -, -, -, -, -, hyear⟩ := ofMarch_month_day k (by omega)
  rw [Instant.date, hdate, ofMarch_eq]
  dsimp only
  rw [hyear, hyears.1, hyears.2]
  unfold daysBefore at hn
  -- January and February belong to the year from March that has begun before.
  have hrange : -262144 ≤ year ∧ year ≤ 262142 := by
    constructor
    · omega
    · omega
  have hbegin : year = -262144 → 306 ≤ k := by
    rintro rfl
    omega
  have hend : year = 262142 → k < 306 := by
    rintro rfl
    omega
  constructor
  · split <;> omega
  · split <;> omega

end FaultPlane.Time
