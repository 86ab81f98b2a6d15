import Mathlib.Tactic.IntervalCases
import ParishSite.Time.Date

/-! Counting days goes both ways: every count belongs to a day that its month has, and that day has
the count; every day that its month has is found by its count. A year is found by its first day, and a
month by its first day in the year. -/

namespace ParishSite.Time.Date

def yearLength (year : Int) : Int := if isLeapYear year then 366 else 365

theorem isLeapYear_iff (year : Int) :
    isLeapYear year = true ↔ year % 4 = 0 ∧ (year % 100 ≠ 0 ∨ year % 400 = 0) := by
  simp [isLeapYear]

theorem daysBeforeYear_succ (year : Int) :
    daysBeforeYear (year + 1) = daysBeforeYear year + yearLength year := by
  unfold daysBeforeYear yearLength
  split
  · next leap =>
    rw [isLeapYear_iff] at leap
    omega
  · next ordinary =>
    rw [isLeapYear_iff] at ordinary
    omega

/-- The mean length of a year misses the year of a day by one at most. -/
theorem yearOf_spec (n : Int) :
    daysBeforeYear (yearOf n) ≤ n ∧ n < daysBeforeYear (yearOf n) + yearLength (yearOf n) := by
  have before : daysBeforeYear (400 * n / 146097 + 1 - 1) ≤ n := by
    unfold daysBeforeYear
    omega
  have after : n < daysBeforeYear (400 * n / 146097 + 1 + 1 + 1) := by
    unfold daysBeforeYear
    omega
  rw [← daysBeforeYear_succ, yearOf]
  split
  · next early =>
    rw [Int.sub_add_cancel]
    exact ⟨before, early⟩
  split
  · next late => exact ⟨late, after⟩
  · next early late => exact ⟨Int.not_lt.mp early, Int.not_le.mp late⟩

/-- A day no further from the year 1 than this lies in a year of nine digits. -/
theorem yearOf_small {n : Int} (low : -300000000000 ≤ n) (high : n ≤ 300000000000) :
    -999999999 ≤ yearOf n ∧ yearOf n ≤ 999999999 := by
  unfold yearOf
  dsimp only
  split
  · omega
  split <;> omega

theorem daysBeforeMonth_succ (year : Int) {month : Nat} (first : 1 ≤ month) (last : month < 12) :
    daysBeforeMonth year (month + 1) = daysBeforeMonth year month + daysInMonth year month := by
  by_cases leap : isLeapYear year = true <;>
    interval_cases month <;> simp [daysBeforeMonth, daysInMonth, leap]

theorem daysBeforeMonth_last (year : Int) :
    (daysBeforeMonth year 12 + daysInMonth year 12 : Int) = yearLength year := by
  by_cases leap : isLeapYear year = true <;>
    simp [daysBeforeMonth, daysInMonth, yearLength, leap]

theorem daysInMonth_le (year : Int) (month : Nat) : daysInMonth year month ≤ 31 := by
  unfold daysInMonth
  split
  · split <;> decide
  all_goals decide

theorem monthOf_spec (year : Int) (day : Nat) {month : Nat} (some : 1 ≤ month) :
    1 ≤ monthOf year day month ∧ monthOf year day month ≤ month ∧
      daysBeforeMonth year (monthOf year day month) ≤ day ∧
      (monthOf year day month < month → day < daysBeforeMonth year (monthOf year day month + 1)) := by
  induction month with
  | zero => exact absurd some (by decide)
  | succ month ih =>
    rw [monthOf]
    split
    · next reached => exact ⟨some, Nat.le_refl _, reached, fun less => absurd less (Nat.lt_irrefl _)⟩
    · next early =>
      cases month with
      | zero => exact absurd (Nat.zero_le day) early
      | succ month =>
        obtain ⟨first, last, reached, next⟩ := ih (Nat.succ_le_succ (Nat.zero_le month))
        refine ⟨first, Nat.le_succ_of_le last, reached, fun _ => ?_⟩
        rcases Nat.lt_or_eq_of_le last with less | same
        · exact next less
        · rw [same]
          exact Nat.not_le.mp early

theorem monthOf_inside (year : Int) {day : Nat} (inside : (day : Int) < yearLength year) :
    1 ≤ monthOf year day 12 ∧ monthOf year day 12 ≤ 12 ∧
      daysBeforeMonth year (monthOf year day 12) ≤ day ∧
      day < daysBeforeMonth year (monthOf year day 12) +
        daysInMonth year (monthOf year day 12) := by
  obtain ⟨first, last, reached, next⟩ := monthOf_spec year day (show 1 ≤ 12 by decide)
  refine ⟨first, last, reached, ?_⟩
  rcases Nat.lt_or_eq_of_le last with less | same
  · rw [← daysBeforeMonth_succ year first less]
    exact next less
  · have whole := daysBeforeMonth_last year
    rw [same]
    omega

private def dayOfYear (n : Int) : Nat := (n - daysBeforeYear (yearOf n)).toNat

private theorem dayOfYear_eq (n : Int) :
    (dayOfYear n : Int) = n - daysBeforeYear (yearOf n) ∧
      (dayOfYear n : Int) < yearLength (yearOf n) := by
  obtain ⟨low, high⟩ := yearOf_spec n
  have whole : (dayOfYear n : Int) = n - daysBeforeYear (yearOf n) :=
    Int.toNat_of_nonneg (by omega)
  exact ⟨whole, by omega⟩

private theorem ofDays_eq (days : Int) :
    ofDays days =
      let year := yearOf (days + epochDays)
      let day := dayOfYear (days + epochDays)
      ⟨year, monthOf year day 12, day - daysBeforeMonth year (monthOf year day 12) + 1⟩ := rfl

theorem ofDays_year (days : Int) : (ofDays days).year = yearOf (days + epochDays) := rfl

theorem ofDays_isValid (days : Int) : (ofDays days).IsValid := by
  obtain ⟨-, inside⟩ := dayOfYear_eq (days + epochDays)
  obtain ⟨first, last, reached, next⟩ := monthOf_inside _ inside
  rw [ofDays_eq]
  refine ⟨first, last, Nat.le_add_left _ _, ?_⟩
  dsimp only
  omega

theorem toDays_ofDays (days : Int) : (ofDays days).toDays = days := by
  obtain ⟨whole, inside⟩ := dayOfYear_eq (days + epochDays)
  obtain ⟨-, -, reached, -⟩ := monthOf_inside _ inside
  rw [ofDays_eq, toDays]
  dsimp only
  omega

theorem daysBeforeYear_mono {first last : Int} (order : first ≤ last) :
    daysBeforeYear first ≤ daysBeforeYear last := by
  unfold daysBeforeYear
  omega

theorem yearOf_eq {n year : Int} (first : daysBeforeYear year ≤ n)
    (last : n < daysBeforeYear year + yearLength year) : yearOf n = year := by
  obtain ⟨low, high⟩ := yearOf_spec n
  rw [← daysBeforeYear_succ] at last high
  rcases Int.lt_trichotomy (yearOf n) year with early | same | late
  · have before := daysBeforeYear_mono (show yearOf n + 1 ≤ year from early)
    omega
  · exact same
  · have before := daysBeforeYear_mono (show year + 1 ≤ yearOf n from late)
    omega

/-- A month ends before any later one of the year begins. -/
theorem daysBeforeMonth_later (year : Int) {first last : Nat} (some : 1 ≤ first) (order : first < last)
    (most : last ≤ 12) : daysBeforeMonth year first + daysInMonth year first ≤ daysBeforeMonth year last := by
  induction last with
  | zero => exact absurd order (Nat.not_lt_zero _)
  | succ last ih =>
    rcases Nat.lt_or_eq_of_le (Nat.le_of_lt_succ order) with less | same
    · have next := daysBeforeMonth_succ year (Nat.le_trans some (Nat.le_of_lt less)) most
      have before := ih less (Nat.le_of_lt most)
      omega
    · rw [same]
      exact Nat.le_of_eq (daysBeforeMonth_succ year (same ▸ some) most).symm

theorem monthOf_eq (year : Int) {day month : Nat} (inside : (day : Int) < yearLength year)
    (some : 1 ≤ month) (most : month ≤ 12) (first : daysBeforeMonth year month ≤ day)
    (last : day < daysBeforeMonth year month + daysInMonth year month) : monthOf year day 12 = month := by
  obtain ⟨low, high, reached, next⟩ := monthOf_inside year inside
  rcases Nat.lt_trichotomy (monthOf year day 12) month with early | same | late
  · have before := daysBeforeMonth_later year low early most
    omega
  · exact same
  · have before := daysBeforeMonth_later year some late high
    omega

theorem daysBeforeMonth_inYear (year : Int) {month : Nat} (some : 1 ≤ month) (most : month ≤ 12) :
    (daysBeforeMonth year month + daysInMonth year month : Int) ≤ yearLength year := by
  rw [← daysBeforeMonth_last]
  rcases Nat.lt_or_eq_of_le most with less | same
  · have before := daysBeforeMonth_later year some less (Nat.le_refl 12)
    omega
  · rw [same]

/-- A day that its month has is the day that its count belongs to. -/
theorem ofDays_toDays {d : Date} (valid : d.IsValid) : ofDays d.toDays = d := by
  obtain ⟨year, month, day⟩ := d
  obtain ⟨firstMonth, lastMonth, firstDay, lastDay⟩ := valid
  dsimp only at firstMonth lastMonth firstDay lastDay
  have whole := daysBeforeMonth_inYear year firstMonth lastMonth
  have count : toDays ⟨year, month, day⟩ + epochDays =
      daysBeforeYear year + daysBeforeMonth year month + (day - 1 : Nat) := Int.sub_add_cancel _ _
  have inYear : yearOf (toDays ⟨year, month, day⟩ + epochDays) = year :=
    yearOf_eq (by omega) (by omega)
  have place : (toDays ⟨year, month, day⟩ + epochDays - daysBeforeYear year).toNat =
      daysBeforeMonth year month + (day - 1) := by omega
  have inMonth : monthOf year (daysBeforeMonth year month + (day - 1)) 12 = month :=
    monthOf_eq year (by omega) firstMonth lastMonth (by omega) (by omega)
  simp only [ofDays, inYear, place, inMonth, Nat.add_sub_cancel_left, Nat.sub_add_cancel firstDay]

/-- The days that their months have are the days that are counted. -/
theorem isValid_iff_counted {d : Date} : d.IsValid ↔ ∃ days, ofDays days = d := by
  constructor
  · exact fun valid => ⟨d.toDays, ofDays_toDays valid⟩
  · rintro ⟨days, rfl⟩
    exact ofDays_isValid days

end ParishSite.Time.Date
