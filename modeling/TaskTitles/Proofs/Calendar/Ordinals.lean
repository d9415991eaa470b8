import Mathlib.Tactic.IntervalCases
import TaskTitles.Calendar.Date

/-!
# Ordinals and dates

Years and months follow each other without gaps (`daysBeforeYear_succ`, `daysBeforeMonth_succ`), so
every ordinal between the first and the last date is that of a date (`ofOrdinal_eq_ok`), and adding
days adds to the ordinal (`addDays_eq_ok`).
-/

namespace TaskTitles.Calendar

theorem isLeap_iff {year : Int} :
    isLeap year = true ↔ year % 4 = 0 ∧ (year % 100 ≠ 0 ∨ year % 400 = 0) := by
  simp [isLeap]

/-! ## Years -/

def yearLength (year : Int) : Int := if isLeap year then 366 else 365

theorem daysBeforeYear_succ (year : Int) :
    daysBeforeYear (year + 1) = daysBeforeYear year + yearLength year := by
  simp only [daysBeforeYear, yearLength]
  by_cases leap : isLeap year = true
  · have divisible := isLeap_iff.1 leap
    rw [if_pos leap]
    omega
  · have indivisible := mt isLeap_iff.2 leap
    rw [if_neg leap]
    omega

/-- The guess from the average length of a year is at most one year off. -/
theorem yearOfOrdinal_bounds (n : Int) :
    daysBeforeYear (yearOfOrdinal n) ≤ n ∧ n < daysBeforeYear (yearOfOrdinal n + 1) := by
  -- The guess may be the year after the right one, or the year before it.
  have before : daysBeforeYear (400 * n / 146097 + 1 - 1) ≤ n := by
    simp only [daysBeforeYear]
    omega
  have after : n < daysBeforeYear (400 * n / 146097 + 1 + 1 + 1) := by
    simp only [daysBeforeYear]
    omega
  unfold yearOfOrdinal
  dsimp only
  split
  · next early => exact ⟨before, by rwa [Int.sub_add_cancel]⟩
  · next notEarly =>
    split
    · next late => exact ⟨late, after⟩
    · next notLate => exact ⟨Int.not_lt.1 notEarly, Int.not_le.1 notLate⟩

/-! ## Months -/

theorem monthLength_bounds (year month : Int) :
    28 ≤ monthLength year month ∧ monthLength year month ≤ 31 := by
  simp only [monthLength]
  split
  · split <;> omega
  · split <;> omega

theorem daysBeforeMonth_one (year : Int) : daysBeforeMonth year 1 = 0 := by
  simp [daysBeforeMonth]

theorem daysBeforeMonth_succ {year month : Int} (first : 1 ≤ month) (last : month < 12) :
    daysBeforeMonth year (month + 1) = daysBeforeMonth year month + monthLength year month := by
  simp only [daysBeforeMonth, monthLength]
  cases isLeap year <;> interval_cases month <;> simp

theorem yearLength_eq (year : Int) :
    yearLength year = daysBeforeMonth year 12 + monthLength year 12 := by
  simp only [yearLength, daysBeforeMonth, monthLength]
  cases isLeap year <;> simp

/-- The month that `Date.ofOrdinal` computes for a day of the year. -/
def monthOfDay (year dayOfYear : Int) : Int :=
  let skipped := if dayOfYear < daysBeforeMonth year 3 then 0 else if isLeap year then 1 else 2
  (12 * (dayOfYear + skipped) + 373) / 367

theorem monthOfDay_bounds {year dayOfYear : Int} (first : 0 ≤ dayOfYear)
    (last : dayOfYear < yearLength year) :
    1 ≤ monthOfDay year dayOfYear ∧ monthOfDay year dayOfYear ≤ 12 ∧
      daysBeforeMonth year (monthOfDay year dayOfYear) ≤ dayOfYear ∧
      dayOfYear < daysBeforeMonth year (monthOfDay year dayOfYear) +
        monthLength year (monthOfDay year dayOfYear) := by
  obtain ⟨month, equal⟩ : ∃ month, monthOfDay year dayOfYear = month := ⟨_, rfl⟩
  rw [equal]
  simp only [monthOfDay, daysBeforeMonth] at equal
  simp only [yearLength] at last
  -- In a fixed kind of year there are twelve months to look at.
  cases leap : isLeap year with
  | false =>
    simp only [leap, Bool.false_eq_true, if_false] at equal last
    have inYear : 1 ≤ month ∧ month ≤ 12 := by
      split at equal <;> omega
    obtain ⟨low, high⟩ := inYear
    interval_cases month <;> simp [daysBeforeMonth, monthLength, leap] <;>
      split at equal <;> omega
  | true =>
    simp only [leap, if_true] at equal last
    have inYear : 1 ≤ month ∧ month ≤ 12 := by
      split at equal <;> omega
    obtain ⟨low, high⟩ := inYear
    interval_cases month <;> simp [daysBeforeMonth, monthLength, leap] <;>
      split at equal <;> omega

/-! ## Dates -/

namespace Date

/-- The ordinal of 31 December 9999. -/
def lastOrdinal : Int := 3652058

theorem make_eq_ok {year month day : Int} (valid : IsDate year month day) :
    make year month day = .ok ⟨year, month, day, valid⟩ := by
  rw [make, dif_pos valid]

theorem of_make_eq_ok {year month day : Int} {d : Date} (made : make year month day = .ok d) :
    d.year = year ∧ d.month = month ∧ d.day = day := by
  rw [make] at made
  split at made
  · cases made
    exact ⟨rfl, rfl, rfl⟩
  · split at made <;> cases made

/-- The ordinals of dates lie in the years of dates. -/
theorem yearOfOrdinal_range {n : Int} (first : 0 ≤ n) (last : n ≤ lastOrdinal) :
    1 ≤ yearOfOrdinal n ∧ yearOfOrdinal n ≤ maxYear := by
  obtain ⟨low, high⟩ := yearOfOrdinal_bounds n
  -- Naming the year keeps its computation out of the arithmetic below.
  obtain ⟨year, yearEq⟩ : ∃ year, yearOfOrdinal n = year := ⟨_, rfl⟩
  rw [yearEq] at low high ⊢
  simp only [daysBeforeYear] at low high
  simp only [lastOrdinal] at last
  simp only [maxYear]
  omega

theorem ofOrdinal_eq_ok {n : Int} (first : 0 ≤ n) (last : n ≤ lastOrdinal) :
    ∃ d : Date, ofOrdinal n = .ok d ∧ d.ordinal = n := by
  obtain ⟨low, high⟩ := yearOfOrdinal_bounds n
  have inRange := yearOfOrdinal_range first last
  obtain ⟨year, yearEq⟩ : ∃ year, yearOfOrdinal n = year := ⟨_, rfl⟩
  rw [yearEq] at low high inRange
  have inDay : n - daysBeforeYear year < yearLength year := by
    rw [daysBeforeYear_succ] at high
    omega
  obtain ⟨monthLow, monthHigh, dayLow, dayHigh⟩ :=
    monthOfDay_bounds (Int.sub_nonneg_of_le low) inDay
  have valid : IsDate year (monthOfDay year (n - daysBeforeYear year))
      (n - daysBeforeYear year
        - daysBeforeMonth year (monthOfDay year (n - daysBeforeYear year)) + 1) :=
    ⟨inRange.1, inRange.2, monthLow, monthHigh, by omega, by omega⟩
  refine ⟨⟨_, _, _, valid⟩, ?_, ?_⟩
  · rw [← make_eq_ok valid, ofOrdinal, yearEq]
    rfl
  · dsimp only [ordinal]
    omega

theorem addDays_eq_ok_iff_ofOrdinal {d e : Date} {days : Int} :
    d.addDays days = .ok e ↔ ofOrdinal (d.ordinal + days) = .ok e := by
  unfold addDays
  generalize ofOrdinal (d.ordinal + days) = found
  cases found with
  | ok shifted => rfl
  | error cause => simp

/-- Adding days adds to the ordinal, as long as the range of dates is not left. -/
theorem addDays_eq_ok {d : Date} {days : Int} (first : 0 ≤ d.ordinal + days)
    (last : d.ordinal + days ≤ lastOrdinal) :
    ∃ shifted, d.addDays days = .ok shifted ∧ shifted.ordinal = d.ordinal + days := by
  obtain ⟨shifted, found, equal⟩ := ofOrdinal_eq_ok first last
  exact ⟨shifted, addDays_eq_ok_iff_ofOrdinal.2 found, equal⟩

end Date

end TaskTitles.Calendar
