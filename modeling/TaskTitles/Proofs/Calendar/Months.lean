import TaskTitles.Calendar.Timestamp
import TaskTitles.Proofs.Calendar.Ordinals
import TaskTitles.Proofs.Results

/-!
# Months in a row

Months are numbered through all years, so that shifting a date by months adds to the number of its
month (`addMonths_eq_ok`) and keeps the order of dates (`addMonths_mono`).  The first days of
consecutive months lie 28 to 31 days apart (`monthStart_add_bounds`), which bounds how far a shift by
months can lead.  What a shift by days or months comes to, or a day of the month, is told by ordinals
and months alone (`addDays_eq_ok_iff`, `addMonths_eq_ok_iff`, `withDayOfMonth_eq_ok_iff`).
-/

namespace TaskTitles.Calendar

/-- The ordinal of the first day of a month, where months are counted from the start of year 0. -/
def monthStart (index : Int) : Int :=
  daysBeforeYear (index / 12) + daysBeforeMonth (index / 12) (index % 12 + 1)

theorem monthStart_succ (index : Int) :
    monthStart (index + 1) = monthStart index + monthLength (index / 12) (index % 12 + 1) := by
  simp only [monthStart]
  -- Only after December does the year change.
  by_cases december : index % 12 = 11
  · have year : (index + 1) / 12 = index / 12 + 1 := by omega
    have month : (index + 1) % 12 = 0 := by omega
    rw [year, month, december, daysBeforeYear_succ, yearLength_eq, Int.zero_add,
      daysBeforeMonth_one, Int.add_zero]
    exact (Int.add_assoc _ _ _).symm
  · have year : (index + 1) / 12 = index / 12 := by omega
    have month : (index + 1) % 12 = index % 12 + 1 := by omega
    rw [year, month, daysBeforeMonth_succ (by omega) (by omega), Int.add_assoc]

theorem monthStart_twelve_mul (year : Int) : monthStart (12 * year) = daysBeforeYear year := by
  have division : 12 * year / 12 = year := by omega
  have january : 12 * year % 12 = 0 := by omega
  rw [monthStart, division, january, Int.zero_add, daysBeforeMonth_one, Int.add_zero]

theorem monthStart_add_bounds (index : Int) (months : Nat) :
    monthStart index + 28 * months ≤ monthStart (index + months) ∧
      monthStart (index + months) ≤ monthStart index + 31 * months := by
  induction months with
  | zero => simp
  | succ months ih =>
    have step := monthStart_succ (index + months)
    have length := monthLength_bounds ((index + months) / 12) ((index + months) % 12 + 1)
    have next : index + (months + 1 : Nat) = index + months + 1 := by omega
    rw [next]
    omega

theorem monthStart_mono {index other : Int} (le : index ≤ other) :
    monthStart index ≤ monthStart other := by
  obtain ⟨months, rfl⟩ := Int.le.dest le
  have bounds := monthStart_add_bounds index months
  omega

theorem monthStart_strictMono {index other : Int} (lt : index < other) :
    monthStart index < monthStart other := by
  have step := monthStart_succ index
  have length := monthLength_bounds (index / 12) (index % 12 + 1)
  have next := monthStart_mono (Int.add_one_le_of_lt lt)
  omega

namespace Date

def monthIndex (d : Date) : Int := 12 * d.year + d.month - 1

/-- The number of its month tells the year and the month of a date. -/
theorem monthIndex_parts (d : Date) :
    d.monthIndex / 12 = d.year ∧ d.monthIndex % 12 + 1 = d.month := by
  have valid := d.isDate
  simp only [IsDate] at valid
  simp only [monthIndex]
  omega

theorem ordinal_eq (d : Date) : d.ordinal = monthStart d.monthIndex + d.day - 1 := by
  obtain ⟨year, month⟩ := d.monthIndex_parts
  rw [ordinal, monthStart, year, month]

theorem monthIndex_range (d : Date) : 12 ≤ d.monthIndex ∧ d.monthIndex < 120000 := by
  have valid := d.isDate
  simp only [IsDate, maxYear] at valid
  simp only [monthIndex]
  omega

theorem monthStart_next (d : Date) :
    monthStart (d.monthIndex + 1) = monthStart d.monthIndex + monthLength d.year d.month := by
  obtain ⟨year, month⟩ := d.monthIndex_parts
  rw [monthStart_succ, year, month]

/-- A date lies in its month. -/
theorem ordinal_mem_month (d : Date) :
    monthStart d.monthIndex ≤ d.ordinal ∧ d.ordinal < monthStart (d.monthIndex + 1) := by
  have valid := d.isDate
  simp only [IsDate] at valid
  rw [d.ordinal_eq, d.monthStart_next]
  omega

/-- The year of a date is told by its ordinal. -/
theorem year_le_iff {d : Date} {year : Int} :
    d.year ≤ year ↔ d.ordinal < daysBeforeYear (year + 1) := by
  have valid := d.isDate
  simp only [IsDate] at valid
  obtain ⟨low, high⟩ := d.ordinal_mem_month
  have start := monthStart_twelve_mul (year + 1)
  constructor
  · intro notLater
    have next : monthStart (d.monthIndex + 1) ≤ monthStart (12 * (year + 1)) := by
      apply monthStart_mono
      simp only [monthIndex]
      omega
    omega
  · intro before
    by_contra later
    have next : monthStart (12 * (year + 1)) ≤ monthStart d.monthIndex := by
      apply monthStart_mono
      simp only [monthIndex]
      omega
    omega

theorem ordinal_range (d : Date) : 0 ≤ d.ordinal ∧ d.ordinal ≤ lastOrdinal := by
  obtain ⟨first, last⟩ := d.monthIndex_range
  obtain ⟨low, high⟩ := d.ordinal_mem_month
  have start : monthStart 12 = 0 := by decide
  have stop : monthStart 120000 = lastOrdinal + 1 := by decide
  have notBefore := monthStart_mono first
  have notAfter := monthStart_mono (Int.add_one_le_of_lt last)
  omega

theorem month_eq_of_monthIndex_eq {d e : Date} (index : d.monthIndex = e.monthIndex) :
    d.year = e.year ∧ d.month = e.month := by
  obtain ⟨yearD, monthD⟩ := d.monthIndex_parts
  obtain ⟨yearE, monthE⟩ := e.monthIndex_parts
  rw [← yearD, ← yearE, ← monthD, ← monthE, index]
  exact ⟨rfl, rfl⟩

theorem eq_of_monthIndex_eq {d e : Date} (index : d.monthIndex = e.monthIndex)
    (day : d.day = e.day) : d = e := by
  obtain ⟨year, month⟩ := month_eq_of_monthIndex_eq index
  cases d
  cases e
  dsimp only at year month day
  subst year month day
  rfl

/-- Of two dates in different months, the one in the earlier month is the earlier one. -/
theorem ordinal_lt_of_monthIndex_lt {d e : Date} (before : d.monthIndex < e.monthIndex) :
    d.ordinal < e.ordinal := by
  have apart := monthStart_mono (Int.add_one_le_of_lt before)
  obtain ⟨-, highD⟩ := d.ordinal_mem_month
  obtain ⟨lowE, -⟩ := e.ordinal_mem_month
  omega

/-- Dates come in the order of their months, and in a month in the order of their days. -/
theorem le_iff {d e : Date} :
    d ≤ e ↔ d.monthIndex < e.monthIndex ∨ d.monthIndex = e.monthIndex ∧ d.day ≤ e.day := by
  change d.ordinal ≤ e.ordinal ↔ _
  rcases Int.lt_trichotomy d.monthIndex e.monthIndex with before | equal | after
  · exact iff_of_true (Int.le_of_lt (ordinal_lt_of_monthIndex_lt before)) (.inl before)
  · rw [d.ordinal_eq, e.ordinal_eq, equal]
    omega
  · have later := ordinal_lt_of_monthIndex_lt after
    omega

/-- Dates of different months lie apart, and dates of one month differ in their days. -/
theorem ordinal_injective : Function.Injective ordinal := by
  intro d e same
  have index : d.monthIndex = e.monthIndex := by
    rcases Int.lt_trichotomy d.monthIndex e.monthIndex with before | equal | after
    · exact absurd same (Int.ne_of_lt (ordinal_lt_of_monthIndex_lt before))
    · exact equal
    · exact absurd same.symm (Int.ne_of_lt (ordinal_lt_of_monthIndex_lt after))
  refine eq_of_monthIndex_eq index ?_
  rw [d.ordinal_eq, e.ordinal_eq, index] at same
  omega

/-- The date of an ordinal is the only one that has it. -/
theorem ofOrdinal_ordinal (d : Date) : ofOrdinal d.ordinal = .ok d := by
  obtain ⟨first, last⟩ := d.ordinal_range
  obtain ⟨found, ofOrdinal, same⟩ := ofOrdinal_eq_ok first last
  rw [ofOrdinal, ordinal_injective same]

/-- An ordinal has a date only if it is the ordinal of that date. -/
theorem ofOrdinal_eq_ok_iff {n : Int} {d : Date} : ofOrdinal n = .ok d ↔ d.ordinal = n := by
  constructor
  · intro found
    obtain ⟨year, -, -⟩ := of_make_eq_ok found
    obtain ⟨low, high⟩ := yearOfOrdinal_bounds n
    rw [← year] at low high
    -- The years of dates begin with the first ordinal and end with the last one.
    have valid := d.isDate
    simp only [IsDate, maxYear] at valid
    simp only [daysBeforeYear] at low high
    have first : 0 ≤ n := by omega
    have last : n ≤ lastOrdinal := by unfold lastOrdinal; omega
    obtain ⟨e, foundE, same⟩ := ofOrdinal_eq_ok first last
    rw [found] at foundE
    cases foundE
    exact same
  · rintro rfl
    exact d.ofOrdinal_ordinal

theorem addDays_eq_ok_iff {d e : Date} {days : Int} :
    d.addDays days = .ok e ↔ e.ordinal = d.ordinal + days := by
  rw [addDays_eq_ok_iff_ofOrdinal, ofOrdinal_eq_ok_iff]

/-! ## Shifting dates -/

theorem checkYear_eq_ok_iff {year : Int} : checkYear year = .ok () ↔ 1 ≤ year ∧ year ≤ maxYear := by
  simp only [checkYear]
  split
  · split <;> simp_all
  · next tooLarge =>
    simp only [machineLimit] at tooLarge
    simp only [maxYear, reduceCtorEq, false_iff]
    omega

/-- Shifting by months adds to the number of the month, as long as the years have dates. -/
theorem addMonths_eq_ok {d : Date} {months : Int} (first : 12 ≤ d.monthIndex + months)
    (last : d.monthIndex + months < 120000) :
    ∃ shifted, d.addMonths months = .ok shifted ∧
      shifted.monthIndex = d.monthIndex + months ∧
      shifted.day = min d.day (monthLength shifted.year shifted.month) := by
  obtain ⟨year, yearEq⟩ : ∃ year, d.year + (d.month - 1 + months) / 12 = year := ⟨_, rfl⟩
  obtain ⟨month, monthEq⟩ : ∃ month, (d.month - 1 + months) % 12 + 1 = month := ⟨_, rfl⟩
  have dated := d.isDate
  have length := monthLength_bounds year month
  simp only [monthIndex] at first last
  have valid : IsDate year month (min d.day (monthLength year month)) := by
    simp only [IsDate, maxYear] at *
    omega
  have inYears : checkYear year = .ok () := checkYear_eq_ok_iff.2 ⟨valid.1, valid.2.1⟩
  refine ⟨⟨_, _, _, valid⟩, ?_, ?_, rfl⟩
  · unfold addMonths
    dsimp only
    rw [yearEq, monthEq]
    simp only [clamped]
    rw [inYears, make_eq_ok valid]
    rfl
  · dsimp only [monthIndex]
    omega

/-- Shifting by months adds to the number of the month and clamps the day, and where no date has
    that month there is no result. -/
theorem addMonths_eq_ok_iff {d e : Date} {months : Int} :
    d.addMonths months = .ok e ↔
      e.monthIndex = d.monthIndex + months ∧ e.day = min d.day (monthLength e.year e.month) := by
  constructor
  · intro found
    simp only [addMonths, clamped] at found
    obtain ⟨-, -, made⟩ := exists_of_bind_eq_ok found
    obtain ⟨year, month, day⟩ := of_make_eq_ok made
    refine ⟨?_, ?_⟩
    · simp only [monthIndex]
      omega
    · rw [year, month, day]
  · rintro ⟨index, day⟩
    obtain ⟨first, last⟩ := e.monthIndex_range
    rw [index] at first last
    obtain ⟨shifted, found, sameIndex, sameDay⟩ := addMonths_eq_ok first last
    rw [← index] at sameIndex
    obtain ⟨year, month⟩ := month_eq_of_monthIndex_eq sameIndex
    rw [year, month, ← day] at sameDay
    rw [found, eq_of_monthIndex_eq sameIndex sameDay]

/-- Clamping the day may bring two dates together, but never puts them out of order. -/
theorem addMonths_mono {d e d' e' : Date} {months : Int} (le : d ≤ e)
    (shifted : d.addMonths months = .ok d') (shiftedE : e.addMonths months = .ok e') : d' ≤ e' := by
  obtain ⟨index, day⟩ := addMonths_eq_ok_iff.1 shifted
  obtain ⟨indexE, dayE⟩ := addMonths_eq_ok_iff.1 shiftedE
  rw [le_iff] at le ⊢
  rcases le with before | ⟨equal, dayLe⟩
  · exact .inl (by omega)
  · -- In one month both days are cut down to the same length.
    have same : d'.monthIndex = e'.monthIndex := by omega
    obtain ⟨year, month⟩ := month_eq_of_monthIndex_eq same
    rw [year, month] at day
    exact .inr ⟨same, by omega⟩

/-- The day of the month counts on from the first day of the month, whether or not the month has
    so many days. -/
theorem withDayOfMonth_eq_ok_iff {d e : Date} {dayOfMonth : Int} :
    d.withDayOfMonth dayOfMonth = .ok e ↔ e.ordinal = monthStart d.monthIndex + dayOfMonth - 1 := by
  have start := d.ordinal_eq
  rw [withDayOfMonth, addDays_eq_ok_iff]
  omega

end Date

end TaskTitles.Calendar
