import TaskTitles.Almanac.Placeholder
import TaskTitles.Proofs.Calendar.Months

/-!
# Placeholders and their months

A placeholder is a day of a month that lies as many months ahead as its context says, and there is one
exactly if the calendar has that month and that day (`placeholder_eq_ok_iff`).  So it depends on
today's month alone, and moves on with every month (`placeholder_follows_month`).  Conventions that
leave no placeholder in the current month, and none before that of a next action without context,
place all of them after today (`Conventions.PlacesAhead`).
-/

namespace TaskTitles

open Calendar

/-- Every placeholder lies in a month to come, and none comes before that of a next action without
    context. -/
structure Conventions.PlacesAhead (conventions : Conventions) : Prop where
  offset_pos : 1 ≤ conventions.dates.defaultMonthOffset
  offset_work : conventions.dates.defaultMonthOffset ≤ conventions.dates.workMonthOffset
  offset_notes : conventions.dates.defaultMonthOffset ≤ conventions.dates.notesMonthOffset
  day_pos : 1 ≤ conventions.status.placeholderDay .nextAction
  day_first : ∀ status, conventions.status.placeholderDay .nextAction ≤
    conventions.status.placeholderDay status

namespace Almanac

/-! ## Noons -/

def noonOf (ordinal : Int) : Timestamp :=
  (ordinal - Timestamp.epochOrdinal) * Timestamp.daySeconds + Timestamp.noonSeconds

theorem noon_eq (d : Date) : Timestamp.noon d = noonOf d.ordinal := rfl

theorem noonOf_lt_noonOf_iff {m n : Int} : noonOf m < noonOf n ↔ m < n := by
  change (m - 719162) * 86400 + 43200 < (n - 719162) * 86400 + 43200 ↔ m < n
  omega

theorem noonOf_le_noonOf {m n : Int} (le : m ≤ n) : noonOf m ≤ noonOf n :=
  Int.not_lt.1 fun lt => Int.not_lt.2 le (noonOf_lt_noonOf_iff.1 lt)

/-! ## The day of a placeholder -/

section Placeholders

variable {almanac : Almanac} {name : Option Text} {status : Status}

/-- The ordinal that a placeholder has if the calendar reaches so far. -/
def placeholderOrdinal (almanac : Almanac) (name : Option Text) (status : Status) : Int :=
  monthStart (almanac.today.monthIndex + almanac.monthOffset name)
    + almanac.conventions.status.placeholderDay status - 1

theorem placeholder_eq_ok_iff {v : Timestamp} :
    almanac.placeholder name status = .ok v ↔
      (12 ≤ almanac.today.monthIndex + almanac.monthOffset name ∧
        almanac.today.monthIndex + almanac.monthOffset name < 120000) ∧
      (0 ≤ almanac.placeholderOrdinal name status ∧
        almanac.placeholderOrdinal name status ≤ Date.lastOrdinal) ∧
      v = noonOf (almanac.placeholderOrdinal name status) := by
  constructor
  · intro found
    obtain ⟨shifted, monthFound, found⟩ := exists_of_bind_eq_ok found
    obtain ⟨moved, dayFound, found⟩ := exists_of_bind_eq_ok found
    obtain ⟨index, -⟩ := Date.addMonths_eq_ok_iff.1 monthFound
    have ordinal := Date.withDayOfMonth_eq_ok_iff.1 dayFound
    rw [index] at ordinal
    -- Both steps have come to dates, and dates lie in the calendar.
    have inMonths := shifted.monthIndex_range
    rw [index] at inMonths
    have inDays := moved.ordinal_range
    rw [ordinal] at inDays
    refine ⟨inMonths, inDays, ?_⟩
    cases found
    rw [noon_eq, ordinal]
    rfl
  · rintro ⟨⟨firstMonth, lastMonth⟩, ⟨firstDay, lastDay⟩, rfl⟩
    obtain ⟨shifted, monthFound, index, -⟩ := Date.addMonths_eq_ok firstMonth lastMonth
    obtain ⟨moved, -, ordinal⟩ := Date.ofOrdinal_eq_ok firstDay lastDay
    have dayFound : shifted.withDayOfMonth (almanac.conventions.status.placeholderDay status) =
        .ok moved := by
      rw [Date.withDayOfMonth_eq_ok_iff, index]
      exact ordinal
    rw [placeholder, monthFound, ok_bind]
    dsimp only
    rw [dayFound, ok_bind, noon_eq, ordinal]
    rfl

end Placeholders

/-! ## From month to month -/

section Months

variable {conventions : Conventions} {name : Option Text} {status : Status} {d e : Date}

theorem placeholder_congr (index : d.monthIndex = e.monthIndex) {v : Timestamp} :
    (Almanac.mk conventions d).placeholder name status = .ok v ↔
      (Almanac.mk conventions e).placeholder name status = .ok v := by
  have offset : (Almanac.mk conventions d).monthOffset name =
      (Almanac.mk conventions e).monthOffset name := rfl
  rw [placeholder_eq_ok_iff, placeholder_eq_ok_iff, placeholderOrdinal, placeholderOrdinal, offset]
  dsimp only
  rw [index]

theorem placeholderOrdinal_lt (before : d.monthIndex < e.monthIndex) :
    (Almanac.mk conventions d).placeholderOrdinal name status <
      (Almanac.mk conventions e).placeholderOrdinal name status := by
  have offset : (Almanac.mk conventions d).monthOffset name =
      (Almanac.mk conventions e).monthOffset name := rfl
  have later : monthStart (d.monthIndex + (Almanac.mk conventions e).monthOffset name) <
      monthStart (e.monthIndex + (Almanac.mk conventions e).monthOffset name) :=
    monthStart_strictMono (by omega)
  rw [placeholderOrdinal, placeholderOrdinal, offset]
  dsimp only
  omega

/-- On all days of a month a task has the same placeholder, and in a later month a later one. -/
theorem placeholder_follows_month (conventions : Conventions) (name : Option Text)
    (status : Status) (d e : Date) :
    (d.year = e.year → d.month = e.month → ∀ v,
      (Almanac.mk conventions d).placeholder name status = .ok v ↔
        (Almanac.mk conventions e).placeholder name status = .ok v) ∧
    ((d.year < e.year ∨ d.year = e.year ∧ d.month < e.month) → ∀ v w,
      (Almanac.mk conventions d).placeholder name status = .ok v →
        (Almanac.mk conventions e).placeholder name status = .ok w → v < w) := by
  have validD := d.isDate
  have validE := e.isDate
  simp only [IsDate] at validD validE
  refine ⟨fun year month v => ?_, fun earlier v w foundV foundW => ?_⟩
  · apply placeholder_congr
    simp only [Date.monthIndex]
    omega
  · have before : d.monthIndex < e.monthIndex := by
      simp only [Date.monthIndex]
      omega
    obtain ⟨-, -, rfl⟩ := placeholder_eq_ok_iff.1 foundV
    obtain ⟨-, -, rfl⟩ := placeholder_eq_ok_iff.1 foundW
    exact noonOf_lt_noonOf_iff.2 (placeholderOrdinal_lt before)

/-- All days of a leap February share the placeholder on day 45 of a December, and the day after them
    has that on day 45 of a January. -/
theorem placeholder_follows_month_leap :
    let conventions : Conventions :=
      { dates := { defaultMonthOffset := -14 }, status := { placeholderDays := [("HOLD", 45)] } }
    (Almanac.mk conventions ⟨2024, 2, 1, by decide⟩).placeholder none .hold = .ok 1673697600 ∧
      (Almanac.mk conventions ⟨2024, 2, 29, by decide⟩).placeholder none .hold = .ok 1673697600 ∧
      (Almanac.mk conventions ⟨2024, 3, 1, by decide⟩).placeholder none .hold = .ok 1676376000 ∧
      (1673697600 : Timestamp) < 1676376000 := by
  intro conventions
  have first : (Almanac.mk conventions ⟨2024, 2, 1, by decide⟩).placeholder none .hold =
      .ok 1673697600 := by decide +kernel
  have next : (Almanac.mk conventions ⟨2024, 3, 1, by decide⟩).placeholder none .hold =
      .ok 1676376000 := by decide +kernel
  obtain ⟨same, -⟩ := placeholder_follows_month conventions none .hold
    ⟨2024, 2, 1, by decide⟩ ⟨2024, 2, 29, by decide⟩
  obtain ⟨-, later⟩ := placeholder_follows_month conventions none .hold
    ⟨2024, 2, 1, by decide⟩ ⟨2024, 3, 1, by decide⟩
  exact ⟨first, (same rfl rfl _).1 first, next, later (.inr ⟨rfl, by decide⟩) _ _ first next⟩

end Months

/-! ## Placeholders after today -/

section Ahead

variable {almanac : Almanac} (ahead : almanac.conventions.PlacesAhead) (name : Option Text)
  (status : Status)

include ahead

theorem defaultMonthOffset_le_monthOffset :
    almanac.conventions.dates.defaultMonthOffset ≤ almanac.monthOffset name := by
  unfold monthOffset
  dsimp only
  split
  · exact ahead.offset_work
  · split
    · exact ahead.offset_notes
    · exact Int.le_refl _

theorem today_lt_placeholderOrdinal :
    almanac.today.ordinal < almanac.placeholderOrdinal name status := by
  have offset := defaultMonthOffset_le_monthOffset ahead name
  have pos := ahead.offset_pos
  have day := ahead.day_first status
  have dayPos := ahead.day_pos
  have inMonth := almanac.today.ordinal_mem_month
  have later : monthStart (almanac.today.monthIndex + 1) ≤
      monthStart (almanac.today.monthIndex + almanac.monthOffset name) :=
    monthStart_mono (by omega)
  unfold placeholderOrdinal
  omega

theorem lowest_le_placeholderOrdinal :
    almanac.placeholderOrdinal none .nextAction ≤ almanac.placeholderOrdinal name status := by
  have lowest : almanac.monthOffset none = almanac.conventions.dates.defaultMonthOffset := rfl
  have offset := defaultMonthOffset_le_monthOffset ahead name
  have day := ahead.day_first status
  have later : monthStart (almanac.today.monthIndex + almanac.monthOffset none) ≤
      monthStart (almanac.today.monthIndex + almanac.monthOffset name) :=
    monthStart_mono (by omega)
  unfold placeholderOrdinal
  omega

/-- A placeholder ahead exists as long as its day is not after the last one of the calendar. -/
theorem placeholder_eq_ok
    (within : almanac.placeholderOrdinal name status ≤ Date.lastOrdinal) :
    almanac.placeholder name status = .ok (noonOf (almanac.placeholderOrdinal name status)) := by
  have offset := defaultMonthOffset_le_monthOffset ahead name
  have pos := ahead.offset_pos
  have day := ahead.day_first status
  have dayPos := ahead.day_pos
  have later := today_lt_placeholderOrdinal ahead name status
  obtain ⟨firstDay, -⟩ := almanac.today.ordinal_range
  obtain ⟨firstMonth, -⟩ := almanac.today.monthIndex_range
  refine placeholder_eq_ok_iff.2 ⟨⟨by omega, ?_⟩, ⟨by omega, within⟩, rfl⟩
  -- A month after the last one starts after the last day.
  by_contra after
  have stop : monthStart 120000 = Date.lastOrdinal + 1 := by decide
  have beyond : monthStart 120000 ≤
      monthStart (almanac.today.monthIndex + almanac.monthOffset name) :=
    monthStart_mono (Int.not_lt.1 after)
  unfold placeholderOrdinal at within
  omega

end Ahead

end Almanac

end TaskTitles
