import TaskTitles.Proofs.Calendar.Timestamps

/-!
# Noons of days in a row

Dates come in the order of their years, months and days (`lt_iff_isBefore`), and each is followed by
the next day of its month or by the first day of the next month (`isNextDay_iff`).  Noons follow in
the same order, 86400 seconds apart from one day to the next, and the half days on both sides of a
noon belong to its date (`date_eq_ok_iff_near_noon`).  So dates and their noons stand for each other
(`noon_stands_for_date`).
-/

namespace TaskTitles.Calendar

namespace Date

variable {d e : Date}

/-- The date comes before the other one, year by year, month by month and day by day. -/
def IsBefore (d e : Date) : Prop :=
  d.year < e.year ∨ d.year = e.year ∧ (d.month < e.month ∨ d.month = e.month ∧ d.day < e.day)

theorem lt_iff_isBefore : d < e ↔ d.IsBefore e := by
  have validD := d.isDate
  have validE := e.isDate
  simp only [IsDate] at validD validE
  have order : d < e ↔ ¬ e ≤ d := Int.not_le.symm
  simp only [order, le_iff, IsBefore, monthIndex]
  omega

/-- The day after a date: the next day of its month, or the first day of the next month. -/
inductive IsNextDay (d e : Date) : Prop where
  | inMonth (year : e.year = d.year) (month : e.month = d.month) (day : e.day = d.day + 1)
  | inYear (last : d.day = monthLength d.year d.month) (year : e.year = d.year)
      (month : e.month = d.month + 1) (first : e.day = 1)
  | newYear (december : d.month = 12) (last : d.day = 31) (year : e.year = d.year + 1)
      (january : e.month = 1) (first : e.day = 1)

theorem ordinal_of_first (last : d.day = monthLength d.year d.month)
    (index : e.monthIndex = d.monthIndex + 1) (first : e.day = 1) : e.ordinal = d.ordinal + 1 := by
  have next := d.monthStart_next
  rw [d.ordinal_eq, e.ordinal_eq, index]
  omega

/-- If the next ordinal lies in a later month, that month is the next one and the day its first. -/
theorem isNextDay_of_monthIndex_lt (later : d.monthIndex < e.monthIndex)
    (next : e.ordinal = d.ordinal + 1) : d.IsNextDay e := by
  obtain ⟨-, inMonth⟩ := d.ordinal_mem_month
  obtain ⟨notBefore, -⟩ := e.ordinal_mem_month
  have index : e.monthIndex = d.monthIndex + 1 := by
    by_contra other
    have beyond : d.monthIndex + 1 < e.monthIndex := by omega
    have apart := monthStart_strictMono beyond
    omega
  have length := d.monthStart_next
  have ordinalD := d.ordinal_eq
  have ordinalE := e.ordinal_eq
  rw [index] at notBefore ordinalE
  have first : e.day = 1 := by omega
  have last : d.day = monthLength d.year d.month := by omega
  obtain ⟨yearD, monthD⟩ := d.monthIndex_parts
  obtain ⟨yearE, monthE⟩ := e.monthIndex_parts
  by_cases december : d.month = 12
  · rw [december] at last
    exact .newYear december last (by omega) (by omega) first
  · exact .inYear last (by omega) (by omega) first

theorem isNextDay_iff : d.IsNextDay e ↔ e.ordinal = d.ordinal + 1 := by
  constructor
  · intro next
    cases next with
    | inMonth year month day =>
      have index : e.monthIndex = d.monthIndex := by rw [monthIndex, year, month]; rfl
      rw [d.ordinal_eq, e.ordinal_eq, index]
      omega
    | inYear last year month first =>
      refine ordinal_of_first last ?_ first
      simp only [monthIndex]
      omega
    | newYear december last year january first =>
      have length : monthLength d.year d.month = 31 := by rw [december]; rfl
      refine ordinal_of_first (last.trans length.symm) ?_ first
      simp only [monthIndex]
      omega
  · intro next
    have notBefore : d ≤ e := by
      change d.ordinal ≤ e.ordinal
      omega
    rcases le_iff.1 notBefore with later | ⟨index, -⟩
    · exact isNextDay_of_monthIndex_lt later next
    · obtain ⟨year, month⟩ := month_eq_of_monthIndex_eq index
      rw [d.ordinal_eq, e.ordinal_eq, index] at next
      exact .inMonth year.symm month.symm (by omega)

end Date

namespace Timestamp

/-! ## Noons -/

/-- The day of a noon reaches half a day to both of its sides. -/
theorem date_eq_ok_iff_near_noon {v : Int} {d : Date} :
    date v = .ok d ↔ noon d - 43200 ≤ v ∧ v < noon d + 43200 := by
  rw [date_eq_ok_iff]
  change v / 86400 + 719162 = d.ordinal ↔
    (d.ordinal - 719162) * 86400 + 43200 - 43200 ≤ v ∧
      v < (d.ordinal - 719162) * 86400 + 43200 + 43200
  omega

theorem noon_eq_add_day_iff {d e : Date} : noon e = noon d + 86400 ↔ d.IsNextDay e := by
  rw [Date.isNextDay_iff]
  change (e.ordinal - 719162) * 86400 + 43200 = (d.ordinal - 719162) * 86400 + 43200 + 86400 ↔
    e.ordinal = d.ordinal + 1
  omega

theorem noon_emod (d : Date) : noon d % 86400 = 43200 := by
  change ((d.ordinal - 719162) * 86400 + 43200) % 86400 = 43200
  omega

/-- A noon is never blank and has the date that it was made from.  Noons have the order of their
    dates and follow each other at 86400 seconds, and the time stamps of the calendar are those that
    lie in the half days around just one noon, which is the noon of their date. -/
theorem noon_stands_for_date :
    (∀ d, date (noon d) = .ok d ∧ noon d % 86400 = 43200 ∧ noon d ≠ blank) ∧
      (∀ d e, noon d < noon e ↔ d.IsBefore e) ∧
      (∀ d e, noon e = noon d + 86400 ↔ d.IsNextDay e) ∧
      ∀ v : Int, IsDated v ↔ ∃ d, date v = .ok d ∧
        ∀ e, noon e - 43200 ≤ v ∧ v < noon e + 43200 ↔ e = d := by
  refine ⟨fun d => ⟨date_noon d, noon_emod d, noon_ne_blank d⟩,
    fun d e => noon_lt_noon_iff.trans Date.lt_iff_isBefore, fun d e => noon_eq_add_day_iff,
    fun v => ?_⟩
  rw [isDated_iff]
  refine exists_congr fun d => ⟨fun dated => ⟨dated, fun e => ?_⟩, And.left⟩
  rw [← date_eq_ok_iff_near_noon, dated, Except.ok.injEq, eq_comm]

/-- The last second before the time stamps start belongs to the day before. -/
example : date (-1) = .ok ⟨1969, 12, 31, by decide⟩ ∧ noon ⟨1970, 1, 1, by decide⟩ = 43200 := by
  decide +kernel

end Timestamp

end TaskTitles.Calendar
