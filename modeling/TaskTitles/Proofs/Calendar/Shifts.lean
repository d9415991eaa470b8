import TaskTitles.Proofs.Calendar.Years

/-!
# Shifting by months

A shift by months leads to the month that lies so many months on, with the day cut down to the length
of that month, and fails exactly where no date lies in the year of that month; what the failure is
depends on whether a machine integer holds the year (`addMonths_eq_error_iff`).  Two shifts in a row
lead to the month of one shift, and to its day or an earlier one (`addMonths_addMonths`).
-/

namespace TaskTitles.Calendar.Date

variable {d e : Date} {months more : Int}

/-- The year of the month that lies that many months after the month of the date. -/
def yearAfter (d : Date) (months : Int) : Int := (d.monthIndex + months) / 12

/-- The years that a machine integer of 32 bits holds. -/
def IsMachineYear (year : Int) : Prop := -machineLimit ≤ year ∧ year < machineLimit

instance (year : Int) : Decidable (IsMachineYear year) := by unfold IsMachineYear; infer_instance

/-! ## Results -/

theorem isYear_yearAfter_iff :
    IsYear (d.yearAfter months) ↔ 12 ≤ d.monthIndex + months ∧ d.monthIndex + months < 120000 := by
  simp only [IsYear, maxYear, yearAfter]
  omega

theorem exists_addMonths (inYears : IsYear (d.yearAfter months)) :
    ∃ e, d.addMonths months = .ok e ∧ e.monthIndex = d.monthIndex + months ∧
      e.day = min d.day (monthLength e.year e.month) := by
  obtain ⟨first, last⟩ := isYear_yearAfter_iff.1 inYears
  exact addMonths_eq_ok first last

theorem yearAfter_of_addMonths (shifted : d.addMonths months = .ok e) :
    e.yearAfter more = d.yearAfter (months + more) := by
  obtain ⟨index, -⟩ := addMonths_eq_ok_iff.1 shifted
  rw [yearAfter, yearAfter, index, Int.add_assoc]

/-- The day may get cut down in the month between, and then stays so. -/
theorem addMonths_addMonths {shifted direct : Date} (first : d.addMonths months = .ok e)
    (second : e.addMonths more = .ok shifted) (whole : d.addMonths (months + more) = .ok direct) :
    shifted.monthIndex = direct.monthIndex ∧ shifted.day ≤ direct.day ∧
      (d.day ≤ 28 → shifted = direct) := by
  obtain ⟨index, day⟩ := addMonths_eq_ok_iff.1 first
  obtain ⟨shiftedIndex, shiftedDay⟩ := addMonths_eq_ok_iff.1 second
  obtain ⟨directIndex, directDay⟩ := addMonths_eq_ok_iff.1 whole
  have same : shifted.monthIndex = direct.monthIndex := by omega
  obtain ⟨year, month⟩ := month_eq_of_monthIndex_eq same
  rw [year, month] at shiftedDay
  refine ⟨same, by omega, fun early => eq_of_monthIndex_eq same ?_⟩
  -- Every month has 28 days.
  have length := monthLength_bounds e.year e.month
  omega

/-! ## Failures -/

theorem checkYear_eq (year : Int) :
    checkYear year =
      if IsYear year then .ok ()
      else .error (if IsMachineYear year then .yearOutOfRange year else .overflow) := by
  by_cases inYears : IsYear year
  · rw [if_pos inYears]
    exact checkYear_eq_ok_iff.2 inYears
  · have outside : ¬ (1 ≤ year ∧ year ≤ maxYear) := inYears
    rw [if_neg inYears, checkYear, if_neg outside]
    by_cases held : IsMachineYear year
    · rw [if_pos held]
      exact if_pos held
    · rw [if_neg held]
      exact if_neg held

/-- A shift fails where no date lies in the year, and for no other reason. -/
theorem addMonths_eq_error_iff {cause : CalendarError} :
    d.addMonths months = .error cause ↔ ¬ IsYear (d.yearAfter months) ∧
      cause = if IsMachineYear (d.yearAfter months) then .yearOutOfRange (d.yearAfter months)
        else .overflow := by
  by_cases inYears : IsYear (d.yearAfter months)
  · obtain ⟨e, shifted, -⟩ := exists_addMonths inYears
    simp [shifted, inYears]
  · have year : d.year + (d.month - 1 + months) / 12 = d.yearAfter months := by
      simp only [yearAfter, monthIndex]
      omega
    have refused := checkYear_eq (d.yearAfter months)
    rw [if_neg inYears] at refused
    have failed : d.addMonths months = .error (if IsMachineYear (d.yearAfter months)
        then .yearOutOfRange (d.yearAfter months) else .overflow) := by
      simp only [addMonths, clamped]
      rw [year, refused]
      rfl
    rw [failed, Except.error.injEq]
    exact ⟨fun same => ⟨inYears, same.symm⟩, fun same => same.2.symm⟩

/-! ## Shifts -/

/-- A shift by months is exact on months and cuts only the day down.  It keeps the order of dates, two
    shifts in a row come to the same month as one, and to the same day if all months have it.  There
    is no result exactly where the year has no dates: such a year is out of range if a machine
    integer holds it, and else beyond the range of dates altogether. -/
theorem addMonths_moves_month :
    (∀ (d : Date) (months : Int), IsYear (d.yearAfter months) →
      ∃ e, d.addMonths months = .ok e ∧ e.monthIndex = d.monthIndex + months ∧
        e.day = min d.day (monthLength e.year e.month)) ∧
    (∀ (d e : Date) (months : Int), d ≤ e → IsYear (d.yearAfter months) →
      IsYear (e.yearAfter months) →
        ∃ d' e', d.addMonths months = .ok d' ∧ e.addMonths months = .ok e' ∧ d' ≤ e') ∧
    (∀ (d : Date) (months more : Int), IsYear (d.yearAfter months) →
      IsYear (d.yearAfter (months + more)) →
        ∃ e shifted direct, d.addMonths months = .ok e ∧ e.addMonths more = .ok shifted ∧
          d.addMonths (months + more) = .ok direct ∧ shifted.monthIndex = direct.monthIndex ∧
          shifted.day ≤ direct.day ∧ (d.day ≤ 28 → shifted = direct)) ∧
    ∀ (d : Date) (months : Int) (cause : CalendarError),
      d.addMonths months = .error cause ↔ ¬ IsYear (d.yearAfter months) ∧
        cause = if IsMachineYear (d.yearAfter months) then .yearOutOfRange (d.yearAfter months)
          else .overflow := by
  refine ⟨fun d months inYears => exists_addMonths inYears,
    fun d e months le inYears inYearsE => ?_, fun d months more inYears stays => ?_,
    fun d months cause => addMonths_eq_error_iff⟩
  · obtain ⟨d', shifted, -⟩ := exists_addMonths inYears
    obtain ⟨e', shiftedE, -⟩ := exists_addMonths inYearsE
    exact ⟨d', e', shifted, shiftedE, addMonths_mono le shifted shiftedE⟩
  · obtain ⟨e, first, -⟩ := exists_addMonths inYears
    obtain ⟨direct, whole, -⟩ := exists_addMonths stays
    rw [← yearAfter_of_addMonths first] at stays
    obtain ⟨shifted, second, -⟩ := exists_addMonths stays
    exact ⟨e, shifted, direct, first, second, whole, addMonths_addMonths first second whole⟩

/-- From 31 March 2024 a month back and on again leads to an earlier day of March, and from 28 March it
    leads back.  In April the last two days of March come together.  From January of the year 1 the last
    year of all can be reached, and the year before cannot. -/
theorem addMonths_moves_month_march :
    (∃ e shifted direct, addMonths ⟨2024, 3, 31, by decide⟩ (-1) = .ok e ∧
      e.addMonths 1 = .ok shifted ∧ addMonths ⟨2024, 3, 31, by decide⟩ (-1 + 1) = .ok direct ∧
      shifted.monthIndex = direct.monthIndex ∧ shifted.day ≤ direct.day) ∧
    (∃ e shifted, addMonths ⟨2024, 3, 28, by decide⟩ (-1) = .ok e ∧
      e.addMonths 1 = .ok shifted ∧
      addMonths ⟨2024, 3, 28, by decide⟩ (-1 + 1) = .ok shifted) ∧
    (∃ d' e', addMonths ⟨2024, 3, 30, by decide⟩ 1 = .ok d' ∧
      addMonths ⟨2024, 3, 31, by decide⟩ 1 = .ok e' ∧ d' ≤ e') ∧
    (∃ e, addMonths ⟨1, 1, 31, by decide⟩ 119987 = .ok e ∧ e.monthIndex = 12 + 119987 ∧
      e.day = min 31 (monthLength e.year e.month)) ∧
    addMonths ⟨1, 1, 31, by decide⟩ (-1) = .error (.yearOutOfRange 0) := by
  obtain ⟨moves, keepsOrder, inRow, fails⟩ := addMonths_moves_month
  obtain ⟨e, shifted, direct, first, second, whole, sameMonth, notLater, -⟩ :=
    inRow ⟨2024, 3, 31, by decide⟩ (-1) 1 (by decide) (by decide)
  obtain ⟨f, back, same, firstF, secondF, wholeF, -, -, equal⟩ :=
    inRow ⟨2024, 3, 28, by decide⟩ (-1) 1 (by decide) (by decide)
  obtain rfl := equal (by decide)
  exact ⟨⟨e, shifted, direct, first, second, whole, sameMonth, notLater⟩,
    ⟨f, back, firstF, secondF, wholeF⟩, keepsOrder _ _ 1 (by decide) (by decide) (by decide),
    moves _ 119987 (by decide), (fails _ (-1) _).2 (by decide)⟩

/-- A year of ten digits is out of the range of dates, but is not refused as such. -/
theorem addMonths_beyond_machine_years :
    ¬ IsYear (yearAfter ⟨2024, 1, 15, by decide⟩ 30000000000) ∧
      addMonths ⟨2024, 1, 15, by decide⟩ 30000000000 = .error .overflow ∧
      ∀ year, addMonths ⟨2024, 1, 15, by decide⟩ 30000000000 ≠ .error (.yearOutOfRange year) := by
  have overflow : addMonths ⟨2024, 1, 15, by decide⟩ 30000000000 = .error .overflow :=
    addMonths_eq_error_iff.2 (by decide)
  refine ⟨by decide, overflow, fun year refused => ?_⟩
  rw [overflow] at refused
  cases refused

end TaskTitles.Calendar.Date
