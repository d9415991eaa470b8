import TaskTitles.Proofs.Calendar.Timestamps

/-!
# Shifting by years

A shift of a time stamp by years is a shift of its date by twelve times as many months, and moves the
time stamp by the days between the two dates (`shiftYears_eq_ok_iff`).  Two shifts in a row come to
the same as one, unless 29 February loses its day on the way (`shiftYears_compose`).
-/

namespace TaskTitles.Calendar

/-- The years that dates can have. -/
def IsYear (year : Int) : Prop := 1 ≤ year ∧ year ≤ maxYear

instance (year : Int) : Decidable (IsYear year) := by unfold IsYear; infer_instance

namespace Date

variable {d e : Date}

/-- The date is a 29 February. -/
def IsLeapDay (d : Date) : Prop := d.month = 2 ∧ d.day = 29

instance (d : Date) : Decidable d.IsLeapDay := by unfold IsLeapDay; infer_instance

/-! ## Whole years -/

theorem isYear (d : Date) : IsYear d.year := ⟨d.isDate.1, d.isDate.2.1⟩

theorem clamped_eq_addMonths (d : Date) (years : Int) :
    clamped (d.year + years) d.month d.day = d.addMonths (12 * years) := by
  have valid := d.isDate
  simp only [IsDate] at valid
  have year : d.year + (d.month - 1 + 12 * years) / 12 = d.year + years := by omega
  have month : (d.month - 1 + 12 * years) % 12 + 1 = d.month := by omega
  simp only [addMonths]
  rw [year, month]

theorem addMonths_years_eq_ok_iff {years : Int} :
    d.addMonths (12 * years) = .ok e ↔
      e.year = d.year + years ∧ e.month = d.month ∧ e.day = min d.day (monthLength e.year e.month) := by
  have validD := d.isDate
  have validE := e.isDate
  simp only [IsDate] at validD validE
  rw [addMonths_eq_ok_iff]
  simp only [monthIndex]
  omega

theorem exists_addMonths_years {years : Int} (inYears : IsYear (d.year + years)) :
    ∃ e, d.addMonths (12 * years) = .ok e := by
  have valid := d.isDate
  simp only [IsDate] at valid
  simp only [IsYear, maxYear] at inYears
  have first : 12 ≤ d.monthIndex + 12 * years := by
    simp only [monthIndex]
    omega
  have last : d.monthIndex + 12 * years < 120000 := by
    simp only [monthIndex]
    omega
  obtain ⟨e, shifted, -⟩ := addMonths_eq_ok first last
  exact ⟨e, shifted⟩

/-! ## 29 February -/

/-- Only February has a length that depends on the year. -/
theorem monthLength_congr {month : Int} (other : month ≠ 2) (year year' : Int) :
    monthLength year month = monthLength year' month := by
  rw [monthLength, if_neg other, monthLength, if_neg other]

theorem isLeap_of_isLeapDay (d : Date) (leapDay : d.IsLeapDay) : isLeap d.year = true := by
  have inMonth : d.day ≤ monthLength d.year d.month := d.isDate.2.2.2.2.2
  by_contra short
  rw [leapDay.1, leapDay.2, monthLength, if_pos rfl, if_neg short] at inMonth
  exact absurd inMonth (by decide)

/-- Whether the day gets lost when 29 February is shifted twice: the year in between has no such day,
    and the last one has. -/
def LosesLeapDay (d : Date) (years more : Int) : Prop :=
  d.IsLeapDay ∧ isLeap (d.year + years) = false ∧ isLeap (d.year + (years + more)) = true

instance (d : Date) (years more : Int) : Decidable (d.LosesLeapDay years more) := by
  unfold LosesLeapDay; infer_instance

theorem min_min_monthLength (d : Date) (years more : Int) :
    min (min d.day (monthLength (d.year + years) d.month))
        (monthLength (d.year + (years + more)) d.month) =
      min d.day (monthLength (d.year + (years + more)) d.month)
        - if d.LosesLeapDay years more then 1 else 0 := by
  have inMonth : d.day ≤ monthLength d.year d.month := d.isDate.2.2.2.2.2
  by_cases february : d.month = 2
  · simp only [LosesLeapDay, IsLeapDay, february, monthLength, if_true, true_and] at inMonth ⊢
    -- Four kinds of pairs of years; the 29th gets lost in one of them.
    cases isLeap (d.year + years) <;> cases isLeap (d.year + (years + more)) <;>
      simp only [Bool.false_eq_true, Bool.true_eq_false, if_true, if_false, and_true, and_false] <;>
      omega
  · have keeps : ¬ d.LosesLeapDay years more := fun loses => february loses.1.1
    rw [if_neg keeps, monthLength_congr february (d.year + years) d.year,
      monthLength_congr february (d.year + (years + more)) d.year]
    omega

theorem ordinal_of_addMonths_years {years more : Int} {shifted direct : Date}
    (first : d.addMonths (12 * years) = .ok e) (second : e.addMonths (12 * more) = .ok shifted)
    (whole : d.addMonths (12 * (years + more)) = .ok direct) :
    shifted.ordinal = direct.ordinal - if d.LosesLeapDay years more then 1 else 0 := by
  obtain ⟨year, month, day⟩ := addMonths_years_eq_ok_iff.1 first
  obtain ⟨shiftedYear, shiftedMonth, shiftedDay⟩ := addMonths_years_eq_ok_iff.1 second
  obtain ⟨directYear, directMonth, directDay⟩ := addMonths_years_eq_ok_iff.1 whole
  have sameYear : shifted.year = direct.year := by omega
  have sameMonth : shifted.month = direct.month := by omega
  have sameIndex : shifted.monthIndex = direct.monthIndex := by rw [monthIndex, sameYear, sameMonth]; rfl
  have lost := min_min_monthLength d years more
  rw [day, year, month, sameYear, sameMonth, directYear, directMonth] at shiftedDay
  rw [directYear, directMonth] at directDay
  rw [shifted.ordinal_eq, direct.ordinal_eq, sameIndex]
  omega

/-- The same day of the next year is 365 or 366 days ahead, also where it is cut down. -/
theorem ordinal_of_next_year (found : d.addMonths (12 * 1) = .ok e) :
    e.ordinal = d.ordinal + 365 ∨ e.ordinal = d.ordinal + 366 := by
  obtain ⟨year, month, day⟩ := addMonths_years_eq_ok_iff.1 found
  have inMonth : d.day ≤ monthLength d.year d.month := d.isDate.2.2.2.2.2
  have start := daysBeforeYear_succ d.year
  rw [year, month] at day
  rw [ordinal, ordinal, year, month, start]
  -- What February has more in either year counts from the date on or up to the other one.
  by_cases february : d.month = 2
  · simp only [february, monthLength, daysBeforeMonth, yearLength, if_true] at day inMonth ⊢
    cases leap : isLeap d.year <;> cases next : isLeap (d.year + 1) <;>
      simp only [leap, next, Bool.false_eq_true, if_true, if_false] at day inMonth ⊢ <;> omega
  · rw [monthLength_congr february (d.year + 1) d.year, Int.min_eq_left inMonth] at day
    simp only [daysBeforeMonth, yearLength]
    cases isLeap d.year <;> cases isLeap (d.year + 1) <;>
      simp only [Bool.false_eq_true, if_true, if_false] <;> omega

end Date

/-! ## Time stamps -/

namespace Timestamp

variable {v w : Int} {d e : Date} {years more : Int}

/-- A shift by years moves the time stamp by as many days as it moves its date. -/
theorem shiftYears_eq_ok_iff (dated : date v = .ok d) :
    shiftYears v years = .ok w ↔
      ∃ e, d.addMonths (12 * years) = .ok e ∧ w = v + (e.ordinal - d.ordinal) * 86400 := by
  have day := date_eq_ok_iff.1 dated
  simp only [daySeconds] at day
  rw [shiftYears, dated, ok_bind, d.clamped_eq_addMonths]
  constructor
  · intro shifted
    obtain ⟨e, found, same⟩ := exists_of_bind_eq_ok shifted
    refine ⟨e, found, (Except.ok.inj same).symm.trans ?_⟩
    simp only [daySeconds, secondOfDay]
    omega
  · rintro ⟨e, found, rfl⟩
    rw [found, ok_bind]
    refine congrArg Except.ok ?_
    simp only [daySeconds, secondOfDay]
    omega

/-- The date of a shifted time stamp is the shifted date. -/
theorem exists_shiftYears (dated : date v = .ok d) (inYears : IsYear (d.year + years)) :
    ∃ (w : Int) (e : Date), shiftYears v years = .ok w ∧ d.addMonths (12 * years) = .ok e ∧
      date w = .ok e ∧ w = v + (e.ordinal - d.ordinal) * 86400 := by
  obtain ⟨e, found⟩ := Date.exists_addMonths_years inYears
  refine ⟨v + (e.ordinal - d.ordinal) * 86400, e, (shiftYears_eq_ok_iff dated).2 ⟨e, found, rfl⟩,
    found, ?_, rfl⟩
  have day := date_eq_ok_iff.1 dated
  rw [date_eq_ok_iff]
  simp only [daySeconds] at day ⊢
  omega

theorem shiftYears_shiftYears (dated : date v = .ok d) (inYears : IsYear (d.year + years))
    (stays : IsYear (d.year + (years + more))) :
    ∃ w x y : Int, shiftYears v years = .ok w ∧ shiftYears w more = .ok x ∧
      shiftYears v (years + more) = .ok y ∧
      x = y - if d.LosesLeapDay years more then 86400 else 0 := by
  obtain ⟨w, e, shifted, found, datedW, moved⟩ := exists_shiftYears dated inYears
  obtain ⟨year, -, -⟩ := Date.addMonths_years_eq_ok_iff.1 found
  have staysFrom : IsYear (e.year + more) := by rwa [year, Int.add_assoc]
  obtain ⟨x, second, again, foundSecond, -, movedAgain⟩ := exists_shiftYears datedW staysFrom
  obtain ⟨y, direct, whole, foundDirect, -, movedWhole⟩ := exists_shiftYears dated stays
  refine ⟨w, x, y, shifted, again, whole, ?_⟩
  have days := Date.ordinal_of_addMonths_years found foundSecond foundDirect
  by_cases lost : d.LosesLeapDay years more
  · rw [if_pos lost] at days ⊢
    omega
  · rw [if_neg lost] at days ⊢
    omega

theorem secondOfDay_shiftYears (dated : date v = .ok d) (shifted : shiftYears v years = .ok w) :
    secondOfDay w = secondOfDay v := by
  obtain ⟨e, -, rfl⟩ := (shiftYears_eq_ok_iff dated).1 shifted
  change (v + (e.ordinal - d.ordinal) * 86400) % 86400 = v % 86400
  omega

theorem shiftYears_zero (dated : date v = .ok d) : shiftYears v 0 = .ok v := by
  have inMonth : d.day ≤ monthLength d.year d.month := d.isDate.2.2.2.2.2
  have stays : d.addMonths (12 * 0) = .ok d :=
    Date.addMonths_years_eq_ok_iff.2 ⟨(Int.add_zero _).symm, rfl, (Int.min_eq_left inMonth).symm⟩
  exact (shiftYears_eq_ok_iff dated).2 ⟨d, stays, by omega⟩

/-- Archiving loses 29 February and no other day. -/
theorem unarchive_archive (dated : date v = .ok d) (next : IsYear (d.year + 1)) :
    ∃ w, archive v = .ok w ∧ unarchive w = .ok (if d.IsLeapDay then v - 86400 else v) := by
  have back : d.year + (1 + -1) = d.year := by omega
  have stays : IsYear (d.year + (1 + -1)) := back.symm ▸ d.isYear
  obtain ⟨w, x, y, archived, unarchived, stayed, days⟩ := shiftYears_shiftYears dated next stays
  refine ⟨w, archived, ?_⟩
  have same : y = v := Except.ok.inj (stayed.symm.trans (shiftYears_zero dated))
  have loses : d.LosesLeapDay 1 (-1) ↔ d.IsLeapDay := by
    refine ⟨fun lost => lost.1, fun leapDay => ?_⟩
    have leap := d.isLeap_of_isLeapDay leapDay
    refine ⟨leapDay, ?_, back.symm ▸ leap⟩
    simp only [isLeap_iff, ← Bool.not_eq_true] at leap ⊢
    omega
  rw [unarchive, unarchived, days, same]
  simp only [loses]
  split
  · rfl
  · rw [Int.sub_zero]

/-- Every representable time stamp lies before the last year of the calendar. -/
theorem exists_date_of_isRepresentable {v : Int} (representable : isRepresentable v = true) :
    ∃ d, date v = .ok d ∧ IsYear (d.year + 1) := by
  obtain ⟨-, notAfter⟩ := isRepresentable_iff.1 representable
  simp only [last] at notAfter
  obtain ⟨d, dated⟩ := isDated_iff.1 (isDated_of_isRepresentable representable)
  have day := date_eq_ok_iff.1 dated
  have start : daysBeforeYear (9998 + 1) = 3651694 := by decide
  have before : d.year ≤ 9998 := by
    rw [Date.year_le_iff, start, ← day]
    simp only [daySeconds, epochOrdinal]
    omega
  have year := d.isYear
  simp only [IsYear, maxYear] at year ⊢
  exact ⟨d, dated, by omega⟩

/-- The noon of a date is shifted to the noon of the shifted date. -/
theorem shiftYears_noon_eq_ok_iff :
    shiftYears (noon d) years = .ok v ↔ ∃ e, d.addMonths (12 * years) = .ok e ∧ v = noon e := by
  simp only [shiftYears_eq_ok_iff (date_noon d), noon_add_days]

/-- Noons stay in order; other times of day need not, as 28 and 29 February come together. -/
theorem shiftYears_noon_mono (le : d ≤ e) (shifted : shiftYears (noon d) years = .ok v)
    (shiftedE : shiftYears (noon e) years = .ok w) : v ≤ w := by
  obtain ⟨d', found, rfl⟩ := shiftYears_noon_eq_ok_iff.1 shifted
  obtain ⟨e', foundE, rfl⟩ := shiftYears_noon_eq_ok_iff.1 shiftedE
  exact noon_le_noon_iff.2 (Date.addMonths_mono le found foundE)

/-! ## Shifts in a row -/

/-- Two shifts by years come to the same as one, a day earlier if 29 February gets lost on the way.  So
    archiving is undone, but for 29 February.  The time of day stays, noons keep their order, and every
    representable time stamp can be archived. -/
theorem shiftYears_compose :
    (∀ v : Int, IsDated v → ∃ d, date v = .ok d ∧
      (∀ years more : Int, IsYear (d.year + years) → IsYear (d.year + (years + more)) →
        ∃ w x y : Int, shiftYears v years = .ok w ∧ shiftYears w more = .ok x ∧
          shiftYears v (years + more) = .ok y ∧
          x = (y - if d.LosesLeapDay years more then 86400 else 0) ∧
          secondOfDay w = secondOfDay v) ∧
      (IsYear (d.year + 1) →
        ∃ w, archive v = .ok w ∧ unarchive w = .ok (if d.IsLeapDay then v - 86400 else v))) ∧
    (∀ (d e : Date) (years : Int), d ≤ e → IsYear (d.year + years) → IsYear (e.year + years) →
      ∃ v w, shiftYears (noon d) years = .ok v ∧ shiftYears (noon e) years = .ok w ∧ v ≤ w) ∧
    ∀ v, isRepresentable v = true → ∃ w, archive v = .ok w := by
  refine ⟨fun v inCalendar => ?_, fun d e years le inYears inYearsE => ?_,
    fun v representable => ?_⟩
  · obtain ⟨d, dated⟩ := isDated_iff.1 inCalendar
    refine ⟨d, dated, fun years more inYears stays => ?_, unarchive_archive dated⟩
    obtain ⟨w, x, y, first, second, whole, days⟩ := shiftYears_shiftYears dated inYears stays
    exact ⟨w, x, y, first, second, whole, days, secondOfDay_shiftYears dated first⟩
  · obtain ⟨v, -, shifted, -, -, -⟩ := exists_shiftYears (date_noon d) inYears
    obtain ⟨w, -, shiftedE, -, -, -⟩ := exists_shiftYears (date_noon e) inYearsE
    exact ⟨v, w, shifted, shiftedE, shiftYears_noon_mono le shifted shiftedE⟩
  · obtain ⟨d, dated, next⟩ := exists_date_of_isRepresentable representable
    obtain ⟨w, archived, -⟩ := unarchive_archive dated next
    exact ⟨w, archived⟩

/-- From 29 February 1904, early in the morning, over 1900 to 2000 a day gets lost, and so it does when
    the time stamp is archived and taken back.  The last two days of a long February come together in
    a short one, and the last representable time stamp can be archived. -/
theorem shiftYears_compose_leap_day :
    shiftYears (-2077743477) (-4) = .ok (-2203973877) ∧
      shiftYears (-2203973877) 100 = .ok 951699723 ∧
      shiftYears (-2077743477) (-4 + 100) = .ok 951786123 ∧
      (951699723 : Int) = 951786123 - 86400 ∧
      secondOfDay (-2203973877) = secondOfDay (-2077743477) ∧
      archive (-2077743477) = .ok (-2046207477) ∧
      unarchive (-2046207477) = .ok (-2077743477 - 86400) ∧
      (∃ v w, shiftYears (noon ⟨2024, 2, 28, by decide⟩) 1 = .ok v ∧
        shiftYears (noon ⟨2024, 2, 29, by decide⟩) 1 = .ok w ∧ v ≤ w) ∧
      ∃ w, archive last = .ok w := by
  obtain ⟨inCalendar, noons, representable⟩ := shiftYears_compose
  obtain ⟨d, dated, twice, undone⟩ := inCalendar (-2077743477) (by decide)
  have leapDay : date (-2077743477) = .ok ⟨1904, 2, 29, by decide⟩ := by decide +kernel
  cases leapDay.symm.trans dated
  obtain ⟨w, x, y, first, second, whole, days, time⟩ := twice (-4) 100 (by decide) (by decide)
  obtain ⟨v, archived, unarchived⟩ := undone (by decide)
  have earlier : shiftYears (-2077743477) (-4) = .ok (-2203973877) := by decide +kernel
  have direct : shiftYears (-2077743477) (-4 + 100) = .ok 951786123 := by decide +kernel
  have later : archive (-2077743477) = .ok (-2046207477) := by decide +kernel
  cases earlier.symm.trans first
  cases direct.symm.trans whole
  cases later.symm.trans archived
  rw [if_pos (by decide)] at days unarchived
  have dayBefore : x = 951699723 := by omega
  rw [dayBefore] at second
  exact ⟨earlier, second, direct, by decide, time, later, unarchived,
    noons _ _ 1 (by decide) (by decide) (by decide), representable last (by decide)⟩

end Timestamp

end TaskTitles.Calendar
