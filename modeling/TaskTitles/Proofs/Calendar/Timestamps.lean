import TaskTitles.Proofs.Calendar.Months

/-!
# Time stamps and their dates

The time stamps of the calendar are those with a date, which is the date of their day
(`isDated_iff`, `date_eq_ok_iff`).  The noon of a date is never blank, and its date is the one that it
was made from (`date_noon`), from the first day of the calendar to the last.  So it is written out as
that date (`isoDate?_noon`), and every time stamp that can be archived can be written out as well
(`exists_isoDate?`).
-/

namespace TaskTitles.Calendar.Timestamp

/-- A time stamp on a day of the calendar has that day as its date. -/
theorem date_eq_ofOrdinal {v n : Int} (day : v / daySeconds + epochOrdinal = n) (first : 0 ≤ n)
    (last : n ≤ Date.lastOrdinal) : date v = Date.ofOrdinal n := by
  obtain ⟨firstYear, lastYear⟩ := Date.yearOfOrdinal_range first last
  -- The platform can count the seconds up to such a day, and its years.
  have countable : ¬ (v < -secondLimit ∨ secondLimit ≤ v) := by
    simp only [daySeconds, epochOrdinal] at day
    simp only [Date.lastOrdinal] at last
    simp only [secondLimit]
    omega
  have known : ¬ (yearOfOrdinal n - 1900 < -Date.machineLimit ∨
      Date.machineLimit ≤ yearOfOrdinal n - 1900) := by
    simp only [maxYear] at lastYear
    simp only [Date.machineLimit]
    omega
  have inCalendar : ¬ (yearOfOrdinal n < 1 ∨ maxYear < yearOfOrdinal n) :=
    not_or.2 ⟨Int.not_lt.2 firstYear, Int.not_lt.2 lastYear⟩
  rw [date, day, if_neg countable, if_neg known, if_neg inCalendar]

/-- A time stamp has the date of its day and no other. -/
theorem date_eq_ok_iff {v : Int} {d : Date} :
    date v = .ok d ↔ v / daySeconds + epochOrdinal = d.ordinal := by
  constructor
  · intro dated
    simp only [date] at dated
    split at dated
    · cases dated
    · split at dated
      · cases dated
      · split at dated
        · cases dated
        · exact (Date.ofOrdinal_eq_ok_iff.1 dated).symm
  · intro day
    obtain ⟨first, last⟩ := d.ordinal_range
    rw [date_eq_ofOrdinal day first last, d.ofOrdinal_ordinal]

/-- The time stamps from the first second of the year 1 to the last second of the year 9999. -/
def IsDated (v : Int) : Prop := -62135596800 ≤ v ∧ v < 253402300800

instance (v : Int) : Decidable (IsDated v) := by unfold IsDated; infer_instance

theorem isDated_iff {v : Int} : IsDated v ↔ ∃ d, date v = .ok d := by
  simp only [date_eq_ok_iff, IsDated, daySeconds, epochOrdinal]
  constructor
  · rintro ⟨first, last⟩
    have notBefore : 0 ≤ v / 86400 + 719162 := by omega
    have notAfter : v / 86400 + 719162 ≤ Date.lastOrdinal := by
      simp only [Date.lastOrdinal]
      omega
    obtain ⟨d, -, day⟩ := Date.ofOrdinal_eq_ok notBefore notAfter
    exact ⟨d, day.symm⟩
  · rintro ⟨d, day⟩
    obtain ⟨first, last⟩ := d.ordinal_range
    simp only [Date.lastOrdinal] at last
    omega

theorem ordinal_noon (d : Date) : noon d / daySeconds + epochOrdinal = d.ordinal := by
  change ((d.ordinal - 719162) * 86400 + 43200) / 86400 + 719162 = d.ordinal
  omega

/-- Noons are as far apart as their dates. -/
theorem noon_add_days (d e : Date) : noon d + (e.ordinal - d.ordinal) * 86400 = noon e := by
  change (d.ordinal - 719162) * 86400 + 43200 + (e.ordinal - d.ordinal) * 86400 =
    (e.ordinal - 719162) * 86400 + 43200
  omega

theorem noon_le_noon_iff {d e : Date} : noon d ≤ noon e ↔ d ≤ e := by
  change (d.ordinal - 719162) * 86400 + 43200 ≤ (e.ordinal - 719162) * 86400 + 43200 ↔
    d.ordinal ≤ e.ordinal
  omega

theorem noon_lt_noon_iff {d e : Date} : noon d < noon e ↔ d < e :=
  Int.not_le.symm.trans ((not_congr noon_le_noon_iff).trans Int.not_le)

theorem noon_ne_blank (d : Date) : noon d ≠ blank := by
  change (d.ordinal - 719162) * 86400 + 43200 ≠ (0 : Int)
  omega

theorem date_noon (d : Date) : date (noon d) = .ok d := date_eq_ok_iff.2 (ordinal_noon d)

/-- A date that has become a time stamp is written out as itself. -/
theorem isoDate?_noon (d : Date) : isoDate? (noon d) = .ok (some d.isoText) := by
  rw [isoDate?, if_neg (noon_ne_blank d), date_noon]
  rfl

theorem isRepresentable_iff {v : Int} : isRepresentable v = true ↔ 0 ≤ v ∧ v ≤ last := by
  rw [isRepresentable, Bool.and_eq_true, decide_eq_true_iff, decide_eq_true_iff]
  rfl

theorem isDated_of_isRepresentable {v : Int} (representable : isRepresentable v = true) :
    IsDated v := by
  obtain ⟨first, notAfter⟩ := isRepresentable_iff.1 representable
  simp only [last] at notAfter
  exact ⟨by omega, by omega⟩

/-- Every time stamp that can be archived can be written out. -/
theorem exists_isoDate? {v : Int} (representable : isRepresentable v = true) :
    ∃ t, isoDate? v = .ok t := by
  obtain ⟨d, dated⟩ := isDated_iff.1 (isDated_of_isRepresentable representable)
  rw [isoDate?]
  split
  · exact ⟨none, rfl⟩
  · exact ⟨some d.isoText, by rw [dated]; rfl⟩

end TaskTitles.Calendar.Timestamp
