import TaskTitles.Proofs.Almanac.Horizon
import TaskTitles.Proofs.Calendar.Years

/-!
# Dates that were archived

Archiving moves a date a year on, past the threshold of 300 days if it lies at most 64 days back.  So
an archived date that was not to come yet is recognised as recent for about two months
(`isRecentButArchived_archive`).
-/

namespace TaskTitles.Almanac

open Calendar

section Recent

variable {today d : Date} {later v : Timestamp}

/-- A date that comes back from the archive is recent if it is not to come yet and was archived at
    all. -/
theorem isRecentButArchived_of_unarchive
    (threshold : (standard today).archiveThreshold = .ok later)
    (unarchived : Timestamp.unarchive v = .ok (Timestamp.noon d)) :
    (standard today).isRecentButArchived v = .ok (decide (d ≤ today ∧ later < v)) := by
  rw [isRecentButArchived, isArchived_of_threshold threshold, ok_bind]
  by_cases archived : later < v
  · have back : Timestamp.noon d ≤ (standard today).noonToday ↔ d ≤ today :=
      Timestamp.noon_le_noon_iff
    rw [if_pos (decide_eq_true archived), unarchived, ok_bind, decide_eq_decide.2 back]
    simp only [archived, and_true]
    rfl
  · have notArchived : ¬ (d ≤ today ∧ later < v) := fun recent => archived recent.2
    rw [decide_eq_false archived, decide_eq_false notArchived]
    rfl

end Recent

/-- An archived date, 29 February aside, is recognised as recent exactly if it is not after today and
    its archived form comes more than 300 days after today.  So all dates of the last 64 days are,
    and none that is 66 days old or to come. -/
theorem isRecentButArchived_archive (today d : Date) (before : today.year ≤ 9998)
    (archivable : d.year ≤ 9998) (other : ¬ d.IsLeapDay) :
    ∃ later v, today.addDays 300 = .ok later ∧ Timestamp.archive (Timestamp.noon d) = .ok v ∧
      (standard today).isRecentButArchived v =
        .ok (decide (d ≤ today ∧ Timestamp.noon later < v)) ∧
      (d ≤ today → today.ordinal - 64 ≤ d.ordinal →
        (standard today).isRecentButArchived v = .ok true) ∧
      (d.ordinal ≤ today.ordinal - 66 ∨ today < d →
        (standard today).isRecentButArchived v = .ok false) := by
  obtain ⟨start, -⟩ := today.ordinal_range
  have within := threshold_le_lastOrdinal before
  obtain ⟨later, found, days⟩ : ∃ later, today.addDays 300 = .ok later ∧
      later.ordinal = today.ordinal + 300 := Date.addDays_eq_ok (by omega) within
  have threshold : (standard today).archiveThreshold = .ok (Timestamp.noon later) := by
    rw [archiveThreshold_standard within, noon_eq, days]
  have next : IsYear (d.year + 1) := by
    have year := d.isYear
    simp only [IsYear, maxYear] at year ⊢
    omega
  obtain ⟨e, shifted⟩ := Date.exists_addMonths_years next
  have archived : Timestamp.archive (Timestamp.noon d) = .ok (Timestamp.noon e) :=
    Timestamp.shiftYears_noon_eq_ok_iff.2 ⟨e, shifted, rfl⟩
  obtain ⟨v, archivedTo, unarchived⟩ := Timestamp.unarchive_archive (Timestamp.date_noon d) next
  cases archived.symm.trans archivedTo
  rw [if_neg other] at unarchived
  have recent := isRecentButArchived_of_unarchive threshold unarchived
  have ahead := Date.ordinal_of_next_year shifted
  refine ⟨later, _, found, archived, recent, fun notLater near => ?_, fun outside => ?_⟩ <;>
    rw [recent]
  · have beyond : later.ordinal < e.ordinal := by omega
    rw [decide_eq_true ⟨notLater, Timestamp.noon_lt_noon_iff.2 beyond⟩]
  · rw [decide_eq_false]
    rintro ⟨notLater, beyond⟩
    have beyondDays : later.ordinal < e.ordinal := Timestamp.noon_lt_noon_iff.1 beyond
    have notLaterDays : d.ordinal ≤ today.ordinal := notLater
    rcases outside with old | toCome
    · omega
    · exact Int.not_le.2 toCome notLater

/-- On 4 May 2023 the archived form of 1 March, 64 days ago, is recent, and that of 27 February, 66 days
    ago, is not.  The leap day of 2024 lies between the two archived forms. -/
theorem isRecentButArchived_archive_spring :
    let today : Date := ⟨2023, 5, 4, by decide⟩
    (standard today).isRecentButArchived (Timestamp.noon ⟨2024, 3, 1, by decide⟩) = .ok true ∧
      (standard today).isRecentButArchived (Timestamp.noon ⟨2024, 2, 27, by decide⟩) =
        .ok false := by
  intro today
  obtain ⟨-, v, -, archived, -, recent, -⟩ := isRecentButArchived_archive today
    ⟨2023, 3, 1, by decide⟩ (by decide) (by decide) (by decide)
  obtain ⟨-, w, -, archivedOld, -, -, old⟩ := isRecentButArchived_archive today
    ⟨2023, 2, 27, by decide⟩ (by decide) (by decide) (by decide)
  have march : Timestamp.archive (Timestamp.noon ⟨2023, 3, 1, by decide⟩) =
      .ok (Timestamp.noon ⟨2024, 3, 1, by decide⟩) := by decide +kernel
  have february : Timestamp.archive (Timestamp.noon ⟨2023, 2, 27, by decide⟩) =
      .ok (Timestamp.noon ⟨2024, 2, 27, by decide⟩) := by decide +kernel
  cases march.symm.trans archived
  cases february.symm.trans archivedOld
  exact ⟨recent (by decide) (by decide), old (by decide)⟩

end TaskTitles.Almanac
