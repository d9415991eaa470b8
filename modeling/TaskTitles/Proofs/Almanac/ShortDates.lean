import TaskTitles.Proofs.Almanac.Horizon
import TaskTitles.Proofs.Almanac.Words
import TaskTitles.Proofs.Calendar.Spellings

/-!
# Short dates

Of the standard formats exactly one reads a short date, in whichever way it is written, and it reads
the day, the month and the year that were meant (`read?_of_isWritten`).  So the dates that are written
out in full read back as themselves, and a day beyond the end of its month is no date
(`read?_written`).
-/

namespace TaskTitles.Almanac

open Calendar Text

theorem readShortDate?_standard {t : Text} {short long iso : Option Date}
    (readShort : readDate? "%d/%m/%y" t = .ok short) (readLong : readDate? "%d/%m/%Y" t = .ok long)
    (readIso : readDate? "%Y-%m-%d" t = .ok iso) :
    readShortDate? Conventions.standard.dates.formats t =
      .ok ((short.or (long.or iso)).map Timestamp.noon) := by
  have last : readShortDate? ["%Y-%m-%d"] t = .ok (iso.map Timestamp.noon) := by
    rw [← Option.or_none (o := iso)]
    exact readShortDate?_cons readIso rfl
  exact readShortDate?_cons readShort (readShortDate?_cons readLong last)

section Standard

variable {y m n : Nat} {day month : Text} (writesDay : Writes .day n day)
  (writesMonth : Writes .month m month)

include writesDay writesMonth

theorem readShortDate?_slashed (small : y < 10000) :
    readShortDate? Conventions.standard.dates.formats (joinWith ['/'] [day, month, ofNatPadded 4 y]) =
      .ok ((Date.make y m n).toOption.map Timestamp.noon) := by
  have writesYear : Writes .year y (ofNatPadded 4 y) := writes_ofNatPadded (by decide) small rfl
  have takesAll : Field.year.TakesAll (ofNatPadded 4 y) := takesAll_ofNatPadded (by decide) small rfl
  have length : (ofNatPadded 4 y).length = 4 := length_ofNatPadded (by decide) small
  -- The format for two digits reads the century as the year and leaves the rest.
  have short := isFormat_slashedShort.readDate?_slashed_of_length_ne writesDay writesMonth rfl
    (show (ofNatPadded 4 y).length ≠ 2 by omega)
  have long := isFormat_slashed.readDate?_slashed writesDay writesMonth takesAll fun parts => rfl
  have isDigit : ∀ t ∈ [day, month, ofNatPadded 4 y], ∀ c ∈ t, c.isDigit = true := by
    simpa using ⟨writesDay.isDigit, writesMonth.isDigit, writesYear.isDigit⟩
  have iso := readDate?_slashed_apart isDigit
  rw [writesYear.value] at long
  rw [readShortDate?_standard short long iso, Option.none_or, Option.or_none]

theorem readShortDate?_slashedShort (first : 1969 ≤ y) (last : y ≤ 2068) :
    readShortDate? Conventions.standard.dates.formats
        (joinWith ['/'] [day, month, ofNatPadded 2 (y % 100)]) =
      .ok ((Date.make y m n).toOption.map Timestamp.noon) := by
  have small : y % 100 < 100 := Nat.mod_lt y (by decide)
  have writesYear : Writes .shortYear (y % 100) (ofNatPadded 2 (y % 100)) :=
    writes_ofNatPadded (by decide) small rfl
  have takesAll : Field.shortYear.TakesAll (ofNatPadded 2 (y % 100)) :=
    takesAll_ofNatPadded (by decide) small rfl
  have length : (ofNatPadded 2 (y % 100)).length = 2 := length_ofNatPadded (by decide) small
  have short := isFormat_slashedShort.readDate?_slashed writesDay writesMonth takesAll fun parts => rfl
  have long := isFormat_slashed.readDate?_slashed_of_length_ne writesDay writesMonth rfl
    (show (ofNatPadded 2 (y % 100)).length ≠ 4 by omega)
  have isDigit : ∀ t ∈ [day, month, ofNatPadded 2 (y % 100)], ∀ c ∈ t, c.isDigit = true := by
    simpa using ⟨writesDay.isDigit, writesMonth.isDigit, writesYear.isDigit⟩
  have iso := readDate?_slashed_apart isDigit
  rw [writesYear.value, fullYear_mod first last] at short
  rw [readShortDate?_standard short long iso, Option.none_or, Option.or_none]

theorem readShortDate?_hyphened (small : y < 10000) (takesAll : Field.day.TakesAll day) :
    readShortDate? Conventions.standard.dates.formats (joinWith ['-'] [ofNatPadded 4 y, month, day]) =
      .ok ((Date.make y m n).toOption.map Timestamp.noon) := by
  have writesYear : Writes .year y (ofNatPadded 4 y) := writes_ofNatPadded (by decide) small rfl
  have isDigit : ∀ t ∈ [ofNatPadded 4 y, month, day], ∀ c ∈ t, c.isDigit = true := by
    simpa using ⟨writesYear.isDigit, writesMonth.isDigit, writesDay.isDigit⟩
  rw [readShortDate?_standard (isFormat_slashedShort.readDate?_hyphened_apart isDigit)
    (isFormat_slashed.readDate?_hyphened_apart isDigit)
    (readDate?_hyphened writesDay writesMonth writesYear takesAll), Option.none_or, Option.none_or]

end Standard

theorem readShortDate?_of_isWritten {y m n : Nat} {t : Text} (written : IsWritten y m n t)
    (lastYear : y ≤ 9999) (firstMonth : 1 ≤ m) (lastMonth : m ≤ 12) (firstDay : 1 ≤ n)
    (lastDay : n ≤ 31) :
    readShortDate? Conventions.standard.dates.formats t =
      .ok ((Date.make y m n).toOption.map Timestamp.noon) := by
  have small : y < 10000 := by omega
  cases written with
  | slashed month day =>
    exact readShortDate?_slashed (writes_day firstDay lastDay day)
      (writes_month firstMonth lastMonth month) small
  | slashedShort month day first last =>
    exact readShortDate?_slashedShort (writes_day firstDay lastDay day)
      (writes_month firstMonth lastMonth month) first last
  | hyphened month day =>
    exact readShortDate?_hyphened (writes_day firstDay lastDay day)
      (writes_month firstMonth lastMonth month) small (takesAll_day firstDay lastDay day)

variable {almanac : Almanac}

/-- A short date is read as the day that it writes, if there is such a day. -/
theorem read?_of_isWritten (formats : almanac.conventions.dates.formats =
      Conventions.standard.dates.formats) {y m n : Nat} {t : Text} (written : IsWritten y m n t)
    (lastYear : y ≤ 9999) (firstMonth : 1 ≤ m) (lastMonth : m ≤ 12) (firstDay : 1 ≤ n)
    (lastDay : n ≤ 31) :
    almanac.read? t = .ok ((Date.make y m n).toOption.map Timestamp.noon) := by
  have trimmed : strip t = t := strip_eq_self_iff.2
    ⟨startsVisible_of_forall fun c member => (written.plain member).1,
      endsVisible_of_forall fun c member => (written.plain member).1⟩
  rw [read?_eq_readShortDate? written.ne_nil trimmed fun c member => (written.plain member).2,
    formats, readShortDate?_of_isWritten written lastYear firstMonth lastMonth firstDay lastDay]

/-- Under the standard formats, a date reads back as itself in whichever way it is written as a short
    date.  So does every time stamp that a text can name, written out in full.  A day beyond the end of
    its month is read as no date. -/
theorem read?_written (almanac : Almanac)
    (formats : almanac.conventions.dates.formats = Conventions.standard.dates.formats) :
    (∀ (d : Date) (t : Text), IsWritten d.year.toNat d.month.toNat d.day.toNat t →
      almanac.read? t = .ok (some (Timestamp.noon d))) ∧
    (∀ d : Date, ∃ iso, Timestamp.isoDate? (Timestamp.noon d) = .ok (some iso) ∧
      almanac.read? iso = .ok (some (Timestamp.noon d))) ∧
    (∀ t v, almanac.read? t = .ok (some v) →
      ∃ iso, Timestamp.isoDate? v = .ok (some iso) ∧ almanac.read? iso = .ok (some v)) ∧
    ∀ (year month day : Nat) (t : Text), year ≤ 9999 → 1 ≤ month → month ≤ 12 → day ≤ 31 →
      monthLength year month < day → IsWritten year month day t → almanac.read? t = .ok none := by
  have written (d : Date) (t : Text) (isWritten : IsWritten d.year.toNat d.month.toNat d.day.toNat t) :
      almanac.read? t = .ok (some (Timestamp.noon d)) := by
    have valid := d.isDate
    have days := (monthLength_bounds d.year d.month).2
    simp only [IsDate, maxYear] at valid
    rw [read?_of_isWritten formats isWritten (by omega) (by omega) (by omega) (by omega) (by omega),
      Int.toNat_of_nonneg (by omega), Int.toNat_of_nonneg (by omega), Int.toNat_of_nonneg (by omega),
      Date.make_eq_ok d.isDate]
    rfl
  have writtenOut (d : Date) : ∃ iso, Timestamp.isoDate? (Timestamp.noon d) = .ok (some iso) ∧
      almanac.read? iso = .ok (some (Timestamp.noon d)) :=
    ⟨d.isoText, Timestamp.isoDate?_noon d, written d d.isoText (isWritten_isoText d)⟩
  refine ⟨written, writtenOut, ?_, ?_⟩
  · intro t v read
    obtain ⟨d, rfl⟩ := noon_of_read? read
    exact writtenOut d
  · intro year month day t lastYear firstMonth lastMonth lastDay beyond isWritten
    have days := (monthLength_bounds year month).1
    have noDate : ¬ IsDate year month day := fun valid => by
      have inMonth := valid.2.2.2.2.2
      omega
    rw [read?_of_isWritten formats isWritten lastYear firstMonth lastMonth (by omega) lastDay,
      Date.make, dif_neg noDate]
    split <;> rfl

/-- Three ways of writing the leap day of 2024.  The year before has none. -/
theorem read?_written_february :
    let almanac := standard ⟨2026, 10, 21, by decide⟩
    almanac.conventions.dates.formats = Conventions.standard.dates.formats ∧
      almanac.read? "29/2/24" = .ok (some 1709208000) ∧
      almanac.read? "29/02/2024" = .ok (some 1709208000) ∧
      Timestamp.isoDate? 1709208000 = .ok (some "2024-02-29") ∧
      almanac.read? "2024-02-29" = .ok (some 1709208000) ∧
      almanac.read? "2023-2-29" = .ok none := by
  intro almanac
  have short : IsWritten 2024 2 29 "29/2/24" :=
    .slashedShort (m := "2") (d := "29") (by decide) (by decide) (by decide) (by decide)
  have long : IsWritten 2024 2 29 "29/02/2024" :=
    .slashed (m := "02") (d := "29") (by decide) (by decide)
  have noDay : IsWritten 2023 2 29 "2023-2-29" :=
    .hyphened (m := "2") (d := "29") (by decide) (by decide)
  obtain ⟨written, -, again, beyond⟩ := read?_written almanac rfl
  have readShort := written ⟨2024, 2, 29, by decide⟩ "29/2/24" short
  obtain ⟨iso, writtenOut, back⟩ := again _ _ readShort
  have named : iso = "2024-02-29" := by
    rw [Timestamp.isoDate?_noon] at writtenOut
    exact (Option.some.inj (Except.ok.inj writtenOut)).symm
  rw [named] at back
  exact ⟨rfl, readShort, written ⟨2024, 2, 29, by decide⟩ "29/02/2024" long, by decide +kernel, back,
    beyond 2023 2 29 _ (by decide) (by decide) (by decide) (by decide) (by decide) noDay⟩

end TaskTitles.Almanac
