import TaskTitles.Almanac.Words
import TaskTitles.Proofs.Calendar.Timestamps
import TaskTitles.Proofs.Text.Strip

/-!
# What a text names

Every text that is read as a date names the noon of one (`noon_of_read?`), and a text without letters
can only be a short date (`read?_eq_readShortDate?`).  Each day of the week comes once in the seven
days from today on (`exists_unique_isNext`).  A word for a day of the week names that date, and the
one a week later behind `next`; words for today and tomorrow mean the same behind `next`
(`read?_weekday`).
-/

namespace TaskTitles

open Calendar Text

/-! ## The next day of a name -/

namespace Calendar.Date

/-- The date lies in the week that begins today, and is that day of the week. -/
def IsNext (today : Date) (weekday : Int) (d : Date) : Prop :=
  today ≤ d ∧ d.ordinal ≤ today.ordinal + 6 ∧ d.weekday = weekday

instance (today : Date) (weekday : Int) (d : Date) : Decidable (IsNext today weekday d) := by
  unfold IsNext; infer_instance

theorem isNext_iff {today d : Date} {weekday : Int} (named : 0 ≤ weekday ∧ weekday < 7) :
    IsNext today weekday d ↔ d.ordinal = today.ordinal + (weekday - today.weekday) % 7 := by
  change today.ordinal ≤ d.ordinal ∧ d.ordinal ≤ today.ordinal + 6 ∧ d.ordinal % 7 = weekday ↔
    d.ordinal = today.ordinal + (weekday - today.ordinal % 7) % 7
  omega

theorem exists_unique_isNext {today : Date} {weekday : Int} (named : 0 ≤ weekday ∧ weekday < 7)
    (within : today.ordinal + 6 ≤ lastOrdinal) : ∃! d, IsNext today weekday d := by
  simp only [isNext_iff named]
  obtain ⟨first, -⟩ := today.ordinal_range
  obtain ⟨d, -, found⟩ := ofOrdinal_eq_ok (n := today.ordinal + (weekday - today.weekday) % 7)
    (by omega) (by omega)
  exact ⟨d, found, fun e same => ordinal_injective (same.trans found.symm)⟩

end Calendar.Date

/-! ## Words -/

namespace Almanac

/-- A word that nothing is stripped off, neither white space nor a leading `next`. -/
structure IsPlain (t : Text) : Prop where
  nonempty : t ≠ []
  trimmed : strip t = t
  lead : dropLead? nextWord t = none

instance (t : Text) : Decidable (IsPlain t) :=
  decidable_of_iff (t ≠ [] ∧ strip t = t ∧ dropLead? nextWord t = none)
    ⟨fun ⟨nonempty, trimmed, lead⟩ => ⟨nonempty, trimmed, lead⟩,
      fun plain => ⟨plain.nonempty, plain.trimmed, plain.lead⟩⟩

variable {almanac : Almanac} {t : Text} {v : Timestamp}

theorem IsPlain.read?_eq (plain : IsPlain t) : almanac.read? t = almanac.readWord? false t := by
  rw [read?, plain.trimmed, if_neg plain.nonempty, plain.lead]

theorem IsPlain.read?_next (plain : IsPlain t) {before after : Text}
    (blankBefore : ∀ c ∈ before, isBlank c = true) (blankAfter : ∀ c ∈ after, isBlank c = true) :
    almanac.read? (nextWord ++ (before ++ t ++ after)) = almanac.readWord? true t := by
  have visible : strip (nextWord ++ (before ++ t ++ after)) ≠ [] := by
    rw [strip_append (by decide) (by decide) (by decide)]
    exact List.append_ne_nil_of_left_ne_nil (by decide) _
  rw [read?, if_neg visible, dropLead?_append]
  dsimp only
  rw [strip_surrounded blankBefore blankAfter, plain.trimmed]

/-! ## Noons -/

theorem noon_of_readShortDate? {formats : List Text}
    (read : readShortDate? formats t = .ok (some v)) : ∃ d, v = Timestamp.noon d := by
  induction formats with
  | nil => cases read
  | cons format rest ih =>
    obtain ⟨found, -, read⟩ := exists_of_bind_eq_ok read
    cases found with
    | some d =>
      cases read
      exact ⟨d, rfl⟩
    | none => exact ih read

theorem noon_of_readWord? {addWeek : Bool} (read : almanac.readWord? addWeek t = .ok (some v)) :
    ∃ d, v = Timestamp.noon d := by
  have shifted {days : Int}
      (found : (almanac.today.addDays days).map (fun d => some (Timestamp.noon d)) = .ok (some v)) :
      ∃ d, v = Timestamp.noon d := by
    obtain ⟨d, -, same⟩ := exists_of_map_eq_ok found
    exact ⟨d, (Option.some.inj same).symm⟩
  unfold readWord? at read
  dsimp only at read
  -- Today, the days of words and weekdays, and dates by their formats are noons all alike.
  split at read
  · cases read
    exact ⟨almanac.today, rfl⟩
  · split at read
    · exact shifted read
    · split at read
      · exact shifted read
      · exact noon_of_readShortDate? read

theorem noon_of_read? (read : almanac.read? t = .ok (some v)) : ∃ d, v = Timestamp.noon d := by
  simp only [read?] at read
  split at read
  · cases read
  · split at read <;> exact noon_of_readWord? read

/-! ## Short dates -/

/-- Every word has letters in it, so that a text without any can only be a short date. -/
theorem read?_eq_readShortDate? (nonempty : t ≠ []) (trimmed : strip t = t)
    (noLetters : ∀ c ∈ t, c.isLower = false) :
    almanac.read? t = readShortDate? almanac.conventions.dates.formats t := by
  have lettered : ∀ word ∈ nextWord :: (todayWords ++ tomorrowWords ++ weekdayWords.map Prod.fst),
      word.any Char.isLower = true := by decide
  have noWord : ∀ word ∈ nextWord :: (todayWords ++ tomorrowWords ++ weekdayWords.map Prod.fst),
      ¬ word <+: t := by
    intro word member lead
    obtain ⟨c, inWord, letter⟩ := List.any_eq_true.1 (lettered word member)
    exact Bool.false_ne_true ((noLetters c (lead.subset inWord)).symm.trans letter)
  obtain ⟨notNext, others⟩ := List.forall_mem_cons.1 noWord
  have unknown : t ∉ todayWords ++ tomorrowWords ++ weekdayWords.map Prod.fst :=
    fun member => others t member List.prefix_rfl
  simp only [List.mem_append, not_or] at unknown
  have plain : IsPlain t := ⟨nonempty, trimmed, dropLead?_eq_none_iff.2 notNext⟩
  have noWeekday : weekdayWords.lookup t = none := by
    rw [List.lookup_eq_none_iff]
    intro entry member
    have other : t ≠ entry.1 := fun same => unknown.2 (same ▸ List.mem_map_of_mem member)
    simpa using other
  rw [plain.read?_eq, readWord?, if_neg unknown.1.1, if_neg unknown.1.2, noWeekday]
  dsimp only
  rw [trimmed]

/-- The first format that reads the text decides. -/
theorem readShortDate?_cons {format : Text} {rest : List Text} {found later : Option Date}
    (read : readDate? format t = .ok found)
    (readLater : readShortDate? rest t = .ok (later.map Timestamp.noon)) :
    readShortDate? (format :: rest) t = .ok ((found.or later).map Timestamp.noon) := by
  rw [readShortDate?, read]
  cases found with
  | none => exact readLater
  | some d => rfl

/-! ## Words for days -/

theorem isPlain_nearWord : ∀ word ∈ todayWords ++ tomorrowWords, IsPlain word := by decide

/-- The words for days of the week differ from each other and from those for today and tomorrow. -/
theorem weekdayWord_cases : ∀ entry ∈ weekdayWords, IsPlain entry.1 ∧
    entry.1 ∉ todayWords ∧ entry.1 ∉ tomorrowWords ∧
    weekdayWords.lookup entry.1 = some entry.2 ∧ 0 ≤ entry.2 ∧ entry.2 < 7 := by decide

theorem readWord?_today (member : t ∈ todayWords) (addWeek : Bool) :
    almanac.readWord? addWeek t = .ok (some almanac.noonToday) := by
  rw [readWord?, if_pos member]

theorem readWord?_tomorrow (member : t ∈ tomorrowWords) (addWeek : Bool) {d : Date}
    (next : d.ordinal = almanac.today.ordinal + 1) :
    almanac.readWord? addWeek t = .ok (some (Timestamp.noon d)) := by
  have other : t ∉ todayWords := by
    have apart : ∀ word ∈ tomorrowWords, word ∉ todayWords := by decide
    exact apart t member
  rw [readWord?, if_neg other, if_pos member]
  dsimp only
  rw [Date.addDays_eq_ok_iff.2 next]
  rfl

theorem readWord?_weekday {weekday : Int} (member : (t, weekday) ∈ weekdayWords) (addWeek : Bool)
    {d : Date} (days : d.ordinal = almanac.today.ordinal +
      ((weekday - almanac.today.weekday) % 7 + if addWeek then 7 else 0)) :
    almanac.readWord? addWeek t = .ok (some (Timestamp.noon d)) := by
  obtain ⟨-, notToday, notTomorrow, found, -⟩ := weekdayWord_cases _ member
  rw [readWord?, if_neg notToday, if_neg notTomorrow, found]
  dsimp only
  rw [Date.addDays_eq_ok_iff.2 days]
  rfl

/-- A word for today or tomorrow is read alike, alone and behind `next`. -/
theorem exists_readWord?_nearWord (member : t ∈ todayWords ++ tomorrowWords)
    (within : almanac.today.ordinal + 1 ≤ Date.lastOrdinal) :
    ∃ v, ∀ addWeek, almanac.readWord? addWeek t = .ok (some v) := by
  rcases List.mem_append.1 member with isToday | isTomorrow
  · exact ⟨almanac.noonToday, readWord?_today isToday⟩
  · obtain ⟨first, -⟩ := almanac.today.ordinal_range
    obtain ⟨d, -, next⟩ := Date.ofOrdinal_eq_ok (by omega) within
    exact ⟨Timestamp.noon d, fun addWeek => readWord?_tomorrow isTomorrow addWeek next⟩

/-- A word for a day of the week names the one such day in the week that begins today, and behind
    `next` the one seven days later.  Words for today and tomorrow mean the same behind `next`.  White
    space around them does not matter there. -/
theorem read?_weekday (almanac : Almanac)
    (within : almanac.today.ordinal + 13 ≤ Date.lastOrdinal) (before after : Text)
    (blankBefore : ∀ c ∈ before, isBlank c = true) (blankAfter : ∀ c ∈ after, isBlank c = true) :
    (∀ word weekday, (word, weekday) ∈ weekdayWords →
      (∃! d, Date.IsNext almanac.today weekday d) ∧
      ∀ d, Date.IsNext almanac.today weekday d →
        almanac.read? word = .ok (some (Timestamp.noon d)) ∧
        almanac.read? (nextWord ++ (before ++ word ++ after)) =
          .ok (some (Timestamp.noon d + 604800))) ∧
    ∀ word ∈ todayWords ++ tomorrowWords, ∃ v, almanac.read? word = .ok (some v) ∧
      almanac.read? (nextWord ++ (before ++ word ++ after)) = .ok (some v) := by
  constructor
  · intro word weekday member
    obtain ⟨plain, -, -, -, named⟩ := weekdayWord_cases _ member
    refine ⟨Date.exists_unique_isNext named (by omega), fun d isNext => ?_⟩
    have days := (Date.isNext_iff named).1 isNext
    obtain ⟨first, -⟩ := d.ordinal_range
    obtain ⟨e, -, weekLater⟩ := Date.ofOrdinal_eq_ok (n := d.ordinal + 7) (by omega) (by omega)
    have apart : Timestamp.noon e = Timestamp.noon d + 604800 := by
      rw [← Timestamp.noon_add_days d e, weekLater]
      congr 1
      omega
    rw [plain.read?_eq, plain.read?_next blankBefore blankAfter, ← apart]
    constructor
    · exact readWord?_weekday member false (by simpa using days)
    · apply readWord?_weekday member true
      rw [if_pos rfl, weekLater, days, Int.add_assoc]
  · intro word member
    have tomorrow : almanac.today.ordinal + 1 ≤ Date.lastOrdinal := by omega
    obtain ⟨v, read⟩ := exists_readWord?_nearWord member tomorrow
    have plain := isPlain_nearWord word member
    exact ⟨v, by rw [plain.read?_eq, read], by rw [plain.read?_next blankBefore blankAfter, read]⟩

/-- On a Wednesday `tues` is six days ahead and `next tues` thirteen, also before a line break, and
    `next tom` is `tom`. -/
theorem read?_weekday_october :
    let almanac : Almanac := { today := ⟨2026, 10, 21, by decide⟩ }
    almanac.read? "tues" = .ok (some (Timestamp.noon ⟨2026, 10, 27, by decide⟩)) ∧
      almanac.read? "next tues\n" =
        .ok (some (Timestamp.noon ⟨2026, 10, 27, by decide⟩ + 604800)) ∧
      ∃ v, almanac.read? "tom" = .ok (some v) ∧ almanac.read? "next tom\n" = .ok (some v) := by
  intro almanac
  obtain ⟨weekdays, near⟩ := read?_weekday almanac (by decide) " " "\n"
    (List.all_eq_true.1 (by decide)) (List.all_eq_true.1 (by decide))
  obtain ⟨-, read⟩ := weekdays "tues" 1 (by decide)
  obtain ⟨alone, behind⟩ := read ⟨2026, 10, 27, by decide⟩ (by decide)
  exact ⟨alone, behind, near "tom" (by decide)⟩

end Almanac

end TaskTitles
