import TaskTitles.Almanac.Words
import TaskTitles.Proofs.Almanac.Placeholders
import TaskTitles.Proofs.Calendar.Formats

/-!
# The horizon of an almanac

Under the standard conventions, every question to an almanac has an answer before the last year of
the calendar (`answers_standard`).  From 1970 on, its dates lie in order as well: the blank time
stamp, the lowest placeholder, the other placeholders, the archive threshold (`exists_horizon`).  So
no time stamp is both actual and a placeholder, or both a placeholder and archived
(`placeholder_apart`).
-/

namespace TaskTitles

open Calendar

/-- The conventions where a deployment sets none. -/
def Conventions.standard : Conventions := {}

/-- The days of the years 1970 to 9998. -/
def Calendar.Date.IsCurrent (d : Date) : Prop := 1970 ≤ d.year ∧ d.year ≤ 9998

instance (d : Date) : Decidable d.IsCurrent := by unfold Date.IsCurrent; infer_instance

namespace Almanac

def standard (today : Date) : Almanac := ⟨.standard, today⟩

/-! ## Placeholders -/

theorem placesAhead_standard : Conventions.standard.PlacesAhead where
  offset_pos := by decide
  offset_work := by decide
  offset_notes := by decide
  day_pos := by decide
  day_first status := by cases status <;> decide

theorem monthOffset_le (today : Date) (name : Option Text) :
    (standard today).monthOffset name ≤ 5 := by
  unfold monthOffset
  dsimp only
  split
  · exact (by decide : (4 : Int) ≤ 5)
  · split
    · exact (by decide : (5 : Int) ≤ 5)
    · exact (by decide : (3 : Int) ≤ 5)

theorem placeholderDay_le (status : Status) :
    Conventions.standard.status.placeholderDay status ≤ 28 := by
  cases status <;> decide

/-- Under the standard conventions the placeholders end before the archive begins. -/
theorem placeholderOrdinal_le (today : Date) (name : Option Text) (status : Status) :
    (standard today).placeholderOrdinal name status ≤ today.ordinal + 300 := by
  have offset := monthOffset_le today name
  have days := placeholderDay_le status
  have notAfter : monthStart (today.monthIndex + (standard today).monthOffset name) ≤
      monthStart (today.monthIndex + (5 : Nat)) := monthStart_mono (by omega)
  have ordinal : (standard today).placeholderOrdinal name status =
      monthStart (today.monthIndex + (standard today).monthOffset name)
        + Conventions.standard.status.placeholderDay status - 1 := rfl
  -- Five months take 155 days at most, and with the day of the month they end before 300.
  have far := (monthStart_add_bounds today.monthIndex 5).2
  have inMonth := today.ordinal_mem_month
  omega

/-! ## Words for dates -/

theorem readDate?_standard {format : Text} (member : format ∈ Conventions.standard.dates.formats)
    (t : Text) : ∃ found, readDate? format t = .ok found := by
  have formats : format = "%d/%m/%y" ∨ format = "%d/%m/%Y" ∨ format = "%Y-%m-%d" := by
    simpa [Conventions.standard] using member
  rcases formats with rfl | rfl | rfl
  · exact isFormat_slashedShort.exists_readDate? t
  · exact isFormat_slashed.exists_readDate? t
  · exact isFormat_hyphened.exists_readDate? t

theorem readShortDate?_eq_ok {formats : List Text} {t : Text}
    (readable : ∀ format ∈ formats, ∃ found, readDate? format t = .ok found) :
    ∃ found, readShortDate? formats t = .ok found := by
  induction formats with
  | nil => exact ⟨none, rfl⟩
  | cons format rest ih =>
    obtain ⟨found, read⟩ := readable format List.mem_cons_self
    obtain ⟨later, readLater⟩ := ih fun other member => readable other (List.mem_cons_of_mem _ member)
    simp only [readShortDate?]
    rw [read]
    cases found with
    | none => exact ⟨later, readLater⟩
    | some d => exact ⟨some (Timestamp.noon d), rfl⟩

/-- Before the last year of the calendar there is at least a year to come. -/
theorem ordinal_bounds {today : Date} (before : today.year ≤ 9998) :
    0 ≤ today.ordinal ∧ today.ordinal ≤ Date.lastOrdinal - 365 := by
  obtain ⟨first, -⟩ := today.ordinal_range
  have lastYear : daysBeforeYear (9998 + 1) = 3651694 := by decide
  have inYear := Date.year_le_iff.1 before
  simp only [Date.lastOrdinal]
  omega

theorem exists_noon_addDays {today : Date} (before : today.year ≤ 9998) {days : Int}
    (nonneg : 0 ≤ days) (short : days ≤ 13) :
    ∃ found, (today.addDays days).map (fun d => some (Timestamp.noon d)) = .ok found := by
  obtain ⟨low, high⟩ := ordinal_bounds before
  have first : 0 ≤ today.ordinal + days := by omega
  have last : today.ordinal + days ≤ Date.lastOrdinal := by omega
  obtain ⟨shifted, found, -⟩ := Date.addDays_eq_ok first last
  exact ⟨some (Timestamp.noon shifted), by rw [found]; rfl⟩

theorem readWord?_eq_ok {today : Date} (before : today.year ≤ 9998) (addWeek : Bool) (t : Text) :
    ∃ found, (standard today).readWord? addWeek t = .ok found := by
  unfold readWord?
  dsimp only
  split
  · exact ⟨_, rfl⟩
  · split
    · exact exists_noon_addDays before (by decide) (by decide)
    · split
      · next weekday _ =>
        -- The next day of that name comes within a week, and the one after it within two.
        have ahead : 0 ≤ (weekday - today.weekday) % 7 ∧ (weekday - today.weekday) % 7 < 7 := by
          omega
        apply exists_noon_addDays before
        · cases addWeek <;> simp only [Bool.false_eq_true, if_true, if_false] <;> omega
        · cases addWeek <;> simp only [Bool.false_eq_true, if_true, if_false] <;> omega
      · exact readShortDate?_eq_ok fun format member => readDate?_standard member _

theorem read?_eq_ok {today : Date} (before : today.year ≤ 9998) (t : Text) :
    ∃ found, (standard today).read? t = .ok found := by
  simp only [read?]
  split
  · exact ⟨none, rfl⟩
  · split
    · exact readWord?_eq_ok before true _
    · exact readWord?_eq_ok before false t

/-! ## Questions with an answer -/

/-- Every question that the rules put to the almanac is answered. -/
structure Answers (almanac : Almanac) : Prop where
  readable : ∀ t, ∃ found, almanac.read? t = .ok found
  archiveThreshold : ∃ threshold, almanac.archiveThreshold = .ok threshold
  placeholder : ∀ name status, ∃ v, almanac.placeholder name status = .ok v

namespace Answers

variable {almanac : Almanac} (answers : almanac.Answers)

include answers

theorem isDateText_eq_ok (t : Text) : ∃ answer, almanac.isDateText t = .ok answer := by
  obtain ⟨found, read⟩ := answers.readable t
  exact ⟨found.isSome, by rw [isDateText, read]; rfl⟩

theorem isActual_eq_ok (v : Timestamp) : ∃ answer, almanac.isActual v = .ok answer := by
  rw [isActual]
  split
  · exact ⟨false, rfl⟩
  · obtain ⟨lowest, found⟩ := answers.placeholder none .nextAction
    exact ⟨decide (v < lowest), by rw [lowestPlaceholder, found]; rfl⟩

theorem isArchived_eq_ok (v : Timestamp) : ∃ answer, almanac.isArchived v = .ok answer := by
  obtain ⟨threshold, found⟩ := answers.archiveThreshold
  exact ⟨decide (threshold < v), by rw [isArchived, found]; rfl⟩

end Answers

section Standard

variable {today : Date} (within : today.ordinal + 300 ≤ Date.lastOrdinal)

include within

/-- The archive threshold is the noon of the day in 300 days. -/
theorem archiveThreshold_standard :
    (standard today).archiveThreshold = .ok (noonOf (today.ordinal + 300)) := by
  obtain ⟨low, -⟩ := today.ordinal_range
  obtain ⟨last, found, lastEq⟩ : ∃ last, today.addDays 300 = .ok last ∧
      last.ordinal = today.ordinal + 300 := Date.addDays_eq_ok (by omega) within
  change (today.addDays 300).map Timestamp.noon = _
  rw [found, ← lastEq]
  rfl

theorem placeholder_standard (name : Option Text) (status : Status) :
    (standard today).placeholder name status =
      .ok (noonOf ((standard today).placeholderOrdinal name status)) :=
  placeholder_eq_ok placesAhead_standard name status
    (Int.le_trans (placeholderOrdinal_le today name status) within)

end Standard

theorem threshold_le_lastOrdinal {today : Date} (before : today.year ≤ 9998) :
    today.ordinal + 300 ≤ Date.lastOrdinal := by
  obtain ⟨-, high⟩ := ordinal_bounds before
  omega

/-- Before the last year of the calendar, every question is answered. -/
theorem answers_standard {today : Date} (before : today.year ≤ 9998) :
    (standard today).Answers where
  readable := read?_eq_ok before
  archiveThreshold := ⟨_, archiveThreshold_standard (threshold_le_lastOrdinal before)⟩
  placeholder name status :=
    ⟨_, placeholder_standard (threshold_le_lastOrdinal before) name status⟩

/-! ## The order of dates -/

section Order

variable {almanac : Almanac} {lowest threshold : Timestamp}

theorem isActual_of_lowest (found : almanac.lowestPlaceholder = .ok lowest) (v : Timestamp) :
    almanac.isActual v = .ok (decide (0 < v ∧ v < lowest)) := by
  simp only [isActual]
  by_cases blank : v ≤ Timestamp.blank
  · have notActual : ¬ (0 < v ∧ v < lowest) := fun actual => Int.not_le.2 actual.1 blank
    rw [if_pos blank, decide_eq_false notActual]
  · have positive : 0 < v := Int.not_le.1 blank
    rw [if_neg blank, found]
    simp [Except.map, positive]

theorem isArchived_of_threshold (found : almanac.archiveThreshold = .ok threshold)
    (v : Timestamp) : almanac.isArchived v = .ok (decide (threshold < v)) := by
  simp only [isArchived]
  rw [found]
  rfl

/-- The noon of a day from 1970 on is not blank. -/
theorem noonToday_pos (since : 1970 ≤ almanac.today.year) :
    Timestamp.blank < almanac.noonToday := by
  have epoch : daysBeforeYear (1969 + 1) = 719162 := by decide
  have notBefore : ¬ almanac.today.ordinal < daysBeforeYear (1969 + 1) := fun early => by
    have year := Date.year_le_iff.2 early
    omega
  change 0 < (almanac.today.ordinal - 719162) * 86400 + 43200
  omega

end Order

/-- Where the placeholders of an almanac begin and end.  Every question to the almanac is answered,
    and no placeholder is actual or archived. -/
structure Horizon (almanac : Almanac) (lowest threshold : Timestamp) : Prop where
  lowestPlaceholder_eq : almanac.lowestPlaceholder = .ok lowest
  archiveThreshold_eq : almanac.archiveThreshold = .ok threshold
  lowest_pos : 0 < lowest
  placeholder_between : ∀ name status, ∃ v,
    almanac.placeholder name status = .ok v ∧ lowest ≤ v ∧ v ≤ threshold
  readable : ∀ t, ∃ found, almanac.read? t = .ok found

/-- Every day from 1970 to 9998 has its horizon. -/
theorem exists_horizon {today : Date} (current : today.IsCurrent) :
    ∃ lowest threshold, (standard today).Horizon lowest threshold := by
  have before : today.year ≤ 9998 := current.2
  have within := threshold_le_lastOrdinal before
  refine ⟨noonOf ((standard today).placeholderOrdinal none .nextAction),
    noonOf (today.ordinal + 300), ?_⟩
  constructor
  case lowestPlaceholder_eq => exact placeholder_standard within none .nextAction
  case archiveThreshold_eq => exact archiveThreshold_standard within
  -- A placeholder lies after the start of the epoch, because the current day does.
  case lowest_pos =>
    have later := @today_lt_placeholderOrdinal (standard today) placesAhead_standard none .nextAction
    exact Int.lt_trans (noonToday_pos current.1) (noonOf_lt_noonOf_iff.2 later)
  case placeholder_between =>
    intro name status
    have lowest := @lowest_le_placeholderOrdinal (standard today) placesAhead_standard name status
    exact ⟨_, placeholder_standard within name status, noonOf_le_noonOf lowest,
      noonOf_le_noonOf (placeholderOrdinal_le today name status)⟩
  case readable => exact read?_eq_ok before

namespace Horizon

variable {almanac : Almanac} {lowest threshold : Timestamp}

theorem isActual_eq (horizon : almanac.Horizon lowest threshold) (v : Timestamp) :
    almanac.isActual v = .ok (decide (0 < v ∧ v < lowest)) :=
  isActual_of_lowest horizon.lowestPlaceholder_eq v

theorem isArchived_eq (horizon : almanac.Horizon lowest threshold) (v : Timestamp) :
    almanac.isArchived v = .ok (decide (threshold < v)) :=
  isArchived_of_threshold horizon.archiveThreshold_eq v

theorem lowest_le_threshold (horizon : almanac.Horizon lowest threshold) : lowest ≤ threshold := by
  obtain ⟨v, -, low, high⟩ := horizon.placeholder_between none .none
  exact Int.le_trans low high

theorem answers (horizon : almanac.Horizon lowest threshold) : almanac.Answers where
  readable := horizon.readable
  archiveThreshold := ⟨threshold, horizon.archiveThreshold_eq⟩
  placeholder name status := by
    obtain ⟨v, placed, -⟩ := horizon.placeholder_between name status
    exact ⟨v, placed⟩

end Horizon

/-! ## Kinds of time stamps -/

/-- A time stamp is of one kind only: blank, actual, a placeholder or archived.  Under all conventions
    that place placeholders ahead, each of them that the calendar reaches comes after the lowest one,
    and that one after today.  Under the standard conventions the archive comes after all of them. -/
theorem placeholder_apart :
    (∀ (almanac : Almanac) (name : Option Text) (status : Status),
      almanac.conventions.PlacesAhead → 1970 ≤ almanac.today.year →
      almanac.placeholderOrdinal name status ≤ Date.lastOrdinal →
      ∃ lowest v, almanac.lowestPlaceholder = .ok lowest ∧
        almanac.placeholder name status = .ok v ∧ Timestamp.blank < almanac.noonToday ∧
        almanac.noonToday < lowest ∧ lowest ≤ v ∧ almanac.isActual v = .ok false) ∧
    ∀ today : Date, today.ordinal + 300 ≤ Date.lastOrdinal →
      (∀ name status, ∃ v, (standard today).placeholder name status = .ok v ∧
        (standard today).isArchived v = .ok false) ∧
      ∀ v, (standard today).isArchived v = .ok true → (standard today).isActual v = .ok false := by
  constructor
  · intro almanac name status ahead since within
    have ordered := lowest_le_placeholderOrdinal ahead name status
    have lowest : almanac.lowestPlaceholder =
        .ok (noonOf (almanac.placeholderOrdinal none .nextAction)) :=
      placeholder_eq_ok ahead none .nextAction (Int.le_trans ordered within)
    have later := today_lt_placeholderOrdinal ahead none .nextAction
    refine ⟨_, _, lowest, placeholder_eq_ok ahead name status within, noonToday_pos since,
      noonOf_lt_noonOf_iff.2 later, noonOf_le_noonOf ordered, ?_⟩
    rw [isActual_of_lowest lowest, decide_eq_false]
    exact fun actual => Int.not_lt.2 (noonOf_le_noonOf ordered) actual.2
  · intro today within
    have isArchived := isArchived_of_threshold (archiveThreshold_standard within)
    refine ⟨fun name status => ?_, fun v archived => ?_⟩
    · refine ⟨_, placeholder_standard within name status, ?_⟩
      rw [isArchived, decide_eq_false]
      exact Int.not_lt.2 (noonOf_le_noonOf (placeholderOrdinal_le today name status))
    · -- What is archived lies after every placeholder, and so after the lowest one.
      rw [isArchived] at archived
      have beyond : noonOf (today.ordinal + 300) < v := by simpa using archived
      have lowest := noonOf_le_noonOf (placeholderOrdinal_le today none .nextAction)
      rw [isActual_of_lowest (placeholder_standard within none .nextAction), decide_eq_false]
      exact fun actual => Int.lt_asymm beyond (Int.lt_of_lt_of_le actual.2 lowest)

/-- On 31 January 1970 the notes of the next year, with a day that leads beyond two months, are no
    actual dates.  On the last day that has an archive threshold, a placeholder is not archived, and
    what comes after the last date is. -/
theorem placeholder_apart_ends :
    let conventions : Conventions :=
      { dates := { defaultMonthOffset := 1, workMonthOffset := 1, notesMonthOffset := 13 },
        status := { placeholderDays := [("plan", 60)] } }
    let first : Almanac := ⟨conventions, ⟨1970, 1, 31, by decide⟩⟩
    let last := standard ⟨9999, 3, 6, by decide⟩
    first.placeholder (some "x Notes") .planning = .ok 39355200 ∧
      first.isActual 39355200 = .ok false ∧
      last.placeholder none .reference = .ok 253386187200 ∧
      last.isArchived 253386187200 = .ok false ∧
      last.isArchived 253402257601 = .ok true ∧ last.isActual 253402257601 = .ok false := by
  intro conventions first last
  obtain ⟨ahead, standardly⟩ := placeholder_apart
  have places : conventions.PlacesAhead := {
    offset_pos := by decide
    offset_work := by decide
    offset_notes := by decide
    day_pos := by decide
    day_first := fun status => by
      have plan : Status.ofWord? ['p', 'l', 'a', 'n'] = some .planning := by decide +kernel
      cases status <;>
        simp [conventions, Conventions.Statuses.placeholderDay, plan, Status.placeholderDay] }
  obtain ⟨lowest, v, -, placed, -, -, -, notActual⟩ :=
    ahead first (some "x Notes") .planning places (by decide) (by decide +kernel)
  have notes : first.placeholder (some "x Notes") .planning = .ok 39355200 := by decide +kernel
  obtain ⟨unarchived, archived⟩ := standardly ⟨9999, 3, 6, by decide⟩ (by decide)
  obtain ⟨w, placedLast, notArchived⟩ := unarchived none .reference
  have reference : last.placeholder none .reference = .ok 253386187200 := by decide +kernel
  have beyond : last.isArchived 253402257601 = .ok true := by decide +kernel
  rw [notes] at placed
  rw [reference] at placedLast
  cases placed
  cases placedLast
  exact ⟨notes, notActual, reference, notArchived, beyond, archived _ beyond⟩

end Almanac

end TaskTitles
