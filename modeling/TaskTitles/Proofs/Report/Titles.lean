import TaskTitles.Proofs.Calendar.Timestamps
import TaskTitles.Proofs.Normalize.Numbers
import TaskTitles.Proofs.Report.Shapes
import TaskTitles.Proofs.Value.Short
import TaskTitles.Report.Titles

/-!
# Every question about a title is answered

Before the last year of the calendar, no text makes an operation on titles and dates break off
(`exists_reports`).  Each comes to a report: a success with data in its shape, or a failure that says
which of the inputs was at fault.  The dates of a report can be written out because they are noons of
dates or have been checked before.  Only the failure over a due date repeats a number that is given,
and breaks off where that has too many digits.
-/

namespace TaskTitles

open Calendar Validation

/-- The operation has succeeded, and its data is in the shape. -/
structure Report.Fits (report : Report) (shape : Report.Shape) : Prop where
  succeeded : report.succeeded = true
  settled : shape.check (.table report.data) = .valid (.table report.data)

/-- The operation has failed with the code. -/
structure Report.FailsWith (report : Report) (code : FailureCode) : Prop where
  failed : report.succeeded = false
  code : report.failure.map (·.code) = some code.name

theorem Report.failsWith_failed (operation : Text) (code : FailureCode) (message : Text)
    (detail : Value.Fields) : (Report.failed operation code message detail).FailsWith code :=
  ⟨rfl, rfl⟩

/-- A word is given, and it names no status. -/
def Status.IsUnknown (word? : Option Text) : Prop :=
  ∃ word, word? = some word ∧ Status.ofWord? word = Option.none

/-- Either the word is unknown, or there is none, or it stands for a status. -/
theorem Status.read_cases (word? : Option Text) :
    let read := word?.map fun word => (word, ofWord? word)
    (IsUnknown word? ∧ ∃ word, read = some (word, Option.none)) ∨
      ¬ IsUnknown word? ∧
        (read = Option.none ∨ ∃ word status, read = some (word, some status)) := by
  intro read
  cases word? with
  | none => exact .inr ⟨by rintro ⟨_, ⟨⟩, _⟩, .inl rfl⟩
  | some word =>
    have pair : read = some (word, ofWord? word) := rfl
    cases named : ofWord? word with
    | none =>
      rw [named] at pair
      exact .inl ⟨⟨word, rfl, named⟩, word, pair⟩
    | some status =>
      rw [named] at pair
      refine .inr ⟨?_, .inr ⟨word, status, pair⟩⟩
      rintro ⟨_, ⟨⟩, unknown⟩
      cases named.symm.trans unknown

/-! ## Tasks in reports -/

namespace Task

open Report.Shape

theorem payload_eq_ok {task : Task} (due : ∃ t, Timestamp.isoDate? task.dueDate = .ok t)
    (start : ∃ t, Timestamp.isoDate? task.startDate = .ok t) :
    ∃ fields, task.payload = .ok fields := by
  obtain ⟨due, dueShown⟩ := due
  obtain ⟨start, startShown⟩ := start
  rw [payload, dueShown, ok_bind, startShown, ok_bind]
  exact ⟨_, rfl⟩

/-- The fields of the shape come first; the children and the written dates follow. -/
theorem check_payload {task : Task} {fields : Value.Fields} (shown : task.payload = .ok fields) :
    openRecord taskRules (.table fields) = .valid (.table fields) := by
  obtain ⟨due, -, shown⟩ := exists_of_bind_eq_ok shown
  obtain ⟨start, -, shown⟩ := exists_of_bind_eq_ok shown
  have follow : Follow taskRules
      [("id", .int task.id), ("title", .text task.title), ("note", .text task.note),
       ("priority", .text task.priority.word), ("starred", .bool task.starred),
       ("due_date", .int task.dueDate), ("start_date", .int task.startDate),
       ("repeat", .text task.recurrence), ("context", .int task.context),
       ("folder", .int task.folder), ("tags", .ofTexts task.tags),
       ("status", .text task.status.word)] :=
    .cons (accepts_integer ..) <| .cons (accepts_text ..) <| .cons (accepts_text ..) <|
    .cons (accepts_text ..) <| .cons (accepts_bool ..) <| .cons (accepts_integer ..) <|
    .cons (accepts_integer ..) <| .cons (accepts_text ..) <| .cons (accepts_integer ..) <|
    .cons (accepts_integer ..) <| .cons (accepts_texts ..) <| .cons (accepts_text ..) .nil
  have distinct : (["id", "title", "note", "priority", "starred", "due_date", "start_date",
      "repeat", "context", "folder", "tags", "status", "children", "due", "start"] :
        List Text).Nodup := by decide
  cases shown
  exact openRecord_eq [("children", .int task.children), ("due", .ofText? due),
    ("start", .ofText? start)] follow distinct

end Task

namespace Engine

open Report.Shape

/-! ## Titles -/

theorem exists_tokensReport {today : Date} (answers : (Almanac.standard today).Answers)
    (title : Text) :
    ∃ report, (standard today).tokensReport title = .ok report ∧ report.Fits .tokens := by
  obtain ⟨tokens, tokenized, -⟩ := tokenize_eq_ok answers title
  rw [tokensReport, tokenized]
  refine ⟨_, rfl, rfl, closedRecord_eq ?_ (by decide)⟩
  exact .cons (accepts_text ..) <| .cons (accepts_text ..) <| .cons (accepts_nullable ..) <|
    .cons (accepts_nullable ..) <| .cons (accepts_nullable ..) <| .cons (accepts_texts ..) .nil

/-! ## Dates -/

section Dates

variable {engine : Engine} (answers : engine.almanac.Answers)

include answers

/-- A text is reported as no date just where the almanac reads none from it. -/
theorem exists_dateReport (t : Text) :
    ∃ report, engine.dateReport t = .ok report ∧
      (engine.almanac.read? t = .ok none ∧ report.FailsWith .invalidDate ∨
        ∃ v, engine.almanac.read? t = .ok (some v) ∧ report.Fits .date) := by
  obtain ⟨found, read⟩ := answers.readable t
  rw [dateReport, read, ok_bind]
  cases found with
  | none => exact ⟨_, rfl, .inl ⟨rfl, Report.failsWith_failed ..⟩⟩
  | some v =>
    obtain ⟨d, rfl⟩ := Almanac.noon_of_read? read
    dsimp only
    rw [Timestamp.isoDate?_noon, ok_bind]
    refine ⟨_, rfl, .inr ⟨_, rfl, rfl, closedRecord_eq ?_ (by decide)⟩⟩
    exact .cons (accepts_text ..) <| .cons (accepts_integer ..) <| .cons (accepts_text ..) .nil

theorem exists_placeholderReport_of_status (context : Option Text) (status : Status) :
    ∃ report, placeholderReport.report engine context status = .ok report ∧
      report.Fits .placeholder := by
  obtain ⟨v, placed⟩ := answers.placeholder context status
  obtain ⟨d, rfl⟩ := Almanac.noon_of_placeholder placed
  rw [placeholderReport.report, placed, ok_bind, Timestamp.isoDate?_noon, ok_bind]
  refine ⟨_, rfl, rfl, closedRecord_eq ?_ (by decide)⟩
  exact .cons (accepts_text ..) <| .cons (accepts_nullable ..) <| .cons (accepts_integer ..) <|
    .cons (accepts_text ..) .nil

/-- Every context has its placeholders, so only the word for the status can be at fault. -/
theorem exists_placeholderReport (word? context : Option Text) :
    ∃ report, engine.placeholderReport word? context = .ok report ∧
      (Status.IsUnknown word? ∧ report.FailsWith .unknownStatus ∨
        ¬ Status.IsUnknown word? ∧ report.Fits .placeholder) := by
  rcases Status.read_cases word? with
    ⟨unknown, word, read⟩ | ⟨known, read | ⟨word, status, read⟩⟩ <;> rw [placeholderReport, read]
  · exact ⟨_, rfl, .inl ⟨unknown, Report.failsWith_failed ..⟩⟩
  · obtain ⟨report, made, fits⟩ :=
      exists_placeholderReport_of_status answers context engine.conventions.status.default
    exact ⟨report, made, .inr ⟨known, fits⟩⟩
  · obtain ⟨report, made, fits⟩ := exists_placeholderReport_of_status answers context status
    exact ⟨report, made, .inr ⟨known, fits⟩⟩

end Dates

/-! ## Tasks -/

/-- A due date that cannot be archived is reported, unless it has too many digits to be repeated. -/
theorem dueDateReport_cases (dueDate : Timestamp) :
    dueDate.natAbs < 10 ^ Flaw.maxDigits ∧
        (∃ report, dueDateReport dueDate = .ok report ∧ report.FailsWith .invalidDate) ∨
      10 ^ Flaw.maxDigits ≤ dueDate.natAbs ∧ dueDateReport dueDate = .error .tooManyDigits := by
  rw [dueDateReport]
  cases numeral : Text.ofInt? dueDate with
  | none => exact .inr ⟨ofInt?_eq_none_iff.1 numeral, rfl⟩
  | some t =>
    have short := isSome_ofInt?_iff.1 (Option.isSome_of_eq_some numeral)
    exact .inl ⟨short, _, rfl, Report.failsWith_failed ..⟩

section Tasks

variable {today : Date} (answers : (Almanac.standard today).Answers)

include answers

theorem exists_taskReport_of_status (draft : Draft) (status : Status) :
    let result := (taskReport.report (standard today) draft status).result
    let inRange := 0 ≤ draft.dueDate ∧ draft.dueDate ≤ Timestamp.last
    inRange ∧ (∃ report, result = .ok report ∧ report.Fits .normalized) ∨
      ¬ inRange ∧ draft.dueDate.natAbs < 10 ^ Flaw.maxDigits ∧
        (∃ report, result = .ok report ∧ report.FailsWith .invalidDate) ∨
      ¬ inRange ∧ 10 ^ Flaw.maxDigits ≤ draft.dueDate.natAbs ∧
        result = .error .tooManyDigits := by
  dsimp only
  rw [taskReport.report]
  split
  · next representable =>
    -- What a pass writes into the dates are noons, and the due date that it finds has been checked.
    have zero : ∃ t, Timestamp.isoDate? 0 = .ok t := ⟨none, rfl⟩
    have numbers : Task.HasNumbers (fun v => ∃ t, Timestamp.isoDate? v = .ok t)
        { title := draft.title, note := draft.note, status, dueDate := draft.dueDate } :=
      ⟨zero, Timestamp.exists_isoDate? representable, zero, zero, zero, zero⟩
    obtain ⟨outcome, normalized⟩ := normalize_eq_ok answers
      { title := draft.title, note := draft.note, status, dueDate := draft.dueDate } none none
    have settled := hasNumbers_normalize zero (fun d => ⟨_, Timestamp.isoDate?_noon d⟩)
      (by rintro _ ⟨⟩) (by rintro _ ⟨⟩) numbers normalized
    obtain ⟨fields, shown⟩ := Task.payload_eq_ok settled.dueDate settled.startDate
    dsimp only
    rw [normalized]
    dsimp only
    rw [shown]
    refine .inl ⟨Timestamp.isRepresentable_iff.1 representable, _, rfl, rfl,
      closedRecord_eq ?_ (by decide)⟩
    exact .cons (accepts_bool ..) <|
      .cons (accepts_nested "task" (Task.check_payload shown)) .nil
  · next unrepresentable =>
    have outside := mt Timestamp.isRepresentable_iff.2 unrepresentable
    rcases dueDateReport_cases draft.dueDate with ⟨short, reported⟩ | ⟨long, broken⟩
    · exact .inr (.inl ⟨outside, short, reported⟩)
    · exact .inr (.inr ⟨outside, long, broken⟩)

/-- The word for the status is looked at first, and the due date after it. -/
theorem exists_taskReport (draft : Draft) :
    let result := ((standard today).taskReport draft).result
    let inRange := 0 ≤ draft.dueDate ∧ draft.dueDate ≤ Timestamp.last
    Status.IsUnknown draft.status ∧
        (∃ report, result = .ok report ∧ report.FailsWith .unknownStatus) ∨
      ¬ Status.IsUnknown draft.status ∧
        (inRange ∧ (∃ report, result = .ok report ∧ report.Fits .normalized) ∨
          ¬ inRange ∧ draft.dueDate.natAbs < 10 ^ Flaw.maxDigits ∧
            (∃ report, result = .ok report ∧ report.FailsWith .invalidDate) ∨
          ¬ inRange ∧ 10 ^ Flaw.maxDigits ≤ draft.dueDate.natAbs ∧
            result = .error .tooManyDigits) := by
  dsimp only
  rcases Status.read_cases draft.status with
    ⟨unknown, word, read⟩ | ⟨known, read | ⟨word, status, read⟩⟩ <;> rw [taskReport, read]
  · exact .inl ⟨unknown, _, rfl, Report.failsWith_failed ..⟩
  · exact .inr ⟨known, exists_taskReport_of_status answers draft .none⟩
  · exact .inr ⟨known, exists_taskReport_of_status answers draft status⟩

end Tasks

theorem result_taskReport_of_long {engine : Engine} {draft : Draft} (noStatus : draft.status = none)
    (long : 10 ^ Flaw.maxDigits ≤ draft.dueDate.natAbs) :
    (engine.taskReport draft).result = .error .tooManyDigits := by
  -- The last time stamp that can be archived has twelve digits.
  have size : 10 ^ 12 ≤ 10 ^ Flaw.maxDigits := Nat.pow_le_pow_right (by decide) (by decide)
  have outside : ¬ Timestamp.isRepresentable draft.dueDate = true := by
    rw [Timestamp.isRepresentable_iff, Timestamp.last]
    omega
  rw [taskReport, noStatus, Option.map_none]
  dsimp only
  rw [taskReport.report, if_neg outside, dueDateReport, ofInt?_eq_none_iff.2 long]

/-! ## All operations -/

/-- Before the last year of the calendar, every task can be normalized, whatever catalogs there are,
    and every operation on titles and dates comes to a report, but for one kind of input.  It fails
    only for a word that names no status, for a text that is no date, and for a due date that cannot be
    archived, in this order; in all other cases its data is in its shape.  Over a due date that cannot
    be archived and has too many digits it breaks off. -/
theorem exists_reports {today : Date} (before : today.year ≤ 9998) :
    let engine := standard today
    (∀ task contexts folders, ∃ outcome, engine.normalize task contexts folders = .ok outcome) ∧
    (∀ title, ∃ report, engine.tokensReport title = .ok report ∧ report.Fits .tokens) ∧
    (∀ t, ∃ report, engine.dateReport t = .ok report ∧
      (engine.almanac.read? t = .ok none ∧ report.FailsWith .invalidDate ∨
        ∃ v, engine.almanac.read? t = .ok (some v) ∧ report.Fits .date)) ∧
    (∀ word? context, ∃ report, engine.placeholderReport word? context = .ok report ∧
      (Status.IsUnknown word? ∧ report.FailsWith .unknownStatus ∨
        ¬ Status.IsUnknown word? ∧ report.Fits .placeholder)) ∧
    ∀ draft : Draft,
      let result := (engine.taskReport draft).result
      let inRange := 0 ≤ draft.dueDate ∧ draft.dueDate ≤ Timestamp.last
      Status.IsUnknown draft.status ∧
          (∃ report, result = .ok report ∧ report.FailsWith .unknownStatus) ∨
        ¬ Status.IsUnknown draft.status ∧
          (inRange ∧ (∃ report, result = .ok report ∧ report.Fits .normalized) ∨
            ¬ inRange ∧ draft.dueDate.natAbs < 10 ^ Flaw.maxDigits ∧
              (∃ report, result = .ok report ∧ report.FailsWith .invalidDate) ∨
            ¬ inRange ∧ 10 ^ Flaw.maxDigits ≤ draft.dueDate.natAbs ∧
              result = .error .tooManyDigits) := by
  have answers := Almanac.answers_standard before
  exact ⟨normalize_eq_ok answers, exists_tokensReport answers, exists_dateReport answers,
    exists_placeholderReport answers, exists_taskReport answers⟩

/-- On the last day before the last year, a start date in the first year is reported with the task
    that has it. -/
theorem exists_reports_first_year :
    ∃ report, ((standard ⟨9998, 12, 31, by decide⟩).taskReport
      { title := "Ring home ///1/1/0001", status := some "plan" }).result = .ok report ∧
      report.Fits .normalized := by
  obtain ⟨-, -, -, -, tasks⟩ := @exists_reports ⟨9998, 12, 31, by decide⟩ (by decide)
  rcases tasks { title := "Ring home ///1/1/0001", status := some "plan" } with
    ⟨⟨word, given, unknown⟩, -⟩ | ⟨-, ⟨-, reported⟩ | ⟨outside, -⟩ | ⟨outside, -⟩⟩
  · cases given
    exact absurd unknown (by decide)
  · exact reported
  · exact absurd (by decide) outside
  · exact absurd (by decide) outside

/-- A due date with one digit too many comes to no report. -/
theorem taskReport_endless_date :
    ¬ ∃ report, ((standard ⟨2024, 1, 15, by decide⟩).taskReport
      { title := "Ring home", dueDate := (10 : Int) ^ Flaw.maxDigits }).result = .ok report := by
  rintro ⟨report, reported⟩
  have long := le_natAbs_ten_pow Flaw.maxDigits
  generalize (10 : Int) ^ Flaw.maxDigits = dueDate at long reported
  rw [result_taskReport_of_long rfl long] at reported
  cases reported

end Engine

end TaskTitles
