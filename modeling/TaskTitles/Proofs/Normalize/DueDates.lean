import TaskTitles.Proofs.Normalize.Banners
import TaskTitles.Proofs.Normalize.Frame

/-!
# The due date after a pass

A date in the title becomes the due date and is pinned, unless a modifier takes the pin off.  A task
that leaves a pass without a pin has an archived due date, or else the placeholder of the context and
the status with which it leaves the pass (`normalize_dueDate`).
-/

namespace TaskTitles.Engine

open Calendar Text

section Rules

variable {engine : Engine} {contexts folders : Option Catalog} {task : Task}

/-- A date that is read from the title is pinned. -/
theorem applyDueDate_read {text : Text} {due : Timestamp}
    (read : engine.almanac.read? text = .ok (some due)) :
    engine.applyDueDate task (some text) = .ok ({ task with dueDate := due }, .pinned, []) := by
  rw [applyDueDate, read]
  rfl

/-- Modifiers leave due date and note alone, and only the one for no due date touches the pin. -/
theorem applyModifiers_dates (engine : Engine) (task : Task) (pin : Pin) (words : List Text)
    (contexts folders : Option Catalog) :
    let applied := engine.applyModifiers task pin words contexts folders
    applied.1.dueDate = task.dueDate ∧ applied.1.note = task.note ∧
      (engine.conventions.keywords.noDueDate ∉ words → applied.2 = pin) := by
  refine ⟨rfl, rfl, fun absent => ?_⟩
  have notTaken : (takeLiteral engine.conventions.keywords.noDueDate
      (takeFirst Priority.ofWord? words).2).1 = false :=
    takeLiteral_of_not_mem fun member => absent (takeFirst_sublist.subset member)
  have decided : (engine.applyModifiers task pin words contexts folders).2 =
      if (takeLiteral engine.conventions.keywords.noDueDate
        (takeFirst Priority.ofWord? words).2).1 && engine.isPinned task pin then .cleared
      else pin := rfl
  rw [decided, notTaken, Bool.false_and, if_neg Bool.false_ne_true]

/-- The due date is archived, or the placeholder of the context and the status of the task. -/
def IsPlaced (engine : Engine) (contexts : Option Catalog) (task : Task) : Prop :=
  engine.almanac.isArchived task.dueDate = .ok true ∨
    engine.almanac.placeholder (contextName task contexts) task.status = .ok task.dueDate

theorem isPlaced_applyPlaceholder {placed : Task}
    (dated : engine.applyPlaceholder task false contexts = .ok placed) :
    engine.IsPlaced contexts placed := by
  rw [applyPlaceholder, if_neg Bool.false_ne_true] at dated
  obtain ⟨archived, asked, dated⟩ := exists_of_bind_eq_ok dated
  split at dated
  · next isArchived =>
    cases dated
    exact .inl (isArchived ▸ asked)
  · obtain ⟨due, found, same⟩ := exists_of_bind_eq_ok dated
    cases same
    exact .inr found

end Rules

section Horizon

variable {today : Date} {lowest threshold : Timestamp}
  (horizon : (Almanac.standard today).Horizon lowest threshold)

include horizon

/-- Settling keeps the due date of a task that is pinned and writes the pin into the note; where the
    note shows no pin afterwards, the due date has found its place. -/
theorem exists_settle_dueDate (original : Task) {current : Task} (pin : Pin) (events : List Event)
    (contexts folders : Option Catalog) (fits : current.note.length ≤ 600) :
    ∃ outcome, (standard today).settle original current pin events contexts folders = .ok outcome ∧
      (pin = .pinned → outcome.task.dueDate = current.dueDate ∧
        ({} : Note.Codec).isPinned outcome.task.note = true) ∧
      (({} : Note.Codec).isPinned outcome.task.note = false →
        (standard today).IsPlaced contexts outcome.task) := by
  obtain ⟨context, folder, status, framed⟩ := tied_frame (standard today) current contexts folders
  have sameDue : ((standard today).tied current contexts folders).dueDate = current.dueDate := by
    rw [framed]
  have sameNote := note_tied (standard today) current contexts folders
  obtain ⟨outcome, due, settled, dated, stamped, -⟩ :=
    exists_settled horizon original current pin events contexts folders
  refine ⟨outcome, settled, ?_⟩
  rw [stamped]
  generalize (standard today).tied current contexts folders = tied at *
  cases pinned : (standard today).isPinned tied pin with
  | true =>
    have noted : ({} : Note.Codec).isPinned
        ((standard today).applyBanner { tied with dueDate := due } true).note = true :=
      isPinned_applyBanner (by rw [sameNote]; exact fits)
    rw [pinned, applyPlaceholder_pinned, Except.ok.injEq] at dated
    have kept : tied.dueDate = due := congrArg Task.dueDate dated
    exact ⟨fun _ => ⟨kept.symm.trans sameDue, noted⟩,
      fun unnoted => absurd (unnoted.symm.trans noted) Bool.false_ne_true⟩
  | false =>
    rw [pinned] at dated
    -- The banner is written after the date has been placed, and leaves it alone.
    have placed : (standard today).IsPlaced contexts { tied with dueDate := due } :=
      isPlaced_applyPlaceholder dated
    refine ⟨?_, fun _ => placed⟩
    rintro rfl
    cases pinned

end Horizon

/-- A date in the title is the due date of the task and pinned, unless a modifier says that there is
    none; and without a pin, the due date is archived or a placeholder. -/
theorem normalize_dueDate {today : Date} (current : today.IsCurrent)
    (contexts folders : Option Catalog) {task : Task} (fits : task.note.length ≤ 600) :
    ∃ outcome, (standard today).normalize task contexts folders = .ok outcome ∧
      (∀ tokens text due,
        (standard today).tokenize ((standard today).stripReminder task.title) = .ok tokens →
        tokens.dueDate = some text → (Almanac.standard today).read? text = .ok (some due) →
        ("nod" : Text) ∉ tokens.modifiers →
        outcome.task.dueDate = due ∧ ({} : Note.Codec).isPinned outcome.task.note = true) ∧
      (({} : Note.Codec).isPinned outcome.task.note = false →
        (Almanac.standard today).isArchived outcome.task.dueDate = .ok true ∨
        (Almanac.standard today).placeholder (contextName outcome.task contexts)
          outcome.task.status = .ok outcome.task.dueDate) := by
  obtain ⟨lowest, threshold, horizon⟩ := Almanac.exists_horizon current
  obtain ⟨tokens, stored, start, pin, events, tokenized, -, dued, read⟩ :=
    exists_read horizon task contexts folders
  obtain ⟨sameDue, sameNote, samePin⟩ := applyModifiers_dates (standard today)
    (applyRecurrence { task with
      title := tokens.description, dueDate := stored, startDate := start } tokens.recurrence)
    pin tokens.modifiers contexts folders
  rw [read]
  generalize (standard today).applyModifiers _ pin tokens.modifiers contexts folders = modified at *
  obtain ⟨modified, decided⟩ := modified
  have modifiedFits : modified.note.length ≤ 600 := by
    rw [sameNote]
    exact fits
  obtain ⟨outcome, settled, keeps, places⟩ :=
    exists_settle_dueDate horizon task decided events contexts folders modifiedFits
  refine ⟨outcome, settled, ?_, places⟩
  intro tokens' text due tokenized' named dated noKeyword
  cases tokenized.symm.trans tokenized'
  -- The date of the title is the one that has been stored, under a pin that no modifier takes off.
  have readOff : (standard today).applyDueDate { task with title := tokens.description } (some text) =
      .ok ({ task with title := tokens.description, dueDate := due }, .pinned, []) :=
    applyDueDate_read dated
  rw [named, readOff, Except.ok.injEq, Prod.mk.injEq, Prod.mk.injEq] at dued
  obtain ⟨sameTask, rfl, -⟩ := dued
  have isStored : due = stored := congrArg Task.dueDate sameTask
  obtain ⟨keptDue, noted⟩ := keeps (samePin noKeyword)
  exact ⟨keptDue.trans (sameDue.trans isStored.symm), noted⟩

/-- An errand for tomorrow is due tomorrow, and one with a pin that a modifier takes off gets the
    placeholder of a next action without a context. -/
theorem normalize_dueDate_tomorrow :
    (∃ outcome,
      (standard ⟨2024, 1, 15, by decide⟩).normalize { title := "Ring home /errand /tomorrow" }
        none none = .ok outcome ∧
      outcome.task.dueDate = 1705406400 ∧ ({} : Note.Codec).isPinned outcome.task.note = true) ∧
    ∃ outcome,
      (standard ⟨2024, 1, 15, by decide⟩).normalize
        { title := "Ring home /nod", note := "~~//", dueDate := 1705406400 } none none =
          .ok outcome ∧
      ({} : Note.Codec).isPinned outcome.task.note = false ∧
      outcome.task.dueDate = 1711972800 := by
  refine ⟨?_, ?_⟩
  · obtain ⟨outcome, normalized, dated, -⟩ := @normalize_dueDate ⟨2024, 1, 15, by decide⟩
      (by decide) none none { title := "Ring home /errand /tomorrow" } (by decide)
    exact ⟨outcome, normalized, dated
      { description := "Ring home", dueDate := some "tomorrow", modifiers := ["errand"] }
      "tomorrow" 1705406400 (by decide +kernel) rfl (by decide +kernel) (by decide)⟩
  · obtain ⟨outcome, normalized, -, placed⟩ := @normalize_dueDate ⟨2024, 1, 15, by decide⟩
      (by decide) none none
      { title := "Ring home /nod", note := "~~//", dueDate := 1705406400 } (by decide)
    have evaluated : (standard ⟨2024, 1, 15, by decide⟩).normalize
        { title := "Ring home /nod", note := "~~//", dueDate := 1705406400 } none none =
        .ok {
          task := {
            title := "Ring home", dueDate := 1711972800, status := .nextAction }
          changed := true, events := [.normalized 0 "Ring home"] } := by decide +kernel
    obtain rfl := Except.ok.inj (normalized.symm.trans evaluated)
    -- The date is not archived, so it is the placeholder.
    have unpinned : ({} : Note.Codec).isPinned [] = false := by decide
    refine ⟨_, normalized, unpinned, ?_⟩
    rcases placed unpinned with archived | found
    · exact absurd archived (by decide +kernel)
    · have placeholder : (Almanac.standard ⟨2024, 1, 15, by decide⟩).placeholder none .nextAction =
          .ok 1711972800 := by decide +kernel
      exact (Except.ok.inj (placeholder.symm.trans found)).symm

end TaskTitles.Engine
