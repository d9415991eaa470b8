import TaskTitles.Proofs.Normalize.Tidy

/-!
# Normalizing twice

A tidy task stays as it is if its note says of the pin what the banner of the task says, and its due
date is what the rules for such a task give (`IsTidy.normalize_pinned`, `IsTidy.normalize_idle`).
After a pass the task is of one of these two kinds, so a second pass on the same day changes nothing
(`normalize_normalize`).
-/

namespace TaskTitles.Engine

open Calendar Text

section FixedPoints

variable {today : Date} {lowest threshold : Timestamp}
  (horizon : (Almanac.standard today).Horizon lowest threshold)
  {contexts folders : Option Catalog} {task : Task}

include horizon

/-- A task with a due date that its note pins, under the banner that says so, stays as it is. -/
theorem IsTidy.normalize_pinned (tidy : (standard today).IsTidy contexts folders task)
    (unprefixed : (standard today).stripReminder task.title = task.title)
    (dated : task.dueDate ≠ Timestamp.blank)
    (noted : ({} : Note.Codec).isPinned task.note = true)
    (written : (standard today).applyBanner task true = task) :
    ∃ outcome, (standard today).normalize task contexts folders = .ok outcome ∧
      outcome.task = task ∧ outcome.changed = false := by
  have pinned : (standard today).isPinned task .unset = true := noted
  obtain ⟨outcome, normalized, stamped, changed⟩ := tidy.normalize_eq_ok unprefixed
    (inferPin_noted horizon dated noted) (by rw [pinned, applyPlaceholder_pinned])
  rw [pinned, written] at stamped
  exact ⟨outcome, normalized, stamped, by rw [changed, stamped]; simp⟩

/-- A task with the due date that the rules give it, under a banner without a pin, stays as it is. -/
theorem IsTidy.normalize_idle (tidy : (standard today).IsTidy contexts folders task)
    (unprefixed : (standard today).stripReminder task.title = task.title)
    (idle : lowest ≤ task.dueDate)
    (unnoted : ({} : Note.Codec).isPinned task.note = false)
    (dated : (standard today).applyPlaceholder task false contexts = .ok task)
    (written : (standard today).applyBanner task false = task) :
    ∃ outcome, (standard today).normalize task contexts folders = .ok outcome ∧
      outcome.task = task ∧ outcome.changed = false := by
  have unpinned : (standard today).isPinned task .unset = false := unnoted
  have inferred := inferPin_idle horizon unnoted fun actual => Int.not_le.2 actual.2 idle
  obtain ⟨outcome, normalized, stamped, changed⟩ :=
    tidy.normalize_eq_ok unprefixed inferred (by rw [unpinned, dated])
  rw [unpinned, written] at stamped
  exact ⟨outcome, normalized, stamped, by rw [changed, stamped]; simp⟩

end FixedPoints

/-! ## The second pass -/

/-- A second pass on the same day, with the same catalogs, changes nothing. -/
theorem normalize_normalize {today : Date} (current : today.IsCurrent)
    {contexts folders : Option Catalog}
    (distinctContexts : ∀ catalog ∈ contexts, catalog.HasDistinctIds)
    (distinctFolders : ∀ catalog ∈ folders, catalog.HasDistinctIds) {task : Task}
    (fits : task.note.length ≤ 600) (orderly : ({} : Note.Codec).IsOrderly task.note) :
    ∃ outcome, (standard today).normalize task contexts folders = .ok outcome ∧
      (¬ Conventions.standard.markers.reminderPrefix <+: outcome.task.title →
        outcome.task.dueDate ≠ Timestamp.blank →
        (∀ tag ∈ outcome.task.tags, '/' ∉ tag ∧ Unbroken tag) →
        (standard today).marksProject outcome.task.note = (standard today).marksProject task.note →
        ∃ again, (standard today).normalize outcome.task contexts folders = .ok again ∧
          again.task = outcome.task ∧ again.changed = false) := by
  obtain ⟨lowest, threshold, horizon⟩ := Almanac.exists_horizon current
  obtain ⟨outcome, read, settled, pinned, due, normalized, description, -, readNote, known, settles,
    placed, stamped, -⟩ := exists_pass horizon contexts folders task
  refine ⟨outcome, normalized, ?_⟩
  have settledTidy : (standard today).IsTidy contexts folders settled :=
    settles ▸ isTidy_tied distinctContexts distinctFolders description known
  -- Before the banner is written, the note is that of the task.
  have sameNote : settled.note = task.note := by
    obtain ⟨context, folder, status, framed⟩ := tied_frame (standard today) read contexts folders
    rw [← settles, framed]
    exact readNote
  intro unprefixed dated tagged marked
  have sameTags : outcome.task.tags = settled.tags := by rw [stamped]; rfl
  rw [sameTags] at tagged
  have tidy : (standard today).IsTidy contexts folders outcome.task := by
    rw [← sameNote, stamped] at marked
    rw [stamped]
    exact settledTidy.congr due marked
  have written : (standard today).applyBanner outcome.task pinned = outcome.task := by
    rw [stamped]
    exact applyBanner_applyBanner (by rw [sameNote]; exact fits) (by rw [sameNote]; exact orderly)
      fun tag member => (tagged tag member).2
  have ofTitle : (standard today).stripReminder outcome.task.title = outcome.task.title :=
    stripReminder_eq_self unprefixed
  -- The second pass reads from the note what the first one has written about the pin.
  cases pinned with
  | true =>
    have noted : ({} : Note.Codec).isPinned outcome.task.note = true := by
      rw [stamped]
      exact isPinned_applyBanner (by rw [sameNote]; exact fits)
    exact tidy.normalize_pinned horizon ofTitle dated noted written
  | false =>
    obtain ⟨idle, datedAgain⟩ := applyPlaceholder_again horizon placed outcome.task.note
    have unnoted : ({} : Note.Codec).isPinned outcome.task.note = false := by
      rw [stamped]
      exact not_isPinned_applyBanner (by rw [sameNote]; exact orderly)
        fun tag member => (tagged tag member).1
    have whole : outcome.task = { settled with note := outcome.task.note, dueDate := due } := by
      rw [stamped]
      rfl
    rw [← whole] at datedAgain
    refine tidy.normalize_idle horizon ofTitle ?_ unnoted datedAgain written
    rw [whole]
    exact idle

/-- A date and a tag in the title: the pin and the tag are in the banner from the first pass on. -/
theorem normalize_normalize_errand :
    ∃ outcome again,
      (standard ⟨2024, 1, 15, by decide⟩).normalize
        { title := "Ring home //tomorrow /errand" } none none = .ok outcome ∧
      outcome.task.note = ("~~// /errand" : Text) ∧
      (standard ⟨2024, 1, 15, by decide⟩).normalize outcome.task none none = .ok again ∧
      again.task = outcome.task ∧ again.changed = false := by
  obtain ⟨outcome, normalized, fixed⟩ :=
    @normalize_normalize ⟨2024, 1, 15, by decide⟩ (by decide) none none (by simp) (by simp)
      { title := "Ring home //tomorrow /errand" } (by decide) ⟨by decide, by decide⟩
  have known : (standard ⟨2024, 1, 15, by decide⟩).normalize
      { title := "Ring home //tomorrow /errand" } none none =
      .ok {
        task := {
          title := "Ring home", note := "~~// /errand", dueDate := 1705406400
          tags := ["errand"], status := .nextAction }
        changed := true
        events := [.normalized 0 "Ring home"] } := by decide +kernel
  cases known.symm.trans normalized
  obtain ⟨again, second, same, unchanged⟩ :=
    fixed (by decide) (by decide) (by decide) (by decide)
  exact ⟨_, again, normalized, rfl, second, same, unchanged⟩

end TaskTitles.Engine
