import TaskTitles.Proofs.Normalize.Tidy
import TaskTitles.Proofs.Note.Headed

/-!
# Setting a due date outside and clearing it again

A task that a pass leaves unchanged is tidy, and its due date and its banner are what the rules give
(`isTidy_of_unchanged`).  An actual date that is set on such a task is pinned, and once it is cleared
the task is what it was, to the letter of its note (`normalize_set_clear`).
-/

namespace TaskTitles.Engine

open Calendar Text

variable {today : Date} {contexts folders : Option Catalog} {task : Task}

/-! ## Unchanged tasks -/

theorem stripReminder_of_infix {title : Text}
    (kept : title <:+: (standard today).stripReminder title) :
    (standard today).stripReminder title = title := by
  apply stripReminder_eq_self
  intro prefixed
  obtain ⟨rest, equal⟩ := prefixed
  have dropped : (standard today).stripReminder title = rest := by
    rw [stripReminder, ← equal, dropLead?_append]
    rfl
  have shorter := kept.length_le
  rw [dropped, ← equal, List.length_append] at shorter
  have long : Conventions.standard.markers.reminderPrefix.length = 10 := rfl
  change Conventions.standard.markers.reminderPrefix.length + rest.length ≤ rest.length at shorter
  omega

theorem described_of_unchanged {lowest threshold : Timestamp}
    (horizon : (Almanac.standard today).Horizon lowest threshold) {outcome : Outcome}
    (normalized : (standard today).normalize task contexts folders = .ok outcome)
    (unchanged : outcome.changed = false) :
    outcome.task = task ∧ Title.IsDescription ['/'] task.title ∧
      (standard today).stripReminder task.title = task.title ∧ task.status ≠ .none := by
  obtain ⟨_, read, settled, pinned, due, normalized', description, piece, -, known, settles, -,
    stamped, changed⟩ := exists_pass horizon contexts folders task
  rw [normalized, Except.ok.injEq] at normalized'
  subst normalized'
  have same : outcome.task = task := by simpa [unchanged] using changed
  rw [same] at stamped
  obtain ⟨context, folder, status, framed⟩ := tied_frame (standard today) read contexts folders
  -- What holds of title and status after any pass holds of them before this one.
  have sameTitle : task.title = read.title := by
    rw [stamped, ← settles, framed]
    rfl
  rw [← sameTitle] at description piece
  refine ⟨same, description, stripReminder_of_infix piece, ?_⟩
  have settledKnown : ((standard today).tied read contexts folders).status ≠ .none :=
    status_tied_ne_none known
  rw [settles] at settledKnown
  rw [stamped]
  exact settledKnown

/-- A task that a pass leaves unchanged is tidy, and its date and its banner are in order. -/
theorem isTidy_of_unchanged {lowest threshold : Timestamp}
    (horizon : (Almanac.standard today).Horizon lowest threshold) {outcome : Outcome}
    (normalized : (standard today).normalize task contexts folders = .ok outcome)
    (unchanged : outcome.changed = false) :
    (standard today).IsTidy contexts folders task ∧
      (standard today).stripReminder task.title = task.title ∧
      ∃ pinned, (standard today).applyPlaceholder task pinned contexts = .ok task ∧
        (standard today).applyBanner task pinned = task := by
  obtain ⟨same, description, unprefixed, known⟩ :=
    described_of_unchanged horizon normalized unchanged
  -- Nothing is read from the title, and the pass does no more than settle the task.
  obtain ⟨pin, events, inferred⟩ := inferPin_eq_ok horizon.answers task
  have defaultedEq : (standard today).defaulted task = task := by rw [defaulted, if_neg known]
  rw [normalize_unmarked (by rw [unprefixed]; exact description.unmarked) inferred, unprefixed,
    description.stripped, defaultedEq] at normalized
  obtain ⟨due, dated⟩ := applyPlaceholder_eq_ok horizon.answers
    ((standard today).tied task contexts folders)
    ((standard today).isPinned ((standard today).tied task contexts folders) pin) contexts
  obtain ⟨_, normalized', written, -⟩ := settle_eq_ok task events dated
  rw [normalized, Except.ok.injEq] at normalized'
  subst normalized'
  rw [same] at written
  -- Settling sets four fields before the note, and all of them are as they were.
  obtain ⟨context, folder, status, framed⟩ := tied_frame (standard today) task contexts folders
  generalize (standard today).isPinned _ pin = pinned at *
  rw [framed] at written dated
  have sameContext : task.context = context := congrArg Task.context written
  have sameFolder : task.folder = folder := congrArg Task.folder written
  have sameStatus : task.status = status := congrArg Task.status written
  have sameDue : task.dueDate = due := congrArg Task.dueDate written
  subst sameContext sameFolder sameStatus sameDue
  exact ⟨isTidy_of_tied_eq framed description known, unprefixed, pinned, dated, written.symm⟩

/-! ## Placeholders -/

theorem applyPlaceholder_blank {lowest threshold : Timestamp}
    (horizon : (Almanac.standard today).Horizon lowest threshold)
    (unarchived : ¬ threshold < task.dueDate)
    (dated : (standard today).applyPlaceholder task false contexts = .ok task) (note : Text) :
    (standard today).applyPlaceholder { task with note, dueDate := Timestamp.blank } false contexts =
      .ok { task with note } := by
  obtain ⟨v, placed, -⟩ := horizon.placeholder_between (contextName task contexts) task.status
  rw [applyPlaceholder_placed horizon unarchived placed, Except.ok.injEq] at dated
  have same : v = task.dueDate := congrArg Task.dueDate dated
  subst same
  have blankUnarchived : ¬ threshold < Timestamp.blank :=
    Int.not_lt.2 (Int.le_of_lt (Int.lt_of_lt_of_le horizon.lowest_pos horizon.lowest_le_threshold))
  exact applyPlaceholder_placed horizon (by exact blankUnarchived) placed

/-! ## Setting and clearing -/

theorem marksProject_headed {tags body : List Text} {note : Text}
    (under : ({} : Note.Codec).IsUnder tags body note) :
    (standard today).marksProject (Note.Codec.headed (({} : Note.Codec).encode true tags) body) =
      (standard today).marksProject note := by
  -- The markers have neither line breaks nor the first character of any part of an opening.
  have foreign : ∀ marker ∈ Conventions.standard.markers.projectNoteMarkers,
      marker ≠ [] ∧ Unbroken marker ∧
        marker.head? ∉ ({} : Note.Codec).pinMarker.map some ∧ marker.head? ≠ some ' ' := by decide
  apply marksProject_congr
  intro marker member
  obtain ⟨nonempty, unbroken, other, noBlank⟩ := foreign marker member
  exact under.infix_pin_iff Note.Codec.isPlain_default nonempty unbroken
    (fun c inPin same => other (same ▸ List.mem_map_of_mem inPin)) noBlank

section Passes

variable {lowest threshold : Timestamp}
  (horizon : (Almanac.standard today).Horizon lowest threshold)
  (tidy : (standard today).IsTidy contexts folders task)
  (unprefixed : (standard today).stripReminder task.title = task.title)

include horizon tidy unprefixed

/-- An actual date is pinned by the pass that meets it first. -/
theorem IsTidy.normalize_set (unnoted : ({} : Note.Codec).isPinned task.note = false)
    {due : Timestamp} (actual : 0 < due ∧ due < lowest) :
    ∃ set, (standard today).normalize { task with dueDate := due } contexts folders = .ok set ∧
      set.task = (standard today).applyBanner { task with dueDate := due } true := by
  have setTidy := tidy.congr due (rfl : (standard today).marksProject task.note = _)
  obtain ⟨set, normalized, stamped, -⟩ := setTidy.normalize_eq_ok unprefixed
    (inferPin_actual horizon setTidy.isSettled unnoted actual) (applyPlaceholder_pinned _ contexts)
  exact ⟨set, normalized, stamped⟩

/-- A pinned date that is gone is replaced by a placeholder, and the pin goes, too. -/
theorem IsTidy.normalize_clear {note : Text}
    (noted : ({} : Note.Codec).isPinned note = true)
    (marked : (standard today).marksProject note = (standard today).marksProject task.note)
    (unarchived : ¬ threshold < task.dueDate)
    (dated : (standard today).applyPlaceholder task false contexts = .ok task) :
    ∃ cleared, (standard today).normalize { task with note, dueDate := Timestamp.blank }
        contexts folders = .ok cleared ∧
      cleared.task = (standard today).applyBanner { task with note } false := by
  have clearedTidy := tidy.congr Timestamp.blank marked
  obtain ⟨cleared, normalized, stamped, -⟩ := clearedTidy.normalize_eq_ok unprefixed
    (inferPin_cleared clearedTidy.isSettled noted rfl)
    (applyPlaceholder_blank horizon unarchived dated note)
  exact ⟨cleared, normalized, stamped⟩

end Passes

/-- A due date that is set outside is pinned, and clearing it outside restores the task. -/
theorem normalize_set_clear {today : Date} (current : today.IsCurrent)
    {contexts folders : Option Catalog} {task : Task} {outcome : Outcome}
    (normalized : (standard today).normalize task contexts folders = .ok outcome)
    (unchanged : outcome.changed = false)
    (unnoted : ({} : Note.Codec).isPinned task.note = false)
    (trimmed : strip task.note = task.note)
    (feeds : ∀ c ∈ task.note, isBreak c = true → c = '\n') (short : task.note.length ≤ 595)
    (later : ∀ line ∈ (lines task.note).tail,
      startsWith ({} : Note.Codec).bannerStart (strip line) = false)
    (unarchived : (Almanac.standard today).isArchived task.dueDate = .ok false)
    {lowest due : Timestamp} (lowestIs : (Almanac.standard today).lowestPlaceholder = .ok lowest)
    (actual : 0 < due ∧ due < lowest) :
    ∃ set, (standard today).normalize { task with dueDate := due } contexts folders = .ok set ∧
      set.task.dueDate = due ∧ ({} : Note.Codec).isPinned set.task.note = true ∧
      ∃ cleared, (standard today).normalize { set.task with dueDate := Timestamp.blank }
        contexts folders = .ok cleared ∧ cleared.task = task := by
  obtain ⟨lowest', threshold, horizon⟩ := Almanac.exists_horizon current
  have sameLowest : lowest' = lowest := by
    rw [horizon.lowestPlaceholder_eq, Except.ok.injEq] at lowestIs
    exact lowestIs
  subst sameLowest
  rw [horizon.isArchived_eq, Except.ok.injEq, decide_eq_false_iff_not] at unarchived
  obtain ⟨tidy, unprefixed, pinned, dated, written⟩ :=
    isTidy_of_unchanged horizon normalized unchanged
  have fits : task.note.length ≤ 600 := by omega
  -- A pass that pinned the date would have written so into the note.
  have unpinned : pinned = false := by
    rw [← Bool.not_eq_true]
    rintro rfl
    have noted : ({} : Note.Codec).isPinned task.note = true := by
      rw [← written]
      exact isPinned_applyBanner fits
    exact Bool.noConfusion (unnoted.symm.trans noted)
  subst unpinned
  have plain := Note.Codec.isPlain_default
  have limited : 0 ≤ ({} : Note.Codec).maxLength := by decide
  have marker : ¬ ({} : Note.Codec).pinMarker <:+: task.note := by
    rw [← Note.Codec.isPinned_iff plain, unnoted]
    exact Bool.false_ne_true
  -- Both passes rewrite the note over one and the same body.
  obtain ⟨body, under⟩ := Note.Codec.exists_isUnder plain limited trimmed feeds later
    (show task.note.length < 600 by omega) (congrArg Task.note written)
  have pinPut := under.reconcile_pin plain limited marker (show task.note.length + 4 < 600 by omega)
  have pinTaken := under.reconcile_unpin plain limited marker fits
  obtain ⟨set, setNormalized, setStamped⟩ :=
    tidy.normalize_set horizon unprefixed unnoted actual
  have noted : ({} : Note.Codec).isPinned set.task.note = true := by
    rw [setStamped]
    exact isPinned_applyBanner fits
  rw [applyBanner_eq] at setStamped
  dsimp only at setStamped
  rw [pinPut] at setStamped
  refine ⟨set, setNormalized, by rw [setStamped], noted, ?_⟩
  rw [setStamped] at noted ⊢
  obtain ⟨cleared, clearedNormalized, clearedStamped⟩ :=
    tidy.normalize_clear horizon unprefixed noted (marksProject_headed under) unarchived dated
  refine ⟨cleared, clearedNormalized, ?_⟩
  rw [clearedStamped, applyBanner_eq]
  dsimp only
  rw [pinTaken]

/-- A date set on a task with a tag and a text in its note, and cleared again. -/
theorem normalize_set_clear_errand :
    ∃ set,
      (standard ⟨2024, 1, 15, by decide⟩).normalize
        { title := "Ring home", note := "~~/errand\nAsk about the garden.", dueDate := 1705406400
          tags := ["errand"], status := .nextAction } none none = .ok set ∧
      set.task.dueDate = 1705406400 ∧ ({} : Note.Codec).isPinned set.task.note = true ∧
      ∃ cleared,
        (standard ⟨2024, 1, 15, by decide⟩).normalize { set.task with dueDate := Timestamp.blank }
          none none = .ok cleared ∧
        cleared.task =
          { title := "Ring home", note := "~~/errand\nAsk about the garden.", dueDate := 1711972800
            tags := ["errand"], status := .nextAction } := by
  have idle : (standard ⟨2024, 1, 15, by decide⟩).normalize
      { title := "Ring home", note := "~~/errand\nAsk about the garden.", dueDate := 1711972800
        tags := ["errand"], status := .nextAction } none none =
      .ok {
        task := {
          title := "Ring home", note := "~~/errand\nAsk about the garden.", dueDate := 1711972800
          tags := ["errand"], status := .nextAction }
        changed := false, events := [] } := by decide +kernel
  have lowestIs : (Almanac.standard ⟨2024, 1, 15, by decide⟩).lowestPlaceholder =
      .ok 1711972800 := by decide +kernel
  exact normalize_set_clear (by decide) idle rfl (by decide) (by decide)
    (List.all_iff_forall_prop.1 (by decide)) (by decide) (by decide) (by decide +kernel) lowestIs
    (by decide)

end TaskTitles.Engine
