import TaskTitles.Proofs.Normalize.Banners
import TaskTitles.Proofs.Normalize.Coupling
import TaskTitles.Proofs.Normalize.Tying

/-!
# Tidy tasks

Due date and note apart, a pass makes a task tidy (`exists_pass`, `isTidy_tied`), and a tidy task
stays what it is (`IsTidy.normalize_eq_ok`).  So what a further pass can change lies in the due date
and in the note, and how these two depend on each other is what the modules after this one are about.
-/

namespace TaskTitles.Engine

open Calendar

/-- What every pass leaves behind: a description for a title, a status, and nothing to couple or to
    tie. -/
structure IsTidy (engine : Engine) (contexts folders : Option Catalog) (task : Task) : Prop where
  description : Title.IsDescription [engine.conventions.tokens.delimiter] task.title
  status_known : task.status ≠ .none
  coupled : (engine.couple task contexts folders).1 = task
  tied : engine.IsTied task

section Tidy

variable {today : Date} {contexts folders : Option Catalog} {task : Task}

/-- A tidy task stays tidy when its due date changes, and its note, as long as that marks projects
    as before. -/
theorem IsTidy.congr (tidy : (standard today).IsTidy contexts folders task) {note : Text}
    (due : Timestamp)
    (marked : (standard today).marksProject note = (standard today).marksProject task.note) :
    (standard today).IsTidy contexts folders { task with note, dueDate := due } where
  description := tidy.description
  status_known := tidy.status_known
  coupled := by rw [couple_rewrite, tidy.coupled]
  tied := tidy.tied.congr due marked

theorem IsTidy.isSettled (tidy : (standard today).IsTidy contexts folders task) :
    isSettled task = true := by
  rw [Engine.isSettled, decide_eq_true tidy.status_known, Bool.or_true]

theorem IsTidy.tied_eq {engine : Engine} (tidy : engine.IsTidy contexts folders task) :
    engine.tied task contexts folders = task := by
  rw [Engine.tied, tidy.coupled]
  exact tidy.tied

theorem IsTidy.normalize_eq_ok {engine : Engine} (tidy : engine.IsTidy contexts folders task)
    (unprefixed : engine.stripReminder task.title = task.title) {pin : Pin} {events : List Event}
    {placed : Task} (inferred : engine.inferPin task = .ok (pin, events))
    (dated : engine.applyPlaceholder task (engine.isPinned task pin) contexts = .ok placed) :
    ∃ outcome, engine.normalize task contexts folders = .ok outcome ∧
      outcome.task = engine.applyBanner placed (engine.isPinned task pin) ∧
      outcome.changed = decide (outcome.task ≠ task) := by
  have unmarked : ¬ Title.opening [engine.conventions.tokens.delimiter] <:+:
      engine.stripReminder task.title := by
    rw [unprefixed]
    exact tidy.description.unmarked
  have known : engine.defaulted task = task := by rw [defaulted, if_neg tidy.status_known]
  rw [normalize_unmarked unmarked inferred, unprefixed, tidy.description.stripped, known]
  have datedTied : engine.applyPlaceholder (engine.tied task contexts folders)
      (engine.isPinned (engine.tied task contexts folders) pin) contexts = .ok placed := by
    rwa [tidy.tied_eq]
  have settled := settle_eq_ok task events datedTied
  rwa [tidy.tied_eq] at settled

theorem status_tied_ne_none (known : task.status ≠ .none) :
    ((standard today).tied task contexts folders).status ≠ .none := by
  obtain ⟨context, folder, coupled⟩ := couple_frame (standard today) task contexts folders
  rw [tied, coupled]
  exact status_applyTitleStatus_ne_none known

/-- A task that settling leaves as it is needs nothing coupled and nothing tied. -/
theorem isTidy_of_tied_eq (settled : (standard today).tied task contexts folders = task)
    (description : Title.IsDescription ['/'] task.title) (known : task.status ≠ .none) :
    (standard today).IsTidy contexts folders task := by
  obtain ⟨context, folder, coupled⟩ := couple_frame (standard today) task contexts folders
  have sameContext : context = task.context := by
    rw [tied, coupled] at settled
    exact congrArg Task.context settled
  have sameFolder : folder = task.folder := by
    rw [tied, coupled] at settled
    exact congrArg Task.folder settled
  subst sameContext sameFolder
  rw [tied, coupled] at settled
  exact ⟨description, known, coupled, settled⟩

/-- Tying the status leaves context and folder as coupling has made them. -/
theorem isCoupled_tied (distinctContexts : ∀ catalog ∈ contexts, catalog.HasDistinctIds)
    (distinctFolders : ∀ catalog ∈ folders, catalog.HasDistinctIds) (task : Task) :
    (standard today).IsCoupled contexts folders ((standard today).tied task contexts folders) :=
  (isCoupled_couple distinctContexts distinctFolders task).congr rfl rfl

theorem isTidy_tied (distinctContexts : ∀ catalog ∈ contexts, catalog.HasDistinctIds)
    (distinctFolders : ∀ catalog ∈ folders, catalog.HasDistinctIds)
    (description : Title.IsDescription ['/'] task.title) (known : task.status ≠ .none) :
    (standard today).IsTidy contexts folders ((standard today).tied task contexts folders) := by
  obtain ⟨context, folder, status, framed⟩ := tied_frame (standard today) task contexts folders
  constructor
  case description =>
    rw [framed]
    exact description
  case status_known => exact status_tied_ne_none known
  case coupled => rw [(isCoupled_tied distinctContexts distinctFolders task).couple_eq]
  case tied => exact isTied_applyTitleStatus _

/-- A pass gives the task a description for a title and a status, and then settles it. -/
theorem exists_pass {lowest threshold : Timestamp}
    (horizon : (Almanac.standard today).Horizon lowest threshold)
    (contexts folders : Option Catalog) (task : Task) :
    ∃ outcome current settled pinned due,
      (standard today).normalize task contexts folders = .ok outcome ∧
      Title.IsDescription ['/'] current.title ∧
      current.title <:+: (standard today).stripReminder task.title ∧
      current.note = task.note ∧ current.status ≠ .none ∧
      (standard today).tied current contexts folders = settled ∧
      (standard today).applyPlaceholder settled pinned contexts =
        .ok { settled with dueDate := due } ∧
      outcome.task = (standard today).applyBanner { settled with dueDate := due } pinned ∧
      outcome.changed = decide (outcome.task ≠ task) := by
  obtain ⟨tokens, stored, start, pin, events, -, described, -, read⟩ :=
    exists_read horizon task contexts folders
  obtain ⟨description, piece⟩ :=
    Title.Tokens.description_ofTitle ['/'] ((standard today).stripReminder task.title)
  rw [← described] at description piece
  obtain ⟨sameTitle, sameNote, known⟩ := applyModifiers_frame today
    (applyRecurrence { task with
      title := tokens.description, dueDate := stored, startDate := start } tokens.recurrence)
    pin tokens.modifiers contexts folders
  rw [read]
  -- From here on it does not matter what else the modifiers have done.
  generalize (standard today).applyModifiers _ pin tokens.modifiers contexts folders = modified at *
  obtain ⟨modified, pin⟩ := modified
  obtain ⟨outcome, due, normalized, dated, stamped, changed⟩ :=
    exists_settled horizon task modified pin events contexts folders
  refine ⟨outcome, modified, _, _, due, normalized, ?_, ?_, sameNote, known, rfl, dated, stamped,
    changed⟩
  · rw [sameTitle]
    exact description
  · rw [sameTitle]
    exact piece

end Tidy

end TaskTitles.Engine
