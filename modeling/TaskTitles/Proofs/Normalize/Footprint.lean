import TaskTitles.Proofs.Normalize.Frame
import TaskTitles.Proofs.Note.Reconciling

/-!
# What a pass may touch

Under every set of conventions and on every day, a pass that comes to an end leaves alone what the
user has not mentioned: number and children always, context and folder without a catalog for them,
and all that modifiers and marked values set where the title marks nothing (`normalize_footprint`).
The title that is left is a description, and the note is cut to its greatest length.
-/

namespace TaskTitles.Engine

variable {engine : Engine} {task current : Task} {contexts folders : Option Catalog}

theorem isDescription_of_tokenize {title : Text} {tokens : Title.Tokens}
    (tokenized : engine.tokenize title = .ok tokens) :
    Title.IsDescription [engine.conventions.tokens.delimiter] tokens.description := by
  rw [Title.Tokens.description_withDueModifier tokenized]
  exact (Title.Tokens.description_ofTitle _ title).1

/-- Modifiers set neither number nor title nor children, and without a catalog no entry of it. -/
theorem applyModifiers_footprint {pin modified : Pin} {words : List Text}
    (applied : engine.applyModifiers task pin words contexts folders = (current, modified)) :
    current.id = task.id ∧ current.title = task.title ∧ current.children = task.children ∧
      (contexts = none → current.context = task.context) ∧
      (folders = none → current.folder = task.folder) := by
  obtain rfl : (engine.applyModifiers task pin words contexts folders).1 = current :=
    congrArg Prod.fst applied
  refine ⟨rfl, rfl, rfl, fun missing => ?_, fun missing => ?_⟩
  · subst missing
    rfl
  · subst missing
    rfl

/-- A pass keeps number and children, context and folder where their catalog is missing, and where
    the title marks nothing also priority, star, start date, recurrence and tags.  It leaves a
    description for a title and a note of at most the greatest length. -/
theorem normalize_footprint {outcome : Outcome}
    (normalized : engine.normalize task contexts folders = .ok outcome) :
    let result := outcome.task
    let delimiter : Text := [engine.conventions.tokens.delimiter]
    let room := engine.conventions.markers.maxNoteLength
    result.id = task.id ∧ result.children = task.children ∧
      (contexts = none → result.context = task.context) ∧
      (folders = none → result.folder = task.folder) ∧
      Title.IsDescription delimiter result.title ∧
      (¬ Title.opening delimiter <:+: task.title →
        result.priority = task.priority ∧ result.starred = task.starred ∧
          result.startDate = task.startDate ∧ result.recurrence = task.recurrence ∧
          result.tags = task.tags) ∧
      (0 ≤ room → result.note.length ≤ room) := by
  obtain ⟨tokens, due, start, readPin, current, pin, events, tokenized, unstarted, applied, settled⟩ :=
    exists_stages normalized
  obtain ⟨sameId, sameTitle, sameChildren, sameContext, sameFolder⟩ := applyModifiers_footprint applied
  obtain ⟨context, folder, status, placed, note, whole, uncoupled, -⟩ := settle_frame settled
  intro result delimiter room
  have result_eq : result = { current with
      context, folder, status, dueDate := placed, note := engine.codec.truncate note } := whole
  rw [result_eq]
  refine ⟨sameId, sameChildren, fun missing => ?_, fun missing => ?_, ?_, fun unmarked => ?_,
    fun limited => ?_⟩
  · exact (uncoupled (.inl missing)).1.trans (sameContext missing)
  · exact (uncoupled (.inr missing)).2.trans (sameFolder missing)
  · dsimp only
    rw [sameTitle]
    exact isDescription_of_tokenize tokenized
  · -- The title has no words for the modifiers, and no start date and recurrence.
    have unopened : ¬ Title.opening delimiter <:+: engine.stripReminder task.title := fun occurs =>
      unmarked (occurs.trans (stripReminder_suffix engine task.title).isInfix)
    obtain rfl := Except.ok.inj ((tokenize_unmarked unopened).symm.trans tokenized)
    rw [applyModifiers_nil, Prod.mk.injEq] at applied
    obtain ⟨rfl, -⟩ := applied
    exact ⟨rfl, rfl, unstarted rfl, rfl, rfl⟩
  · have cut : (engine.codec.truncate note).length ≤ room.toNat :=
      Note.Codec.length_truncate_le limited note
    dsimp only
    omega

/-- With another delimiter and little room for notes, a call without marks keeps all but its note,
    its status and its due date. -/
theorem normalize_footprint_call :
    ∃ outcome,
      Engine.normalize
        { conventions := { tokens := { delimiter := '#' }, markers := { maxNoteLength := 8 } }
          today := ⟨2024, 1, 15, by decide⟩ }
        { id := 7, title := " Call /home ", note := "Ask about it", recurrence := "weekly"
          context := 3, folder := 4, tags := ["phone"], children := 2 } none none = .ok outcome ∧
      outcome.task.id = 7 ∧ outcome.task.children = 2 ∧ outcome.task.context = 3 ∧
      outcome.task.folder = 4 ∧ Title.IsDescription ['#'] outcome.task.title ∧
      outcome.task.priority = .low ∧ outcome.task.starred = false ∧ outcome.task.startDate = 0 ∧
      outcome.task.recurrence = ("weekly" : Text) ∧ outcome.task.tags = ["phone"] ∧
      outcome.task.note.length ≤ 8 := by
  have normalized : Engine.normalize
      { conventions := { tokens := { delimiter := '#' }, markers := { maxNoteLength := 8 } }
        today := ⟨2024, 1, 15, by decide⟩ }
      { id := 7, title := " Call /home ", note := "Ask about it", recurrence := "weekly"
        context := 3, folder := 4, tags := ["phone"], children := 2 } none none =
      .ok {
        task := {
          id := 7, title := "Call /home", note := "~~#phone", dueDate := 1711972800
          recurrence := "weekly", context := 3, folder := 4, tags := ["phone"]
          status := .nextAction, children := 2 }
        changed := true
        events := [.normalized 7 "Call /home"] } := by decide +kernel
  have unmarked : ¬ Title.opening ['#'] <:+: (" Call /home " : Text) :=
    Text.occursIn_eq_false_iff.1 (by decide)
  obtain ⟨sameId, sameChildren, sameContext, sameFolder, description, kept, cut⟩ :=
    normalize_footprint normalized
  obtain ⟨priority, starred, started, recurrence, tags⟩ := kept unmarked
  have short := cut (by decide)
  exact ⟨_, normalized, sameId, sameChildren, sameContext rfl, sameFolder rfl, description, priority,
    starred, started, recurrence, tags, Int.ofNat_le.1 short⟩

end TaskTitles.Engine
