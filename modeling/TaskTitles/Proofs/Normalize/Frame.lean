import TaskTitles.Proofs.Normalize.Coupling
import TaskTitles.Proofs.Results
import TaskTitles.Proofs.Task.Tags

/-!
# What normalizing never touches

Under every set of conventions, a pass that comes to an end has gone through its two stages
(`exists_stages`), and settling touches few of the fields (`settle_frame`).  So a pass keeps the number
of the task, and a task with distinct tags keeps them distinct (`normalize_frame`).
-/

namespace TaskTitles.Engine

open Calendar

variable {engine : Engine} {task : Task} {contexts folders : Option Catalog}

/-! ## The words of a title -/

section Words

variable {α : Type} {accept : Text → Option α} {words : List Text}

theorem takeFirst_sublist : (takeFirst accept words).2.Sublist words := by
  induction words with
  | nil => exact .slnil
  | cons word rest ih =>
    rw [takeFirst]
    split
    · exact List.sublist_cons_self word rest
    · exact ih.cons_cons word

theorem exists_of_takeFirst {found : α} (taken : (takeFirst accept words).1 = some found) :
    ∃ word ∈ words, accept word = some found := by
  induction words with
  | nil => cases taken
  | cons word rest ih =>
    rw [takeFirst] at taken
    split at taken
    · next accepted => exact ⟨word, List.mem_cons_self, accepted.trans taken⟩
    · obtain ⟨other, member, accepted⟩ := ih taken
      exact ⟨other, List.mem_cons_of_mem word member, accepted⟩

theorem takeLiteral_sublist (literal : Text) : (takeLiteral literal words).2.Sublist words :=
  takeFirst_sublist

theorem takeLiteral_of_not_mem {literal : Text} (absent : literal ∉ words) :
    (takeLiteral literal words).1 = false := by
  rw [← Bool.not_eq_true]
  intro taken
  obtain ⟨found, first⟩ := Option.isSome_iff_exists.1 taken
  obtain ⟨word, member, accepted⟩ := exists_of_takeFirst first
  -- Nothing but the literal itself is accepted.
  by_cases same : word = literal
  · exact absent (same ▸ member)
  · simp [same] at accepted

theorem takeEntry_sublist (catalog : Option Catalog) (noneWord : Text)
    (find? : Catalog → Text → Option Context) (current : Int) :
    (takeEntry catalog noneWord find? current words).2.Sublist words := by
  simp only [takeEntry]
  split
  · exact List.Sublist.refl words
  · have literal : (takeLiteral noneWord words).2.Sublist words := takeLiteral_sublist noneWord
    split
    · next taken => rwa [taken] at literal
    · exact takeFirst_sublist

end Words

theorem tags_applyModifiers (engine : Engine) (task : Task) (pin : Pin) (words : List Text)
    (contexts folders : Option Catalog) :
    ∃ kept added, (kept = [] ∨ kept = task.tags) ∧ added.Sublist words ∧
      (engine.applyModifiers task pin words contexts folders).1.tags = addTags kept added := by
  refine ⟨_, _, ?_, ?_, rfl⟩
  · exact ite_eq_or_eq _ _ _
  · -- Every modifier takes its word out of those that the earlier ones have left.
    apply (takeLiteral_sublist _).trans
    apply (takeEntry_sublist _ _ _ _).trans
    apply takeFirst_sublist.trans
    apply (takeEntry_sublist _ _ _ _).trans
    apply (takeLiteral_sublist _).trans
    apply (takeLiteral_sublist _).trans
    exact (takeLiteral_sublist _).trans takeFirst_sublist

/-! ## Passes that come to an end -/

theorem of_after_eq_ok {α : Type} {events : List Event} {x : Except CalendarError α} {a : α}
    (result : after events x = .ok a) : x = .ok a := by
  cases x with
  | error cause => cases result
  | ok a' => exact congrArg Except.ok (Except.ok.inj result)

theorem isTag_of_ofTitle {delimiter title : Text} :
    ∀ word ∈ (Title.Tokens.ofTitle delimiter title).modifiers, Tags.IsTag word := by
  intro word member
  simp only [Title.Tokens.ofTitle] at member
  split at member
  · simp at member
  · obtain ⟨inPieces, nonempty⟩ := List.mem_filter.1 member
    obtain ⟨piece, -, rfl⟩ := List.mem_map.1 inPieces
    exact ⟨Text.strip_strip piece, by simpa using nonempty⟩

theorem isTag_of_tokenize {title : Text} {tokens : Title.Tokens}
    (tokenized : engine.tokenize title = .ok tokens) :
    ∀ word ∈ tokens.modifiers, Tags.IsTag word := by
  intro word member
  rcases Title.Tokens.withDueModifier_cases tokenized with rfl | ⟨front, due, back, -, split, rfl⟩
  · exact isTag_of_ofTitle word member
  · apply isTag_of_ofTitle word
    rw [split]
    exact ((List.sublist_cons_self due back).append_left front).subset member

theorem applyDueDate_frame {token : Option Text} {read : Task} {pin : Pin} {events : List Event}
    (dued : engine.applyDueDate task token = .ok (read, pin, events)) :
    ∃ due, read = { task with dueDate := due } := by
  cases token with
  | none =>
    obtain ⟨found, -, same⟩ := exists_of_map_eq_ok dued
    exact ⟨task.dueDate, (congrArg Prod.fst same).symm⟩
  | some text =>
    obtain ⟨found, -, same⟩ := exists_of_bind_eq_ok dued
    exact ⟨_, (congrArg Prod.fst (Except.ok.inj same)).symm⟩

theorem applyStartDate_frame {token : Option Text} {started : Task}
    (begun : engine.applyStartDate task token = .ok started) :
    ∃ start, started = { task with startDate := start } ∧ (token = none → start = task.startDate) := by
  cases token with
  | none => exact ⟨task.startDate, (Except.ok.inj begun).symm, fun _ => rfl⟩
  | some text =>
    obtain ⟨found, -, same⟩ := exists_of_bind_eq_ok begun
    exact ⟨_, (Except.ok.inj same).symm, nofun⟩

theorem applyPlaceholder_frame {pinned : Bool} {placed : Task}
    (dated : engine.applyPlaceholder task pinned contexts = .ok placed) :
    ∃ due, placed = { task with dueDate := due } := by
  cases pinned with
  | true => exact ⟨task.dueDate, (Except.ok.inj dated).symm⟩
  | false =>
    rw [applyPlaceholder, if_neg Bool.false_ne_true] at dated
    obtain ⟨archived, -, dated⟩ := exists_of_bind_eq_ok dated
    split at dated
    · exact ⟨task.dueDate, (Except.ok.inj dated).symm⟩
    · obtain ⟨due, -, same⟩ := exists_of_bind_eq_ok dated
      exact ⟨due, (Except.ok.inj same).symm⟩

theorem couple_of_missing (engine : Engine) (task : Task)
    (missing : contexts = none ∨ folders = none) :
    engine.couple task contexts folders = (task, []) := by
  cases contexts with
  | none => rfl
  | some contexts =>
    cases folders with
    | none => rfl
    | some folders => simp at missing

/-- Settling touches context, folder, status, due date and note only, the first two only with both
    catalogs, and it cuts the note. -/
theorem settle_frame {original current : Task} {pin : Pin} {events : List Event} {outcome : Outcome}
    (settled : engine.settle original current pin events contexts folders = .ok outcome) :
    ∃ context folder status due note,
      outcome.task = { current with
        context, folder, status, dueDate := due, note := engine.codec.truncate note } ∧
      (contexts = none ∨ folders = none → context = current.context ∧ folder = current.folder) ∧
      outcome.changed = decide (outcome.task ≠ original) := by
  obtain ⟨placed, dated, finished⟩ := exists_of_bind_eq_ok settled
  obtain ⟨due, framed⟩ := applyPlaceholder_frame (of_after_eq_ok dated)
  obtain ⟨context, folder, status, tied⟩ := tied_frame engine current contexts folders
  have whole : placed = { current with context, folder, status, dueDate := due } := by
    rw [framed]
    exact congrArg (fun task : Task => { task with dueDate := due }) tied
  rw [← Except.ok.inj finished, whole]
  refine ⟨context, folder, status, due, _, rfl, fun missing => ?_, rfl⟩
  rw [Engine.tied, couple_of_missing engine current missing] at tied
  exact ⟨(congrArg Task.context tied).symm, (congrArg Task.folder tied).symm⟩

/-- A pass that comes to an end has read the title into the fields of the task and then settled it. -/
theorem exists_stages {outcome : Outcome}
    (normalized : engine.normalize task contexts folders = .ok outcome) :
    ∃ tokens due start readPin current pin events,
      engine.tokenize (engine.stripReminder task.title) = .ok tokens ∧
      (tokens.startDate = none → start = task.startDate) ∧
      engine.applyModifiers
        (applyRecurrence
          { task with title := tokens.description, dueDate := due, startDate := start }
          tokens.recurrence)
        readPin tokens.modifiers contexts folders = (current, pin) ∧
      engine.settle task current pin events contexts folders = .ok outcome := by
  obtain ⟨tokens, tokenized, read⟩ := exists_of_bind_eq_ok normalized
  obtain ⟨⟨read, pin, events⟩, dued, starts⟩ := exists_of_bind_eq_ok read
  obtain ⟨started, begun, -⟩ := exists_of_bind_eq_ok starts
  rw [normalize_eq_settle (of_after_eq_ok tokenized) (of_after_eq_ok dued) (of_after_eq_ok begun)]
    at normalized
  obtain ⟨due, rfl⟩ := applyDueDate_frame (of_after_eq_ok dued)
  obtain ⟨start, rfl, unstarted⟩ := applyStartDate_frame (of_after_eq_ok begun)
  exact ⟨tokens, due, start, pin, _, _, events, of_after_eq_ok tokenized, unstarted, rfl, normalized⟩

/-- A pass that comes to an end keeps the number of the task and says whether it has changed it, and
    where the tags were distinct they still are. -/
theorem normalize_frame {outcome : Outcome}
    (normalized : engine.normalize task contexts folders = .ok outcome) :
    outcome.task.id = task.id ∧ outcome.changed = decide (outcome.task ≠ task) ∧
      (Tags.IsDistinct task.tags → Tags.IsDistinct outcome.task.tags) := by
  obtain ⟨tokens, due, start, readPin, current, pin, events, tokenized, -, applied, settled⟩ :=
    exists_stages normalized
  -- Dates apart, the tags are touched by the modifiers only, and the number by nothing.
  obtain ⟨kept, added, keptCases, sublist, sameTags⟩ := tags_applyModifiers engine
    (applyRecurrence { task with title := tokens.description, dueDate := due, startDate := start }
      tokens.recurrence) readPin tokens.modifiers contexts folders
  have sameId : current.id = task.id := (congrArg (fun read => read.1.id) applied).symm
  obtain ⟨context, folder, status, placed, note, whole, -, changed⟩ := settle_frame settled
  rw [applied] at sameTags
  refine ⟨by rw [whole]; exact sameId, changed, fun isDistinct => ?_⟩
  rw [whole]
  change Tags.IsDistinct current.tags
  rw [sameTags]
  refine Tags.IsDistinct.addTags ?_ fun word member =>
    isTag_of_tokenize tokenized word (sublist.subset member)
  rcases keptCases with rfl | rfl
  · exact Tags.isDistinct_nil
  · exact isDistinct

end TaskTitles.Engine
