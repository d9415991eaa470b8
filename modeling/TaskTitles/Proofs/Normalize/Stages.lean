import TaskTitles.Normalize.Engine
import TaskTitles.Proofs.Almanac.Horizon
import TaskTitles.Proofs.Title.Descriptions

/-!
# The two stages of a pass

A pass first reads the title into the fields of the task, and then settles the task: it couples
context and folder, ties the status to the title, and writes due date and banner (`settle`).  A
title without marks changes nothing but itself and a status that is missing
(`normalize_unmarked`).
-/

namespace TaskTitles.Engine

open Calendar

def standard (today : Date) : Engine := ⟨.standard, today⟩

@[simp] theorem almanac_standard (today : Date) : (standard today).almanac = .standard today := rfl

@[simp] theorem codec_standard (today : Date) : (standard today).codec = {} := rfl

variable {engine : Engine} {task : Task} {contexts folders : Option Catalog}

/-! ## Settling -/

/-- The task with context and folder coupled and its status tied to the title. -/
def tied (engine : Engine) (task : Task) (contexts folders : Option Catalog) : Task :=
  engine.applyTitleStatus (engine.couple task contexts folders).1

/-- What a pass does with a task once the values of its title are in its fields. -/
def settle (engine : Engine) (original current : Task) (pin : Pin) (events : List Event)
    (contexts folders : Option Catalog) : Except Interruption Outcome := do
  let (current, couplingEvents) := engine.couple current contexts folders
  let current := engine.applyTitleStatus current
  let pinned := engine.isPinned current pin
  let events := events ++ couplingEvents
  let current ← after events (engine.applyPlaceholder current pinned contexts)
  let current := engine.applyBanner current pinned
  let changed := decide (current ≠ original)
  return {
    task := current
    changed
    events := if changed then events ++ [.normalized original.id current.title] else events }

/-- A pass reads the title and then settles the task. -/
theorem normalize_eq_settle {tokens : Title.Tokens} {read started : Task} {pin : Pin}
    {events : List Event}
    (tokenized : engine.tokenize (engine.stripReminder task.title) = .ok tokens)
    (dued : engine.applyDueDate { task with title := tokens.description } tokens.dueDate =
      .ok (read, pin, events))
    (begun : engine.applyStartDate read tokens.startDate = .ok started) :
    engine.normalize task contexts folders =
      let (current, pin) := engine.applyModifiers (applyRecurrence started tokens.recurrence) pin
        tokens.modifiers contexts folders
      engine.settle task current pin events contexts folders := by
  rw [normalize, tokenized]
  dsimp only [after, Except.mapError, bind, Except.bind]
  rw [dued]
  dsimp only
  rw [begun]
  rfl

theorem settle_eq_ok (original : Task) (events : List Event) {current placed : Task} {pin : Pin}
    (dated : engine.applyPlaceholder (engine.tied current contexts folders)
      (engine.isPinned (engine.tied current contexts folders) pin) contexts = .ok placed) :
    ∃ outcome, engine.settle original current pin events contexts folders = .ok outcome ∧
      outcome.task =
        engine.applyBanner placed (engine.isPinned (engine.tied current contexts folders) pin) ∧
      outcome.changed = decide (outcome.task ≠ original) := by
  rw [tied] at dated
  rw [settle]
  dsimp only [after, Except.mapError, bind, Except.bind]
  rw [dated]
  exact ⟨_, rfl, rfl, rfl⟩

/-! ## Titles without marks -/

theorem stripReminder_suffix (engine : Engine) (title : Text) :
    engine.stripReminder title <:+ title := by
  rw [stripReminder]
  cases dropped : Text.dropLead? engine.conventions.markers.reminderPrefix title with
  | none => exact List.suffix_rfl
  | some rest =>
    rw [Text.eq_of_dropLead? dropped]
    exact List.suffix_append _ rest

theorem stripReminder_eq_self {engine : Engine} {title : Text}
    (unprefixed : ¬ engine.conventions.markers.reminderPrefix <+: title) :
    engine.stripReminder title = title := by
  rw [stripReminder, Text.dropLead?_eq_none_iff.2 unprefixed]
  rfl

@[simp] theorem takeEntry_nil (catalog : Option Catalog) (noneWord : Text)
    (find? : Catalog → Text → Option Context) (current : Int) :
    takeEntry catalog noneWord find? current [] = (current, []) := by
  cases catalog <;> rfl

def defaulted (engine : Engine) (task : Task) : Task :=
  { task with
    status := if task.status = .none then engine.conventions.status.default else task.status }

theorem applyModifiers_frame (today : Date) (task : Task) (pin : Pin) (words : List Text)
    (contexts folders : Option Catalog) :
    let applied := ((standard today).applyModifiers task pin words contexts folders).1
    applied.title = task.title ∧ applied.note = task.note ∧ applied.status ≠ .none := by
  refine ⟨rfl, rfl, ?_⟩
  unfold applyModifiers
  dsimp only
  -- The default status stands in for a missing one.
  split
  · exact fun missing => Status.noConfusion missing
  · assumption

theorem applyModifiers_nil (task : Task) (pin : Pin) :
    engine.applyModifiers task pin [] contexts folders = (engine.defaulted task, pin) := by
  simp [applyModifiers, takeLiteral, takeFirst, addTags, defaulted]

theorem tokenize_unmarked {title : Text}
    (unmarked : ¬ Title.opening [engine.conventions.tokens.delimiter] <:+: title) :
    engine.tokenize title = .ok { description := Text.strip title } := by
  rw [tokenize, Title.Tokens.ofTitle_unmarked unmarked]
  exact Title.Tokens.withDueModifier_nil rfl rfl

/-- A title without marks is stripped, and the task is settled with the pin that its stored due date
    and its note call for. -/
theorem normalize_unmarked {pin : Pin} {events : List Event}
    (unmarked : ¬ Title.opening [engine.conventions.tokens.delimiter] <:+:
      engine.stripReminder task.title)
    (inferred : engine.inferPin task = .ok (pin, events)) :
    engine.normalize task contexts folders =
      engine.settle task
        (engine.defaulted { task with title := Text.strip (engine.stripReminder task.title) })
        pin events contexts folders := by
  have tokenized := tokenize_unmarked unmarked
  -- Without a date in the title, the pin is inferred, and the title has no part in that.
  have dued : engine.applyDueDate
      { task with title := Text.strip (engine.stripReminder task.title) } none =
      .ok ({ task with title := Text.strip (engine.stripReminder task.title) }, pin, events) := by
    have same : engine.inferPin { task with title := Text.strip (engine.stripReminder task.title) } =
        engine.inferPin task := rfl
    rw [applyDueDate, same, inferred]
    rfl
  rw [normalize_eq_settle tokenized dued rfl]
  dsimp only
  rw [applyModifiers_nil]
  rfl

/-! ## Dates -/

def contextName (task : Task) (contexts : Option Catalog) : Option Text :=
  (contexts.bind (·.findById? task.context)).map (·.name)

@[simp] theorem applyPlaceholder_pinned (task : Task) (contexts : Option Catalog) :
    engine.applyPlaceholder task true contexts = .ok task := rfl

section Answers

variable {today : Date} (answers : (Almanac.standard today).Answers)

include answers

theorem tokenize_eq_ok (title : Text) :
    ∃ tokens, (standard today).tokenize title = .ok tokens ∧
      tokens.description = (Title.Tokens.ofTitle ['/'] title).description :=
  Title.Tokens.withDueModifier_eq_ok answers.isDateText_eq_ok _

theorem inferPin_eq_ok (task : Task) :
    ∃ pin events, (standard today).inferPin task = .ok (pin, events) := by
  rw [inferPin]
  split
  · exact ⟨_, _, rfl⟩
  · split
    · exact ⟨_, _, rfl⟩
    · obtain ⟨actual, asked⟩ := answers.isActual_eq_ok task.dueDate
      rw [almanac_standard, asked]
      dsimp only [bind, Except.bind]
      split
      · exact ⟨_, _, rfl⟩
      · exact ⟨_, _, rfl⟩

theorem applyDueDate_eq_ok (task : Task) (token : Option Text) :
    ∃ due pin events, (standard today).applyDueDate task token =
      .ok ({ task with dueDate := due }, pin, events) := by
  cases token with
  | none =>
    obtain ⟨pin, events, inferred⟩ := inferPin_eq_ok answers task
    exact ⟨task.dueDate, pin, events, by rw [applyDueDate, inferred]; rfl⟩
  | some text =>
    obtain ⟨found, read⟩ := answers.readable text
    exact ⟨found.getD task.dueDate, .pinned, [], by
      rw [applyDueDate, almanac_standard, read]; rfl⟩

theorem applyStartDate_eq_ok (task : Task) (token : Option Text) :
    ∃ start, (standard today).applyStartDate task token = .ok { task with startDate := start } := by
  cases token with
  | none => exact ⟨task.startDate, rfl⟩
  | some text =>
    obtain ⟨found, read⟩ := answers.readable text
    exact ⟨found.getD task.startDate, by rw [applyStartDate, almanac_standard, read]; rfl⟩

theorem applyPlaceholder_eq_ok (task : Task) (pinned : Bool) (contexts : Option Catalog) :
    ∃ due, (standard today).applyPlaceholder task pinned contexts =
      .ok { task with dueDate := due } := by
  cases pinned with
  | true => exact ⟨task.dueDate, rfl⟩
  | false =>
    obtain ⟨archived, asked⟩ := answers.isArchived_eq_ok task.dueDate
    obtain ⟨v, placed⟩ := answers.placeholder (contextName task contexts) task.status
    rw [applyPlaceholder, almanac_standard, asked]
    rw [contextName] at placed
    dsimp only [bind, Except.bind] at placed ⊢
    rw [placed]
    cases archived with
    | true => exact ⟨task.dueDate, rfl⟩
    | false => exact ⟨v, rfl⟩

/-- Where every question is answered, a pass comes to an end. -/
theorem normalize_eq_ok (task : Task) (contexts folders : Option Catalog) :
    ∃ outcome, (standard today).normalize task contexts folders = .ok outcome := by
  obtain ⟨tokens, tokenized, -⟩ :=
    tokenize_eq_ok answers ((standard today).stripReminder task.title)
  obtain ⟨due, pin, events, dued⟩ :=
    applyDueDate_eq_ok answers { task with title := tokens.description } tokens.dueDate
  obtain ⟨start, begun⟩ := applyStartDate_eq_ok answers
    { task with title := tokens.description, dueDate := due } tokens.startDate
  rw [normalize_eq_settle tokenized dued begun]
  dsimp only
  generalize (standard today).applyModifiers _ pin tokens.modifiers contexts folders = modified
  obtain ⟨placement, dated⟩ := applyPlaceholder_eq_ok answers
    ((standard today).tied modified.1 contexts folders)
    ((standard today).isPinned ((standard today).tied modified.1 contexts folders) modified.2)
    contexts
  obtain ⟨outcome, settled, -⟩ := settle_eq_ok task events dated
  exact ⟨outcome, settled⟩

end Answers

section Horizon

variable {today : Date} {lowest threshold : Timestamp}
  (horizon : (Almanac.standard today).Horizon lowest threshold)

include horizon

theorem inferPin_noted {task : Task} (dated : task.dueDate ≠ Timestamp.blank)
    (noted : ({} : Note.Codec).isPinned task.note = true) :
    (standard today).inferPin task = .ok (.unset, []) := by
  rw [inferPin, codec_standard, noted, almanac_standard, horizon.isActual_eq]
  split
  · rfl
  · -- The date is not blank, and an actual one is known to the note already.
    rw [if_neg fun cleared => dated cleared.1]
    simp [bind, Except.bind, pure, Except.pure]

theorem inferPin_idle {task : Task} (unnoted : ({} : Note.Codec).isPinned task.note = false)
    (idle : ¬ (0 < task.dueDate ∧ task.dueDate < lowest)) :
    (standard today).inferPin task = .ok (.unset, []) := by
  rw [inferPin, codec_standard, unnoted, almanac_standard, horizon.isActual_eq,
    decide_eq_false idle]
  split
  · rfl
  · simp [bind, Except.bind, pure, Except.pure]

/-- An actual date that the note does not know of has been set outside. -/
theorem inferPin_actual {task : Task} (settled : isSettled task = true)
    (unnoted : ({} : Note.Codec).isPinned task.note = false)
    (actual : 0 < task.dueDate ∧ task.dueDate < lowest) :
    (standard today).inferPin task = .ok (.pinned, [.dueDateSet task.id]) := by
  rw [inferPin, codec_standard, unnoted, almanac_standard, horizon.isActual_eq,
    decide_eq_true actual, settled]
  simp [bind, Except.bind, pure, Except.pure]

omit horizon in
/-- A blank date that the note knows as pinned has been cleared outside. -/
theorem inferPin_cleared {task : Task} (settled : isSettled task = true)
    (noted : ({} : Note.Codec).isPinned task.note = true)
    (blank : task.dueDate = Timestamp.blank) :
    (standard today).inferPin task = .ok (.cleared, [.dueDateCleared task.id]) := by
  rw [inferPin, codec_standard, noted, settled]
  simp [blank]

/-- Every date in a title is answered, so reading a title comes to an end. -/
theorem exists_read (task : Task) (contexts folders : Option Catalog) :
    ∃ tokens due start pin events,
      (standard today).tokenize ((standard today).stripReminder task.title) = .ok tokens ∧
      tokens.description =
        (Title.Tokens.ofTitle ['/'] ((standard today).stripReminder task.title)).description ∧
      (standard today).applyDueDate { task with title := tokens.description } tokens.dueDate =
        .ok ({ task with title := tokens.description, dueDate := due }, pin, events) ∧
      (standard today).normalize task contexts folders =
        let (current, pin) := (standard today).applyModifiers
          (applyRecurrence { task with
            title := tokens.description, dueDate := due, startDate := start } tokens.recurrence)
          pin tokens.modifiers contexts folders
        (standard today).settle task current pin events contexts folders := by
  obtain ⟨tokens, tokenized, described⟩ :=
    tokenize_eq_ok horizon.answers ((standard today).stripReminder task.title)
  obtain ⟨due, pin, events, dued⟩ :=
    applyDueDate_eq_ok horizon.answers { task with title := tokens.description } tokens.dueDate
  obtain ⟨start, begun⟩ := applyStartDate_eq_ok horizon.answers
    { task with title := tokens.description, dueDate := due } tokens.startDate
  exact ⟨tokens, due, start, pin, events, tokenized, described, dued,
    normalize_eq_settle tokenized dued begun⟩

theorem applyPlaceholder_archived {task : Task} (archived : threshold < task.dueDate)
    (pinned : Bool) (contexts : Option Catalog) :
    (standard today).applyPlaceholder task pinned contexts = .ok task := by
  cases pinned with
  | true => rfl
  | false =>
    rw [applyPlaceholder, almanac_standard, horizon.isArchived_eq, decide_eq_true archived]
    rfl

/-- A task that is neither pinned nor archived gets the placeholder of its context and status. -/
theorem applyPlaceholder_placed {task : Task} (unarchived : ¬ threshold < task.dueDate)
    {contexts : Option Catalog} {v : Timestamp}
    (placed : (Almanac.standard today).placeholder (contextName task contexts) task.status = .ok v) :
    (standard today).applyPlaceholder task false contexts = .ok { task with dueDate := v } := by
  rw [applyPlaceholder, almanac_standard, horizon.isArchived_eq, decide_eq_false unarchived]
  rw [contextName] at placed
  dsimp only [bind, Except.bind] at placed ⊢
  rw [placed]
  rfl

/-- A due date that has been found for a task without a pin is no actual one, and is found again. -/
theorem applyPlaceholder_again {task : Task} {contexts : Option Catalog} {due : Timestamp}
    (dated : (standard today).applyPlaceholder task false contexts =
      .ok { task with dueDate := due }) (note : Text) :
    lowest ≤ due ∧
      (standard today).applyPlaceholder { task with note, dueDate := due } false contexts =
        .ok { task with note, dueDate := due } := by
  -- An archived date stays, and a placeholder is not archived and comes out again.
  by_cases archived : threshold < task.dueDate
  · rw [applyPlaceholder_archived horizon archived, Except.ok.injEq] at dated
    have same : task.dueDate = due := congrArg Task.dueDate dated
    subst same
    refine ⟨Int.le_trans horizon.lowest_le_threshold (Int.le_of_lt archived), ?_⟩
    exact applyPlaceholder_archived horizon (by exact archived) false contexts
  · obtain ⟨v, placed, low, high⟩ :=
      horizon.placeholder_between (contextName task contexts) task.status
    rw [applyPlaceholder_placed horizon archived placed, Except.ok.injEq] at dated
    have same : v = due := congrArg Task.dueDate dated
    subst same
    refine ⟨low, ?_⟩
    exact applyPlaceholder_placed horizon (by exact Int.not_lt.2 high) placed

/-- Every placeholder is found, so settling comes to an end. -/
theorem exists_settled (original current : Task) (pin : Pin) (events : List Event)
    (contexts folders : Option Catalog) :
    let settled := (standard today).tied current contexts folders
    let pinned := (standard today).isPinned settled pin
    ∃ outcome due,
      (standard today).settle original current pin events contexts folders = .ok outcome ∧
      (standard today).applyPlaceholder settled pinned contexts =
        .ok { settled with dueDate := due } ∧
      outcome.task = (standard today).applyBanner { settled with dueDate := due } pinned ∧
      outcome.changed = decide (outcome.task ≠ original) := by
  intro settled pinned
  obtain ⟨due, dated⟩ := applyPlaceholder_eq_ok horizon.answers settled pinned contexts
  obtain ⟨outcome, normalized, stamped, changed⟩ := settle_eq_ok original events dated
  exact ⟨outcome, due, normalized, dated, stamped, changed⟩

end Horizon

end TaskTitles.Engine
