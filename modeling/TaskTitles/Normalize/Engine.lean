import TaskTitles.Normalize.Coupling
import TaskTitles.Normalize.Dates
import TaskTitles.Normalize.Modifiers
import TaskTitles.Normalize.Status

/-!
# Normalizing a task

The rules in their order, each reading what the ones before it have set: reminder prefix, tokens,
due date, start date, recurrence, modifiers, coupling, title statuses, placeholder date, banner.
-/

namespace TaskTitles

open Calendar

/-- The outcome of normalizing a task, with the events reported on the way. -/
structure Outcome where
  task : Task
  changed : Bool
  events : List Event
  deriving Repr, DecidableEq

structure Interruption where
  cause : CalendarError
  events : List Event
  deriving Repr, DecidableEq

namespace Engine

/-- The title without the prefix that calendar reminders put in front. -/
def stripReminder (engine : Engine) (title : Text) : Text :=
  (Text.dropLead? engine.conventions.markers.reminderPrefix title).getD title

def applyBanner (engine : Engine) (task : Task) (pinned : Bool) : Task :=
  let codec := engine.codec
  let banner := codec.encode pinned task.tags
  { task with note := codec.truncate (codec.reconcile task.note banner) }

/-- Marks a failed computation with the events that were reported before it. -/
def after {α : Type} (events : List Event) (x : Except CalendarError α) : Except Interruption α :=
  x.mapError fun cause => ⟨cause, events⟩

/-- Applies all rules to a task.  A missing catalog switches its rules off. -/
def normalize (engine : Engine) (task : Task) (contexts folders : Option Catalog) :
    Except Interruption Outcome := do
  let tokens ← after [] (engine.tokenize (engine.stripReminder task.title))
  let (current, pin, dueEvents) ←
    after [] (engine.applyDueDate { task with title := tokens.description } tokens.dueDate)
  let current ← after dueEvents (engine.applyStartDate current tokens.startDate)
  let current := applyRecurrence current tokens.recurrence
  let (current, pin) := engine.applyModifiers current pin tokens.modifiers contexts folders
  let (current, couplingEvents) := engine.couple current contexts folders
  let current := engine.applyTitleStatus current
  let pinned := engine.isPinned current pin
  let events := dueEvents ++ couplingEvents
  let current ← after events (engine.applyPlaceholder current pinned contexts)
  let current := engine.applyBanner current pinned
  let changed := decide (current ≠ task)
  return {
    task := current
    changed
    events := if changed then events ++ [.normalized task.id current.title] else events }

end Engine

end TaskTitles
