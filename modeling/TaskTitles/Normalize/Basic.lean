import TaskTitles.Almanac.Placeholder
import TaskTitles.Almanac.Words
import TaskTitles.Catalog
import TaskTitles.Note.Banner
import TaskTitles.Task.Basic

/-!
# The rule engine

The engine turns the title of a task into its fields.  This module holds what the rules share: the
engine itself, the state of the due-date pin during one run, and the events that a run reports.
-/

namespace TaskTitles

open Calendar

/-- The conventions and the day on which the rules are applied. -/
structure Engine where
  conventions : Conventions := {}
  today : Date

/-- Whether the user pins the due date in this run.  `unset` leaves the answer to the note. -/
inductive Pin where
  | pinned
  | cleared
  | unset
  deriving Repr, DecidableEq

/-- What a run of the rules reports while it goes. -/
inductive Event where
  | dueDateCleared (task : Int)
  | dueDateSet (task : Int)
  | contextImplied (folder context : Text)
  | normalized (task : Int) (title : Text)
  deriving Repr, DecidableEq

namespace Engine

def almanac (engine : Engine) : Almanac := ⟨engine.conventions, engine.today⟩

def codec (engine : Engine) : Note.Codec where
  delimiter := [engine.conventions.tokens.delimiter]
  sentinel := engine.conventions.markers.bannerSentinel
  maxLength := engine.conventions.markers.maxNoteLength

/-- The tokens of a title.  Without a marked due date, a modifier that reads as a date is it. -/
def tokenize (engine : Engine) (title : Text) : Except CalendarError Title.Tokens :=
  (Title.Tokens.ofTitle [engine.conventions.tokens.delimiter] title).withDueModifier
    engine.almanac.isDateText

/-- Whether the due date is pinned: as this run decided, else as the note says. -/
def isPinned (engine : Engine) (task : Task) : Pin → Bool
  | .pinned => true
  | .cleared => false
  | .unset => engine.codec.isPinned task.note

end Engine

end TaskTitles
