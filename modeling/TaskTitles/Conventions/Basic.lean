import TaskTitles.Task.Status

/-!
# Conventions

Every literal and number that the rules go by: the delimiter, date formats, names of contexts and
folders, keywords, markers and statuses.  The defaults are the values that hold where a deployment
sets none.
-/

namespace TaskTitles

namespace Conventions

structure Tokens where
  delimiter : Char := '/'
  deriving Repr, DecidableEq

/-- Conventions on dates.  The formats are tried in their order. -/
structure Dates where
  formats : List Text := ["%d/%m/%y", "%d/%m/%Y", "%Y-%m-%d"]
  defaultMonthOffset : Int := 3
  workMonthOffset : Int := 4
  notesMonthOffset : Int := 5
  archiveThresholdDays : Int := 300
  deriving Repr, DecidableEq

/-- The names of the contexts and folders with a meaning of their own. -/
structure Contexts where
  work : Text := "Work"
  personal : Text := "Personal"
  notes : Text := "x Notes"
  defaultWorkFolder : Text := "w Work"
  defaultPersonalFolder : Text := "p Personal"
  deriving Repr, DecidableEq

/-- The modifiers that are no names. -/
structure Keywords where
  star : Text := "star"
  noStar : Text := "nostar"
  noContext : Text := "nocontext"
  noFolder : Text := "nofolder"
  noTag : Text := "notag"
  noDueDate : Text := "nod"
  deriving Repr, DecidableEq

structure Markers where
  reminderPrefix : Text := "Reminder: "
  waitingShort : Text := "wf "
  waitingLong : Text := "Waiting for"
  referencePrefix : Text := "."
  projectTag : Text := "_project"
  projectNoteMarkers : List Text :=
    ["---- Task Type: Project ----", "---- Task Type: Checklist ----"]
  bannerSentinel : Text := "~~"
  maxNoteLength : Int := 600
  deriving Repr, DecidableEq

/-- Conventions on statuses.  `placeholderDays` sets the day of the month for the statuses that its
    keywords name; of two entries for one status the first counts. -/
structure Statuses where
  default : Status := .nextAction
  future : Status := .hold
  placeholderDays : List (Text × Int) := []
  deriving Repr, DecidableEq

def Statuses.placeholderDay (statuses : Statuses) (s : Status) : Int :=
  match statuses.placeholderDays.find? fun entry => Status.ofWord? entry.1 = some s with
  | some (_, day) => day
  | none => s.placeholderDay

end Conventions

structure Conventions where
  tokens : Conventions.Tokens := {}
  dates : Conventions.Dates := {}
  contexts : Conventions.Contexts := {}
  keywords : Conventions.Keywords := {}
  markers : Conventions.Markers := {}
  status : Conventions.Statuses := {}
  deriving Repr, DecidableEq

end TaskTitles
