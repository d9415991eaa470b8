import TaskTitles.Normalize.Basic
import TaskTitles.Text.Quoted

/-!
# The log

Everything that a run can log is a notice.  A notice has a level, the logger that it comes from
and a message; a run logs its notices in order, and keeps those that came before a failure.
-/

namespace TaskTitles

inductive Level where
  | debug
  | info
  | warning
  deriving Repr, DecidableEq

def Level.name : Level → Text
  | .debug => "debug"
  | .info => "info"
  | .warning => "warning"

inductive Notice where
  | event (event : Event)
  | tasksToInspect (count : Nat)
  | tasksModified (count : Nat)
  | snapshotWritten (accepted : Nat) (path : Text)
  | sourceUnavailable (source : Text)
  | fetchFailed (source reason : Text)
  | pushFailed (source reason : Text)
  deriving Repr, DecidableEq

def Event.message : Event → Text
  | .dueDateCleared task => "Due date cleared externally on task " ++ Text.ofInt task
  | .dueDateSet task => "Due date set externally on task " ++ Text.ofInt task
  | .contextImplied folder context =>
    "Folder " ++ Text.quoted folder ++ " implies context " ++ Text.quoted context
  | .normalized task title =>
    "Normalized task " ++ Text.ofInt task ++ ": " ++ Text.quoted title

namespace Notice

def level : Notice → Level
  | event _ | snapshotWritten _ _ => .debug
  | tasksToInspect _ | tasksModified _ => .info
  | sourceUnavailable _ | fetchFailed _ _ | pushFailed _ _ => .warning

def logger : Notice → Text
  | event _ => "t2tctl.domain.rules"
  | snapshotWritten _ _ => "t2tctl.infrastructure.snapshot"
  | _ => "t2tctl.services.cycle"

def message : Notice → Text
  | event e => e.message
  | tasksToInspect count => "Tasks to inspect: " ++ Text.ofNat count
  | tasksModified count => "Tasks modified: " ++ Text.ofNat count
  | snapshotWritten accepted path =>
    "Wrote " ++ Text.ofNat accepted ++ " task(s) to " ++ path
  | sourceUnavailable source => "Task source " ++ source ++ " is unavailable"
  | fetchFailed source reason => "Fetching from " ++ source ++ " failed: " ++ reason
  | pushFailed source reason => "Pushing to " ++ source ++ " failed: " ++ reason

/-- A notice in one line, its level in capitals in front. -/
def line (notice : Notice) : Text :=
  notice.level.name.map Char.toUpper ++ ": " ++ notice.message

end Notice

/-- What a run comes to, with the notices that it logged on the way. -/
structure Logged (ε α : Type) where
  log : List Notice := []
  result : Except ε α

end TaskTitles
