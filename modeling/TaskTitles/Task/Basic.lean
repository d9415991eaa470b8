import TaskTitles.Calendar.Timestamp
import TaskTitles.Task.Priority
import TaskTitles.Task.Status
import TaskTitles.Task.Tags

/-!
# Tasks

A task as the task service holds it.  Context and folder are referred to by their numbers, 0 meaning
none, and dates are time stamps.
-/

namespace TaskTitles

open Calendar

structure Task where
  id : Int := 0
  title : Text := []
  note : Text := []
  priority : Priority := .low
  starred : Bool := false
  dueDate : Timestamp := Timestamp.blank
  startDate : Timestamp := Timestamp.blank
  recurrence : Text := []
  context : Int := 0
  folder : Int := 0
  tags : List Text := []
  status : Status := .none
  children : Nat := 0
  deriving Repr, DecidableEq

namespace Task

def tagText (task : Task) : Text := Tags.toText task.tags

/-- Whether the task has the tag, case aside. -/
def hasTag (task : Task) (label : Text) : Bool := Tags.has task.tags label

end Task

end TaskTitles
