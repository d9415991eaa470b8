import TaskTitles.Normalize.Basic

/-!
# The rules on dates

Due date, start date and recurrence come from their marked values.  Without a marked due date the
engine looks at what happened to the task outside: a pinned date that is blank now was cleared by
the user, and an actual date that is not pinned was set by the user.
-/

namespace TaskTitles.Engine

open Calendar

/-- Whether the task arrived with a context, a folder or a status, so that its dates can be
    trusted. -/
def isSettled (task : Task) : Bool :=
  decide (0 < task.context) || decide (0 < task.folder) || decide (task.status ≠ .none)

/-- What the stored due date says about the pin, when the title says nothing. -/
def inferPin (engine : Engine) (task : Task) : Except CalendarError (Pin × List Event) :=
  let noted := engine.codec.isPinned task.note
  if !isSettled task then .ok (.unset, [])
  else if task.dueDate = Timestamp.blank ∧ noted then .ok (.cleared, [.dueDateCleared task.id])
  else do
    if (← engine.almanac.isActual task.dueDate) && !noted then
      return (.pinned, [.dueDateSet task.id])
    else return (.unset, [])

/-- Applies the due date of the title, which pins it, or infers the pin. -/
def applyDueDate (engine : Engine) (task : Task) (token : Option Text) :
    Except CalendarError (Task × Pin × List Event) :=
  match token with
  | some text => do
    let due ← engine.almanac.read? text
    return ({ task with dueDate := due.getD task.dueDate }, .pinned, [])
  | none => (engine.inferPin task).map fun (pin, events) => (task, pin, events)

def applyStartDate (engine : Engine) (task : Task) (token : Option Text) :
    Except CalendarError Task :=
  match token with
  | some text => do
    let start ← engine.almanac.read? text
    return { task with startDate := start.getD task.startDate }
  | none => .ok task

def applyRecurrence (task : Task) (token : Option Text) : Task :=
  { task with recurrence := token.getD task.recurrence }

/-- Gives a task whose due date is neither pinned nor archived the placeholder of its context and
    status. -/
def applyPlaceholder (engine : Engine) (task : Task) (pinned : Bool) (contexts : Option Catalog) :
    Except CalendarError Task :=
  if pinned then .ok task
  else do
    if ← engine.almanac.isArchived task.dueDate then return task
    else
      let context := contexts.bind (·.findById? task.context)
      let dueDate ← engine.almanac.placeholder (context.map (·.name)) task.status
      return { task with dueDate }

end TaskTitles.Engine
