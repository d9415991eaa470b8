import TaskTitles.Task.Basic

/-!
# The numbers of a task

What is true of every integer that a task holds.
-/

namespace TaskTitles

/-- Something holds of every number of a task. -/
structure Task.HasNumbers (holds : Int → Prop) (task : Task) : Prop where
  id : holds task.id
  dueDate : holds task.dueDate
  startDate : holds task.startDate
  context : holds task.context
  folder : holds task.folder
  children : holds task.children

end TaskTitles
