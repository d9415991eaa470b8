import TaskTitles.Task.Record

/-!
# Tasks in reports

A report shows a task with words for its priority and status, and with its dates written out.
-/

namespace TaskTitles.Task

open Calendar

/-- The fields of a task as a report shows them. -/
def payload (task : Task) : Except CalendarError Value.Fields := do
  let due ← Timestamp.isoDate? task.dueDate
  let start ← Timestamp.isoDate? task.startDate
  let dates : Value.Fields := [("due", .ofText? due), ("start", .ofText? start)]
  return task.fieldsWith (.text task.priority.word) (.text task.status.word) ++ dates

end TaskTitles.Task
