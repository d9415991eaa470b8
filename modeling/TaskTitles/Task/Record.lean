import TaskTitles.Catalog
import TaskTitles.Task.Basic
import TaskTitles.Validation.Scalars

/-!
# Task records

How tasks, contexts and folders are read from documents and written to them.  Reading settles a
task: missing texts are empty, a priority or status with a number that nothing has becomes the
lowest one, and tags are made distinct.
-/

namespace TaskTitles

open Validation

/-! ## Contexts -/

def Context.ofValue : Value → Checked Context :=
  recordOf fun fields =>
    Checked.valid Context.mk
      |>.and (fieldOf fields "id" integer)
      |>.and (fieldOf fields "name" text)

def Context.toValue (c : Context) : Value :=
  .table [("id", .int c.id), ("name", .text c.name)]

/-! ## Tasks -/

namespace Task

/-- A text that may be null instead of empty. -/
def textOrNull : Value → Checked Text
  | .null => .valid []
  | value => text value

/-- The integer that a value is without conversion, a truth value counting as 0 or 1. -/
def plainInteger? : Value → Option Int
  | .int n => some n
  | .bool b => some (if b then 1 else 0)
  | _ => none

/-- A priority; an integer that is no priority counts as the negative one. -/
def priorityOf (value : Value) : Checked Priority :=
  match plainInteger? value with
  | some n => .valid ((Priority.ofNumber? n).getD .negative)
  | none => memberOf Priority.ofNumber? value

/-- A status; an integer that is no status counts as none. -/
def statusOf (value : Value) : Checked Status :=
  match plainInteger? value with
  | some n => .valid ((Status.ofNumber? n).getD .none)
  | none => memberOf Status.ofNumber? value

/-- Tags, as a list or in one text. -/
def tagsOf : Value → Checked (List Text)
  | .null => .valid []
  | .text t => .valid (Tags.ofText t)
  | value => (listOf text value).map Tags.distinct

def ofValue : Value → Checked Task :=
  recordOf fun fields =>
    Checked.valid Task.mk
      |>.and (fieldOf fields "id" integer (some 0))
      |>.and (fieldOf fields "title" textOrNull (some []))
      |>.and (fieldOf fields "note" textOrNull (some []))
      |>.and (fieldOf fields "priority" priorityOf (some .low))
      |>.and (fieldOf fields "starred" bool (some false))
      |>.and (fieldOf fields "due_date" integer (some 0))
      |>.and (fieldOf fields "start_date" integer (some 0))
      |>.and (fieldOf fields "repeat" textOrNull (some []))
      |>.and (fieldOf fields "context" integer (some 0))
      |>.and (fieldOf fields "folder" integer (some 0))
      |>.and (fieldOf fields "tags" tagsOf (some []))
      |>.and (fieldOf fields "status" statusOf (some .none))
      |>.and (fieldOf fields "children" natural (some 0))

/-- The fields of a task, with the given forms of its priority and its status. -/
def fieldsWith (task : Task) (priority status : Value) : Value.Fields :=
  [("id", .int task.id), ("title", .text task.title), ("note", .text task.note),
   ("priority", priority), ("starred", .bool task.starred), ("due_date", .int task.dueDate),
   ("start_date", .int task.startDate), ("repeat", .text task.recurrence),
   ("context", .int task.context), ("folder", .int task.folder),
   ("tags", .ofTexts task.tags), ("status", status), ("children", .int task.children)]

def toValue (task : Task) : Value :=
  .table (task.fieldsWith (.int task.priority.number) (.int task.status.number))

end Task

end TaskTitles
