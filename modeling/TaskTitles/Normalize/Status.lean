import TaskTitles.Normalize.Basic

/-!
# The rules that tie the status to the title

A title that starts like a waiting or a reference title has that status, and a task with that status
and another title goes back to the default.  Tasks for the future keep their status, and projects
are not tied to waiting.
-/

namespace TaskTitles.Engine

open Text

/-- Whether the task is a project: it has children, or its tags or its note say so. -/
def isProject (engine : Engine) (task : Task) : Bool :=
  let markers := engine.conventions.markers
  decide (0 < task.children) || occursIn markers.projectTag task.tagText
    || markers.projectNoteMarkers.any fun marker => occursIn marker (strip task.note)

/-- The status of a task that has `tied` exactly when `holds`. -/
def tie (tied default : Status) (holds : Bool) (status : Status) : Status :=
  if holds then tied else if status = tied then default else status

def isWaitingTitle (engine : Engine) (title : Text) : Bool :=
  startsWith engine.conventions.markers.waitingShort title
    || startsWith engine.conventions.markers.waitingLong title

def isReferenceTitle (engine : Engine) (title : Text) : Bool :=
  startsWith engine.conventions.markers.referencePrefix title

def applyTitleStatus (engine : Engine) (task : Task) : Task :=
  let statuses := engine.conventions.status
  let status :=
    if task.status ≠ statuses.future ∧ !engine.isProject task then
      tie .waiting statuses.default (engine.isWaitingTitle task.title) task.status
    else task.status
  let status :=
    if status ≠ statuses.future then
      tie .reference statuses.default (engine.isReferenceTitle task.title) status
    else status
  { task with status }

end TaskTitles.Engine
