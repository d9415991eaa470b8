import TaskTitles.Json.Reader
import TaskTitles.Json.Writer
import TaskTitles.Task.Record

/-!
# Snapshots

A snapshot is everything that one user has: contexts, folders and tasks.  It is kept as JSON.
-/

namespace TaskTitles

open Validation

structure Snapshot where
  contexts : List Context := []
  folders : List Context := []
  tasks : List Task := []
  deriving Repr, DecidableEq

namespace Snapshot

/-- A snapshot from a document; lists that are left out are empty. -/
def ofValue : Value → Checked Snapshot :=
  recordOf fun fields =>
    Checked.valid Snapshot.mk
      |>.and (fieldOf fields "contexts" (listOf Context.ofValue) (some []))
      |>.and (fieldOf fields "folders" (listOf Context.ofValue) (some []))
      |>.and (fieldOf fields "tasks" (listOf Task.ofValue) (some []))

def toValue (snapshot : Snapshot) : Value :=
  .table [("contexts", .list (snapshot.contexts.map Context.toValue)),
    ("folders", .list (snapshot.folders.map Context.toValue)),
    ("tasks", .list (snapshot.tasks.map Task.toValue))]

/-- The text of a snapshot, however many digits its numbers have. -/
def toText (snapshot : Snapshot) : Text := Json.write .indentedAscii snapshot.toValue ++ "\n"

/-- The text that is written to a file; there is none if a number has too many digits. -/
def toText? (snapshot : Snapshot) : Option Text :=
  (Json.write? .indentedAscii snapshot.toValue).map (· ++ "\n")

/-- The snapshot of a file's text, or the number of its faults; a text that cannot be
    read as JSON has one. -/
def ofText (t : Text) : Except Nat Snapshot :=
  match Json.read .file t with
  | .error _ => .error 1
  | .ok value =>
    match ofValue value with
    | .valid snapshot => .ok snapshot
    | .invalid faults => .error faults.length

def lastWithId? (id : Int) (tasks : List Task) : Option Task := tasks.reverse.find? (·.id == id)

/-- The snapshot in which every task whose number is among those of `changed` is replaced. -/
def replaceTasks (snapshot : Snapshot) (changed : List Task) : Snapshot :=
  { snapshot with
    tasks := snapshot.tasks.map fun task => (lastWithId? task.id changed).getD task }

/-- The number of tasks that `replaceTasks` replaces. -/
def replacedCount (snapshot : Snapshot) (changed : List Task) : Nat :=
  snapshot.tasks.countP fun task => (lastWithId? task.id changed).isSome

end Snapshot

end TaskTitles
