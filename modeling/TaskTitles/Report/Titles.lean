import TaskTitles.Log.Basic
import TaskTitles.Normalize.Engine
import TaskTitles.Report.Basic
import TaskTitles.Task.Payload

/-!
# Reports on titles and dates

The operations on a single title or date: showing its tokens, the date that a text names, the
placeholder date of a status and context, and the task that a title stands for.
-/

namespace TaskTitles

open Calendar

/-- What a task is made up from when there is only a title: the status is a word, as a title would
    hold it. -/
structure Draft where
  title : Text
  note : Text := []
  status : Option Text := none
  dueDate : Timestamp := Timestamp.blank

namespace Engine

def tokensReport (engine : Engine) (title : Text) : Except CalendarError Report := do
  let tokens ← engine.tokenize title
  return .success "tokenize"
    [("title", .text title), ("description", .text tokens.description),
     ("due_date", .ofText? tokens.dueDate), ("start_date", .ofText? tokens.startDate),
     ("repeat", .ofText? tokens.recurrence), ("modifiers", .ofTexts tokens.modifiers)]

def dateReport (engine : Engine) (t : Text) : Except CalendarError Report := do
  match ← engine.almanac.read? t with
  | none =>
    return .failed "resolve_date" .invalidDate ("Not a date: " ++ Text.quoted t)
      [("text", .text t)]
  | some v =>
    return .success "resolve_date"
      [("text", .text t), ("timestamp", .int v), ("date", .ofText? (← Timestamp.isoDate? v))]

def unknownStatusReport (operation word : Text) : Report :=
  .failed operation .unknownStatus ("Unknown status: " ++ Text.quoted word)
    [("status", .text word)]

/-- The report on the placeholder date of a status and a context; without a status, the default one
    counts. -/
def placeholderReport (engine : Engine) (status context : Option Text) :
    Except CalendarError Report :=
  match status.map fun word => (word, Status.ofWord? word) with
  | some (word, none) => .ok (unknownStatusReport "pseudo_date" word)
  | some (_, some status) => report status
  | none => report engine.conventions.status.default
where
  report (status : Status) : Except CalendarError Report := do
    let v ← engine.almanac.placeholder context status
    return .success "pseudo_date"
      [("status", .text status.word), ("context", .ofText? context), ("timestamp", .int v),
       ("date", .ofText? (← Timestamp.isoDate? v))]

/-- The report on a due date that cannot be archived.  Its message repeats the date, which may have too
    many digits for that. -/
def dueDateReport (dueDate : Timestamp) : Except Crash Report :=
  match Text.ofInt? dueDate with
  | none => .error .tooManyDigits
  | some numeral =>
    .ok (.failed "normalize" .invalidDate
      ("Due date out of range: " ++ numeral ++ " (0 to " ++ Text.ofInt Timestamp.last ++ ")")
      [("due_date", .int dueDate)])

/-- The report on the task that is normalized from a title, without catalogs. -/
def taskReport (engine : Engine) (draft : Draft) : Logged Crash Report :=
  match draft.status.map fun word => (word, Status.ofWord? word) with
  | some (word, none) => { result := .ok (unknownStatusReport "normalize" word) }
  | some (_, some status) => report status
  | none => report .none
where
  report (status : Status) : Logged Crash Report :=
    if Timestamp.isRepresentable draft.dueDate then
      let task : Task :=
        { title := draft.title, note := draft.note, status, dueDate := draft.dueDate }
      match engine.normalize task none none with
      | .error interruption =>
        { log := interruption.events.map .event, result := .error (.calendar interruption.cause) }
      | .ok outcome =>
        { log := outcome.events.map .event
          result := match outcome.task.payload with
            | .error cause => .error (.calendar cause)
            | .ok fields =>
              .ok (.success "normalize"
                [("changed", .bool outcome.changed), ("task", .table fields)]) }
    else { result := dueDateReport draft.dueDate }

end Engine

end TaskTitles
