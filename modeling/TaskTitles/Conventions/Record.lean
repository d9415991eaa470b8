import TaskTitles.Conventions.Basic
import TaskTitles.Text.Quoted
import TaskTitles.Validation.Scalars

/-!
# Convention records

How the sections of the conventions are read from documents and written to them.  What a document
leaves out has its default.
-/

namespace TaskTitles.Conventions

open Validation

/-! ## Reading -/

def Tokens.ofValue : Value → Checked Tokens :=
  recordOf fun fields =>
    let default : Tokens := {}
    Checked.valid Tokens.mk
      |>.and (fieldOf fields "delimiter" character (some default.delimiter))

def Dates.ofValue : Value → Checked Dates :=
  recordOf fun fields =>
    let default : Dates := {}
    Checked.valid Dates.mk
      |>.and (fieldOf fields "formats" (listOf text) (some default.formats))
      |>.and (fieldOf fields "default_month_offset" integer (some default.defaultMonthOffset))
      |>.and (fieldOf fields "work_month_offset" integer (some default.workMonthOffset))
      |>.and (fieldOf fields "notes_month_offset" integer (some default.notesMonthOffset))
      |>.and (fieldOf fields "archive_threshold_days" integer (some default.archiveThresholdDays))

def Contexts.ofValue : Value → Checked Contexts :=
  recordOf fun fields =>
    let default : Contexts := {}
    Checked.valid Contexts.mk
      |>.and (fieldOf fields "work" text (some default.work))
      |>.and (fieldOf fields "personal" text (some default.personal))
      |>.and (fieldOf fields "notes" text (some default.notes))
      |>.and (fieldOf fields "default_work_folder" text (some default.defaultWorkFolder))
      |>.and (fieldOf fields "default_personal_folder" text (some default.defaultPersonalFolder))

def Keywords.ofValue : Value → Checked Keywords :=
  recordOf fun fields =>
    let default : Keywords := {}
    Checked.valid Keywords.mk
      |>.and (fieldOf fields "star" text (some default.star))
      |>.and (fieldOf fields "no_star" text (some default.noStar))
      |>.and (fieldOf fields "no_context" text (some default.noContext))
      |>.and (fieldOf fields "no_folder" text (some default.noFolder))
      |>.and (fieldOf fields "no_tag" text (some default.noTag))
      |>.and (fieldOf fields "no_due_date" text (some default.noDueDate))

def Markers.ofValue : Value → Checked Markers :=
  recordOf fun fields =>
    let default : Markers := {}
    Checked.valid Markers.mk
      |>.and (fieldOf fields "reminder_prefix" text (some default.reminderPrefix))
      |>.and (fieldOf fields "waiting_short" text (some default.waitingShort))
      |>.and (fieldOf fields "waiting_long" text (some default.waitingLong))
      |>.and (fieldOf fields "reference_prefix" text (some default.referencePrefix))
      |>.and (fieldOf fields "project_tag" text (some default.projectTag))
      |>.and (fieldOf fields "project_note_markers" (listOf text) (some default.projectNoteMarkers))
      |>.and (fieldOf fields "banner_sentinel" text (some default.bannerSentinel))
      |>.and (fieldOf fields "max_note_length" integer (some default.maxNoteLength))

def unknownStatus (word : Text) : Text := "Unknown status " ++ Text.quoted word

def statusOf : Value → Checked Status
  | .text word =>
    match Status.ofWord? word with
    | some status => .valid status
    | none => .fault (.refused (unknownStatus word))
  | value => memberOf Status.ofNumber? value

def daysFrom : Value.Fields → Checked (List (Text × Int))
  | [] => .valid []
  | (key, value) :: rest =>
    ((integer value).under (.field key) |>.map fun day => List.cons (key, day)).and (daysFrom rest)

/-- Days of the month by status keyword; every key must name a status. -/
def placeholderDaysOf : Value → Checked (List (Text × Int))
  | .table fields =>
    (daysFrom fields).andThen fun days =>
      match days.find? fun (key, _) => Status.ofWord? key = none with
      | some (key, _) => .fault (.refused (unknownStatus key))
      | none => .valid days
  | _ => .fault .notTable

def Statuses.ofValue : Value → Checked Statuses :=
  recordOf fun fields =>
    let default : Statuses := {}
    Checked.valid Statuses.mk
      |>.and (fieldOf fields "default" statusOf (some default.default))
      |>.and (fieldOf fields "future" statusOf (some default.future))
      |>.and (fieldOf fields "pseudo_days" placeholderDaysOf (some default.placeholderDays))

def ofFields (fields : Value.Fields) : Checked Conventions :=
  Checked.valid Conventions.mk
    |>.and (fieldOf fields "tokens" Tokens.ofValue (some {}))
    |>.and (fieldOf fields "dates" Dates.ofValue (some {}))
    |>.and (fieldOf fields "contexts" Contexts.ofValue (some {}))
    |>.and (fieldOf fields "keywords" Keywords.ofValue (some {}))
    |>.and (fieldOf fields "markers" Markers.ofValue (some {}))
    |>.and (fieldOf fields "status" Statuses.ofValue (some {}))

def ofValue : Value → Checked Conventions := recordOf ofFields

/-! ## Writing -/

def sectionNames : List Text := ["tokens", "dates", "contexts", "keywords", "markers", "status"]

def toFields (c : Conventions) : Value.Fields :=
  [("tokens", .table [("delimiter", .text [c.tokens.delimiter])]),
   ("dates", .table
     [("formats", .ofTexts c.dates.formats),
      ("default_month_offset", .int c.dates.defaultMonthOffset),
      ("work_month_offset", .int c.dates.workMonthOffset),
      ("notes_month_offset", .int c.dates.notesMonthOffset),
      ("archive_threshold_days", .int c.dates.archiveThresholdDays)]),
   ("contexts", .table
     [("work", .text c.contexts.work), ("personal", .text c.contexts.personal),
      ("notes", .text c.contexts.notes),
      ("default_work_folder", .text c.contexts.defaultWorkFolder),
      ("default_personal_folder", .text c.contexts.defaultPersonalFolder)]),
   ("keywords", .table
     [("star", .text c.keywords.star), ("no_star", .text c.keywords.noStar),
      ("no_context", .text c.keywords.noContext), ("no_folder", .text c.keywords.noFolder),
      ("no_tag", .text c.keywords.noTag), ("no_due_date", .text c.keywords.noDueDate)]),
   ("markers", .table
     [("reminder_prefix", .text c.markers.reminderPrefix),
      ("waiting_short", .text c.markers.waitingShort),
      ("waiting_long", .text c.markers.waitingLong),
      ("reference_prefix", .text c.markers.referencePrefix),
      ("project_tag", .text c.markers.projectTag),
      ("project_note_markers", .ofTexts c.markers.projectNoteMarkers),
      ("banner_sentinel", .text c.markers.bannerSentinel),
      ("max_note_length", .int c.markers.maxNoteLength)]),
   ("status", .table
     [("default", .int c.status.default.number), ("future", .int c.status.future.number),
      ("pseudo_days", .table (c.status.placeholderDays.map fun (key, day) => (key, .int day)))])]

def toValue (c : Conventions) : Value := .table c.toFields

end TaskTitles.Conventions
