import TaskTitles.Calendar.Date
import TaskTitles.Files.Place
import TaskTitles.Json.Writer

/-!
# Reports

Every operation answers with a report: whether it succeeded, its name, its data, warnings and,
where it failed, the failure.  The data is a table of fields whose shapes `Report.Shape` states.
What keeps an operation from making a report is a crash.
-/

namespace TaskTitles

open Calendar Files

inductive FailureCode where
  | invalidDate
  | unknownStatus
  | sourceUnavailable
  | sourceError
  deriving Repr, DecidableEq

def FailureCode.name : FailureCode → Text
  | .invalidDate => "INVALID_DATE"
  | .unknownStatus => "UNKNOWN_STATUS"
  | .sourceUnavailable => "SOURCE_UNAVAILABLE"
  | .sourceError => "SOURCE_ERROR"

/-- Why an operation failed.  The detail repeats the input that was at fault. -/
structure Failure where
  code : Text
  message : Text
  detail : Value.Fields := []

structure Report where
  succeeded : Bool
  operation : Text
  data : Value.Fields := []
  warnings : List Text := []
  failure : Option Failure := none

namespace Report

def success (operation : Text) (data : Value.Fields) (warnings : List Text := []) : Report :=
  { succeeded := true, operation, data, warnings }

def failed (operation : Text) (code : FailureCode) (message : Text) (detail : Value.Fields) :
    Report :=
  { succeeded := false, operation, failure := some { code := code.name, message, detail } }

def failureValue (failure : Failure) : Value :=
  .table [("code", .text failure.code), ("message", .text failure.message),
    ("detail", .table failure.detail)]

def toValue (report : Report) : Value :=
  .table [("ok", .bool report.succeeded), ("op", .text report.operation),
    ("data", .table report.data), ("warnings", .ofTexts report.warnings),
    ("error", (report.failure.map failureValue).getD .null)]

def toJson (report : Report) : Text := Json.write .indented report.toValue

def failureMessage (report : Report) : Text :=
  (report.failure.map (·.message)).getD "Unknown error"

end Report

/-- Why an operation ends without a report. -/
inductive Crash where
  /-- A file is no text. -/
  | undecodable
  | calendar (cause : CalendarError)
  /-- It cannot be found out whether there is a file. -/
  | unknowable (cause : FileError)
  /-- An integer that is to be written has too many digits. -/
  | tooManyDigits
  deriving Repr, DecidableEq

end TaskTitles
