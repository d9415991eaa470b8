import TaskTitles.Display.Table
import TaskTitles.Report.Brief

/-!
# Reports as pages

The page of a report is what a person reads: a line with the outcome and below it the fields that
matter for the operation, laid out for 120 columns.  A verbose page shows more of them.
-/

namespace TaskTitles.Report

open Display

def pageWidth : Nat := 120

def printed (t : Text) : List Text := layout pageWidth .cut t

/-! ## Fields -/

/-- A value on a page; nothing is shown as a hyphen. -/
def shown : Value → Text
  | .null => "-"
  | value => value.plain

def fieldLines (name : Text) (value : Value) : List Text :=
  printed ("  " ++ name ++ ": " ++ shown value)

/-- The lines of the named fields; a field that is absent counts as null. -/
def namedLines (fields : Value.Fields) (names : List Text) : List Text :=
  names.flatMap fun name => fieldLines name ((fields.get? name).getD .null)

def outcomeLines (report : Report) : List Text := printed ("OK  " ++ report.operation)

/-- The values that a page lists: the items of a list, the characters of a text, the keys of a
    table. -/
def listed : Value → Except Misfit (List Value)
  | .list items => .ok items
  | .text t => .ok (t.map fun c => .text [c])
  | .table fields => .ok (fields.map fun field => .text field.1)
  | _ => .error .notTexts

def asText : Value → Except Misfit Text
  | .text t => .ok t
  | _ => .error .notTexts

/-- Whether a field is there and counts as true. -/
def holds (fields : Value.Fields) (name : Text) : Bool :=
  ((fields.get? name).map Value.isTruthy).getD false

/-! ## Operations -/

def tokensLines (data : Value.Fields) (verbose : Bool) : Except Misfit (List Text) := do
  let fields := (if verbose then namedLines data ["title"] else [])
    ++ namedLines data ["description", "due_date", "start_date", "repeat"]
  let modifiers := (data.get? "modifiers").getD (.list [])
  if modifiers.isTruthy then
    let marked := (← listed modifiers).map fun m => '/' :: m.plain
    return fields ++ printed ("  modifiers: " ++ Text.joinWith " " marked)
  else return fields ++ fieldLines "modifiers" .null

def dateOrigins : List Text := ["text", "status", "context"]

def dateLines (data : Value.Fields) (verbose : Bool) : List Text :=
  namedLines data (dateOrigins.filter fun name => (data.get? name).isSome)
    ++ namedLines data ["date"] ++ if verbose then namedLines data ["timestamp"] else []

def tagLines (tags : Value) : Except Misfit (List Text) := do
  if tags.isTruthy then
    let texts ← (← listed tags).mapM asText
    return fieldLines "tags" (.text (Text.joinWith ", " texts))
  else return []

def noteLines (note : Value) : Except Misfit (List Text) := do
  if note.isTruthy then
    match note with
    | .text t =>
      return printed "  note:" ++ (Text.lines t).flatMap fun line => printed ("    " ++ line)
    | _ => .error .notTable
  else return []

/-- Whether a field is absent, null or an empty text. -/
def isBlankField (fields : Value.Fields) (name : Text) : Bool :=
  match fields.get? name with
  | none | some .null | some (.text []) => true
  | _ => false

/-- The fields of a task that a page shows only where they are not blank. -/
def optionalFields : List Text := ["start", "repeat"]

def taskFieldLines (task : Value.Fields) : List Text :=
  namedLines task ["title", "status", "priority", "due"]
    ++ namedLines task (optionalFields.filter fun name => !isBlankField task name)

def normalizedLines (data : Value.Fields) (verbose : Bool) : Except Misfit (List Text) := do
  match (data.get? "task").getD (.table []) with
  | .table fields =>
    let task : Value.Fields := fields
    let changed := if holds data "changed" then printed "  CHANGED" else []
    let starred := if holds task "starred" then fieldLines "starred" (.text "yes") else []
    let tags ← tagLines ((task.get? "tags").getD (.list []))
    let details := if verbose then namedLines task ["context", "folder", "due_date"] else []
    let note ← noteLines ((task.get? "note").getD (.text []))
    return changed ++ taskFieldLines task ++ starred ++ tags ++ details ++ note
  | _ => .error .notTable

def itemRow (item : Value) : Except Misfit (Text × Text) :=
  match item with
  | .table fields =>
    let cell (name : Text) : Text := ((Value.Fields.get? fields name).map Value.plain).getD []
    .ok (cell "id", cell "title")
  | _ => .error .notTable

/-- The lines on a cycle, with a table of the changed tasks on verbose pages and after dry runs. -/
def syncLines (data : Value.Fields) (verbose : Bool) : Except Misfit (List Text) := do
  let dryRun := holds data "dry_run"
  let fields := namedLines data ["source", "inspected", "modified", "pushed"]
  let items := (data.get? "items").getD (.list [])
  let rows ← if items.isTruthy && (verbose || dryRun) then do
      let rows ← (← listed items).mapM itemRow
      pure ([] :: table pageWidth ("ID", "Title") rows)
    else pure []
  return (if dryRun then printed "  DRY RUN" else []) ++ fields ++ rows

/-- The lines on an operation without a page of its own: all its data, lists and tables as JSON. -/
def dataLines (data : Value.Fields) : List Text :=
  data.flatMap fun (name, value) =>
    match value with
    | .list _ | .table _ => fieldLines name (.text (Json.write .compactAscii value))
    | value => fieldLines name value

/-- The lines on a failure; a verbose page shows its code and its detail. -/
def failureLines (report : Report) (verbose : Bool) : List Text :=
  let headline := printed ("ERROR  " ++ report.operation ++ ": " ++ report.failureMessage)
  match report.failure with
  | some failure =>
    if verbose then
      let detail := failure.detail.flatMap fun (name, value) =>
        printed ("    " ++ name ++ ": " ++ value.plain)
      headline ++ printed ("  code: " ++ failure.code)
        ++ (if failure.detail.isEmpty then [] else printed "  detail:") ++ detail
    else headline
  | none => headline

def operationLines (operation : Text) (data : Value.Fields) (verbose : Bool) :
    Except Misfit (List Text) :=
  match String.ofList operation with
  | "tokenize" => tokensLines data verbose
  | "resolve_date" | "pseudo_date" => .ok (dateLines data verbose)
  | "normalize" => normalizedLines data verbose
  | "sync" => syncLines data verbose
  | _ => .ok (dataLines data)

/-! ## Pages -/

/-- The lines as one text, without the blank ones at the end. -/
def pageText (lines : List Text) : Text :=
  Text.joinWith "\n" (lines.reverse.dropWhile (· = [])).reverse

def page (report : Report) (verbose : Bool) : Except Misfit Text :=
  if report.succeeded then
    (operationLines report.operation report.data verbose).map fun lines =>
      pageText (outcomeLines report ++ lines)
  else .ok (pageText (failureLines report verbose))

/-! ## Forms -/

structure Form where
  json : Bool := false
  quiet : Bool := false
  verbose : Bool := false
  deriving Repr, DecidableEq

/-- A report in a form; JSON goes before the brief form. -/
def inForm (report : Report) (form : Form) : Except Misfit Text :=
  if form.json then .ok report.toJson
  else if form.quiet then report.brief
  else report.page form.verbose

end TaskTitles.Report
