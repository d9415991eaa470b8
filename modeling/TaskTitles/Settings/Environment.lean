import TaskTitles.Json.Reader
import TaskTitles.Settings.Discovery
import TaskTitles.Settings.Overlay
import TaskTitles.Text.Case

/-!
# Settings in the environment

A variable with the common start sets the setting of its name, case aside.  A section is set as a
whole by JSON, or field by field by variables that go on with two underscores; the latter go
before.  So do further underscores below a field.
-/

namespace TaskTitles.Settings

open Text Value

def variableStart : Text := "t2tctl_"

/-- What stands between the names of a section, a field and what is below it. -/
def nesting : Text := "__"

/-- The variables by their names in lower case; of two that differ in case only the later counts. -/
def lowerNames (environment : Environment) : List (Text × Text) :=
  environment.foldl (fun found (name, value) => put (lower name) value found) []
where
  /-- Sets a value: in its place if the name is there, else at the end. -/
  put (name value : Text) : List (Text × Text) → List (Text × Text)
    | [] => [(name, value)]
    | (n, v) :: rest => if n = name then (n, value) :: rest else (n, v) :: put name value rest

/-! ## Names -/

def plainNames : List Text := ["today", "json_output", "quiet", "verbose", "log_json"]

/-- The names of the sections and their fields; a field that is a list or a table is marked. -/
def sectionFields : List (Text × List (Text × Bool)) :=
  [("tokens", [("delimiter", false)]),
   ("dates", [("formats", true), ("default_month_offset", false), ("work_month_offset", false),
     ("notes_month_offset", false), ("archive_threshold_days", false)]),
   ("contexts", [("work", false), ("personal", false), ("notes", false),
     ("default_work_folder", false), ("default_personal_folder", false)]),
   ("keywords", [("star", false), ("no_star", false), ("no_context", false), ("no_folder", false),
     ("no_tag", false), ("no_due_date", false)]),
   ("markers", [("reminder_prefix", false), ("waiting_short", false), ("waiting_long", false),
     ("reference_prefix", false), ("project_tag", false), ("project_note_markers", true),
     ("banner_sentinel", false), ("max_note_length", false)]),
   ("status", [("default", false), ("future", false), ("pseudo_days", true)])]

/-! ## Values -/

/-- Sets a value below a chain of names, making tables on the way.  Nothing is set below a value
    that is no table. -/
def setBelow (names : List Text) (last : Text) (value : Value) (fields : Fields) : Fields :=
  match names with
  | [] => fields.set last value
  | name :: names =>
    match fields.get? name with
    | none => fields.set name (.table (setBelow names last value []))
    | some (.table below) => fields.set name (.table (setBelow names last value below))
    | some _ => fields

/-- The value of a variable for the field of that name; lists and tables are JSON unless empty. -/
def fieldValue (fields : List (Text × Bool)) (name value : Text) : Except Flaw Value :=
  let isCompound := fields.any fun (field, isCompound) =>
    isCompound && (field == name || variableStart ++ field == name)
  if isCompound && !value.isEmpty then Json.read .environment value else .ok (.text value)

/-- The fields that single variables set in a section. -/
def singleFields (bindings : List (Text × Text)) (sectionName : Text)
    (fields : List (Text × Bool)) : Except Flaw Fields :=
  bindings.foldlM (fun found (name, value) =>
    match dropLead? (variableStart ++ sectionName ++ nesting) name with
    | none => .ok found
    | some rest =>
      let names := splitOn nesting rest
      let last := names.getLast?.getD []
      match names with
      | [name] => (fieldValue fields name value).map fun v => setBelow [] last v found
      | _ => .ok (setBelow names.dropLast last (.text value) found)) []

/-- The fields with the names of the section where they differ from them in case only. -/
def knownNames (fields : List (Text × Bool)) (given : Fields) : Fields :=
  given.foldl (fun found (name, value) =>
    let known := fields.find? fun (field, _) => lower field == lower name
    found.set ((known.map (·.1)).getD name) value) []

def sectionValue? (bindings : List (Text × Text)) (sectionName : Text)
    (fields : List (Text × Bool)) : Except Flaw (Option Value) := do
  match bindings.lookup (variableStart ++ sectionName) with
  | none =>
    let single ← singleFields bindings sectionName fields
    return if single.isEmpty then none else some (.table (knownNames fields single))
  | some json =>
    match ← Json.read .environment json with
    | .null => return none
    | .table whole =>
      let single ← singleFields bindings sectionName fields
      return some (.table (knownNames fields (overlay whole single)))
    | value => return some value

def plainSettings (bindings : List (Text × Text)) : Fields :=
  plainNames.filterMap fun name =>
    (bindings.lookup (variableStart ++ name)).map fun value => (name, .text value)

/-- All settings of an environment, or the first section that cannot be read and its flaw. -/
def Environment.toFields (environment : Environment) : Except (Text × Flaw) Fields :=
  let bindings := lowerNames environment
  sectionFields.foldlM (fun found (sectionName, fields) =>
    match sectionValue? bindings sectionName fields with
    | .error flaw => .error (sectionName, flaw)
    | .ok none => .ok found
    | .ok (some value) => .ok (found ++ [(sectionName, value)])) (plainSettings bindings)

end TaskTitles.Settings
