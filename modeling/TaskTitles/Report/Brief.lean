import TaskTitles.Report.Basic

/-!
# Reports in brief

The brief form of a report is what another program would read on: the numbers of the items, or the
one value that the operation is about.
-/

namespace TaskTitles.Report

/-- Why the data of a report cannot be shown. -/
inductive Misfit where
  /-- An item has no number. -/
  | noId
  | notTable
  | notTexts
  deriving Repr, DecidableEq

/-- The fields that hold the one value of an operation. -/
def valueFields : List Text := ["date", "description"]

def itemNumber (fields : Value.Fields) : Except Misfit Text :=
  match fields.get? "id" with
  | some id => .ok id.plain
  | none => .error .noId

def tableFields? : Value → Option Value.Fields
  | .table fields => some fields
  | _ => none

def items? (data : Value.Fields) : Option (List Value) :=
  match data.get? "items" with
  | some (.list (item :: rest)) => some (item :: rest)
  | _ => none

/-- A field that is not null. -/
def present? (data : Value.Fields) (name : Text) : Option Value :=
  match data.get? name with
  | none | some .null => none
  | some value => some value

def brief (report : Report) : Except Misfit Text :=
  if !report.succeeded then
    .ok ("ERROR: " ++ report.operation ++ ": " ++ report.failureMessage)
  else match items? report.data with
  | some items => (Text.joinWith "\n" ·) <$> (items.filterMap tableFields?).mapM itemNumber
  | none =>
    match valueFields.findSome? (present? report.data) with
    | some value => .ok value.plain
    | none =>
      match report.data.get? "task" with
      | some (.table task) => .ok (((Value.Fields.get? task "title").map Value.plain).getD [])
      | _ => .ok ("OK: " ++ report.operation)

end TaskTitles.Report
