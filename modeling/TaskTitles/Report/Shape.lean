import TaskTitles.Validation.Scalars

/-!
# Shapes of report data

The data of each operation has a fixed shape: which fields there are, and what they hold.
Checking data against its shape settles it, which means that numbers and truth values get their
plain form and fields that the shape does not know are dropped.  Only a task keeps its other
fields.
-/

namespace TaskTitles.Report

open Validation

inductive Shape where
  | tokens
  | date
  | placeholder
  | task
  | normalized
  | item
  | sync
  deriving Repr, DecidableEq

namespace Shape

/-- A field and how its value is settled. -/
abbrev FieldRule := Text × (Value → Checked Value)

def integerField (name : Text) : FieldRule := (name, fun v => (integer v).map .int)

def boolField (name : Text) : FieldRule := (name, fun v => (bool v).map .bool)

def textField (name : Text) : FieldRule := (name, fun v => (text v).map .text)

def nullableField (name : Text) : FieldRule :=
  (name, fun v => (nullable text v).map fun t => (t.map Value.text).getD .null)

def textsField (name : Text) : FieldRule :=
  (name, fun v => (listOf text v).map fun ts => .list (ts.map .text))

def nestedField (name : Text) (check : Value → Checked Value) : FieldRule := (name, check)

def settleFields (fields : Value.Fields) : List FieldRule → Checked Value.Fields
  | [] => .valid []
  | (name, check) :: rules =>
    ((fieldOf fields name check).map fun v => List.cons (name, v)).and (settleFields fields rules)

/-- A record that has just the fields of the rules. -/
def closedRecord (rules : List FieldRule) : Value → Checked Value :=
  recordOf fun fields => (settleFields fields rules).map .table

/-- A record that has at least the fields of the rules. -/
def openRecord (rules : List FieldRule) : Value → Checked Value :=
  recordOf fun fields =>
    (settleFields fields rules).map fun settled =>
      .table (settled ++ fields.filter fun field => !rules.any (·.1 == field.1))

def taskRules : List FieldRule :=
  [integerField "id", textField "title", textField "note", textField "priority",
   boolField "starred", integerField "due_date", integerField "start_date", textField "repeat",
   integerField "context", integerField "folder", textsField "tags", textField "status"]

def itemRules : List FieldRule := [integerField "id", textField "title"]

/-- The settled form of a value of the shape. -/
def check : Shape → Value → Checked Value
  | tokens => closedRecord
      [textField "title", textField "description", nullableField "due_date",
       nullableField "start_date", nullableField "repeat", textsField "modifiers"]
  | date => closedRecord [textField "text", integerField "timestamp", textField "date"]
  | placeholder => closedRecord
      [textField "status", nullableField "context", integerField "timestamp", textField "date"]
  | task => openRecord taskRules
  | normalized => closedRecord [boolField "changed", nestedField "task" (openRecord taskRules)]
  | item => closedRecord itemRules
  | sync => closedRecord
      [textField "source", integerField "inspected", integerField "modified",
       integerField "pushed", boolField "dry_run",
       nestedField "items" fun v => (listOf (closedRecord itemRules) v).map .list]

end Shape

end TaskTitles.Report
