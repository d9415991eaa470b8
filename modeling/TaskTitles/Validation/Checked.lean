import TaskTitles.Value.Basic

/-!
# Checked values

A document is checked field by field, and all faults are reported, not only the first.  A fault says
where it is, as a path of field names and positions from the checked record, and what it is.
-/

namespace TaskTitles.Validation

inductive Step where
  | field (name : Text)
  | index (n : Nat)
  deriving Repr, DecidableEq

inductive Cause where
  | missing
  | unknownField
  | notInteger
  | integerText
  | integerTooLarge
  | integerFraction
  | integerNotFinite
  | belowMinimum
  | notBool
  | boolText
  | notText
  | textTooShort
  | textTooLong
  | notList
  | notTable
  | notRecord
  | notMember
  | notDate
  | dateText
  | yearZero
  | dateWithTime
  | refused (message : Text)
  deriving Repr, DecidableEq

structure Fault where
  path : List Step
  cause : Cause
  deriving Repr, DecidableEq

/-- A value that has passed its checks, or all faults found. -/
inductive Checked (α : Type) where
  | valid (value : α)
  | invalid (faults : List Fault)
  deriving Repr, DecidableEq

namespace Checked

variable {α β : Type}

def fault (cause : Cause) : Checked α := .invalid [⟨[], cause⟩]

def map (f : α → β) : Checked α → Checked β
  | valid a => valid (f a)
  | invalid faults => invalid faults

/-- A check that depends on the value found before. -/
def andThen (x : Checked α) (f : α → Checked β) : Checked β :=
  match x with
  | valid a => f a
  | invalid faults => invalid faults

/-- Supplies one more checked argument, with the faults of both sides. -/
def and (f : Checked (α → β)) (x : Checked α) : Checked β :=
  match f, x with
  | valid f, valid a => valid (f a)
  | valid _, invalid faults => invalid faults
  | invalid faults, valid _ => invalid faults
  | invalid faults, invalid more => invalid (faults ++ more)

/-- Places the faults below a step. -/
def under (step : Step) : Checked α → Checked α
  | valid a => valid a
  | invalid faults => invalid (faults.map fun f => { f with path := step :: f.path })

def toOption : Checked α → Option α
  | valid a => some a
  | invalid _ => none

end Checked

/-! ## Lists and records -/

def checkFrom {α : Type} (check : Value → Checked α) (position : Nat) :
    List Value → Checked (List α)
  | [] => .valid []
  | item :: rest =>
    ((check item).under (.index position) |>.map List.cons).and
      (checkFrom check (position + 1) rest)

def listOf {α : Type} (check : Value → Checked α) : Value → Checked (List α)
  | .list items => checkFrom check 0 items
  | _ => .fault .notList

/-- The field of a record, which may be absent where there is a default. -/
def fieldOf {α : Type} (fields : Value.Fields) (name : Text) (check : Value → Checked α)
    (default? : Option α := none) : Checked α :=
  match Value.Fields.get? fields name, default? with
  | some value, _ => (check value).under (.field name)
  | none, some value => .valid value
  | none, none => Checked.fault Cause.missing |>.under (.field name)

/-- A record, checked by its fields.  Fields that the check does not ask for are ignored. -/
def recordOf {α : Type} (check : Value.Fields → Checked α) : Value → Checked α
  | .table fields => check fields
  | _ => .fault .notRecord

def nullable {α : Type} (check : Value → Checked α) : Value → Checked (Option α)
  | .null => .valid none
  | value => (check value).map some

end TaskTitles.Validation
