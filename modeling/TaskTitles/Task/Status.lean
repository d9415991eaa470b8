import TaskTitles.Text.Case

/-!
# Statuses

The statuses of a task, each with its number at the task service, the words that name it in a title,
and the day of the month on which its placeholder dates fall.
-/

namespace TaskTitles

inductive Status where
  | none
  | nextAction
  | active
  | planning
  | delegated
  | waiting
  | hold
  | postponed
  | someday
  | canceled
  | reference
  deriving Repr, DecidableEq

namespace Status

def all : List Status :=
  [none, nextAction, active, planning, delegated, waiting, hold, postponed, someday, canceled,
   reference]

def number : Status → Int
  | none => 0
  | nextAction => 1
  | active => 2
  | planning => 3
  | delegated => 4
  | waiting => 5
  | hold => 6
  | postponed => 7
  | someday => 8
  | canceled => 9
  | reference => 10

def ofNumber? (n : Int) : Option Status := all.find? (·.number == n)

def word : Status → Text
  | none => "none"
  | nextAction => "next_action"
  | active => "active"
  | planning => "planning"
  | delegated => "delegated"
  | waiting => "waiting"
  | hold => "hold"
  | postponed => "postponed"
  | someday => "someday"
  | canceled => "canceled"
  | reference => "reference"

/-- The shorter word that some statuses have besides their name. -/
def shortcut? : Status → Option Text
  | nextAction => some "next"
  | planning => some "plan"
  | delegated => some "delegate"
  | reference => some "ref"
  | _ => Option.none

def isNamed (s : Status) (w : Text) : Bool := s.shortcut? == some w || s.word == w

/-- The status that a word names, case aside. -/
def ofWord? (w : Text) : Option Status := all.find? (·.isNamed (Text.lower w))

/-- The day of the month of placeholder dates, where no convention says otherwise. -/
def placeholderDay : Status → Int
  | none => 1
  | nextAction => 1
  | active => 7
  | planning => 14
  | delegated => 21
  | waiting => 21
  | hold => 21
  | postponed => 21
  | someday => 28
  | canceled => 28
  | reference => 28

@[simp] theorem ofNumber?_number (s : Status) : ofNumber? s.number = some s := by
  cases s <;> rfl

end Status

end TaskTitles
