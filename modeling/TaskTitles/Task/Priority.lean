import TaskTitles.Text.Case

/-!
# Priorities

The five priorities of a task, lowest first, each with the number that the task service uses for it
and the word that names it in a title.
-/

namespace TaskTitles

inductive Priority where
  | negative
  | low
  | medium
  | high
  | top
  deriving Repr, DecidableEq

namespace Priority

/-- All priorities, lowest first. -/
def all : List Priority := [negative, low, medium, high, top]

def number : Priority → Int
  | negative => -1
  | low => 0
  | medium => 1
  | high => 2
  | top => 3

def ofNumber? (n : Int) : Option Priority := all.find? (·.number == n)

def word : Priority → Text
  | negative => "negative"
  | low => "low"
  | medium => "medium"
  | high => "high"
  | top => "top"

/-- The priority that a word names, case aside. -/
def ofWord? (w : Text) : Option Priority := all.find? (·.word == Text.lower w)

@[simp] theorem ofNumber?_number (p : Priority) : ofNumber? p.number = some p := by
  cases p <;> rfl

end Priority

end TaskTitles
