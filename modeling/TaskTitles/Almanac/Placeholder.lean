import TaskTitles.Almanac.Basic

/-!
# Placeholder dates

A task without a due date of its own gets a placeholder: a day some months ahead that depends on its
context and status only.  The lowest placeholder, that of a next action without context, divides
actual dates from placeholders.
-/

namespace TaskTitles.Almanac

open Calendar

/-- How many months ahead the placeholders of a context lie. -/
def monthOffset (almanac : Almanac) (contextName : Option Text) : Int :=
  let conventions := almanac.conventions
  if contextName = some conventions.contexts.work then conventions.dates.workMonthOffset
  else if contextName = some conventions.contexts.notes then conventions.dates.notesMonthOffset
  else conventions.dates.defaultMonthOffset

def placeholder (almanac : Almanac) (contextName : Option Text) (status : Status) :
    Except CalendarError Timestamp := do
  let shifted ← almanac.today.addMonths (almanac.monthOffset contextName)
  let day := almanac.conventions.status.placeholderDay status
  return Timestamp.noon (← shifted.withDayOfMonth day)

/-- The placeholder of a next action without context. -/
def lowestPlaceholder (almanac : Almanac) : Except CalendarError Timestamp :=
  almanac.placeholder none .nextAction

/-- Whether the time stamp is an actual date: neither blank nor a placeholder. -/
def isActual (almanac : Almanac) (v : Timestamp) : Except CalendarError Bool :=
  if v ≤ Timestamp.blank then .ok false
  else (almanac.lowestPlaceholder).map fun lowest => decide (v < lowest)

end TaskTitles.Almanac
