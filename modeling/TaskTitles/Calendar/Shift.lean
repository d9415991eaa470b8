import TaskTitles.Calendar.Date

/-!
# Shifting dates by months and within a month

A shift by months or years keeps the day of the month, cut down to the length of the month it lands
in.  A day of the month beyond the end of the month rolls on into the following ones.
-/

namespace TaskTitles.Calendar.Date

/-- Half the number of integers of 32 bits: they lie from its negative to below it. -/
def machineLimit : Int := 2147483648

/-- A year that no machine integer of 32 bits can hold is refused before it is compared with the
    range of years. -/
def checkYear (year : Int) : Except CalendarError Unit :=
  if -machineLimit ≤ year ∧ year < machineLimit then
    if 1 ≤ year ∧ year ≤ maxYear then .ok () else .error (.yearOutOfRange year)
  else .error .overflow

/-- The same day of another month, or its last day if the month is shorter. -/
def clamped (year month day : Int) : Except CalendarError Date := do
  checkYear year
  make year month (min day (monthLength year month))

def addMonths (d : Date) (months : Int) : Except CalendarError Date :=
  let index := d.month - 1 + months
  clamped (d.year + index / 12) (index % 12 + 1) d.day

/-- The given day of the date's month, counted on into the next months if the month is shorter. -/
def withDayOfMonth (d : Date) (dayOfMonth : Int) : Except CalendarError Date :=
  d.addDays (dayOfMonth - d.day)

end TaskTitles.Calendar.Date
