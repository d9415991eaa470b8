import TaskTitles.Calendar.Timestamp
import TaskTitles.Conventions.Basic

/-!
# Almanacs

An almanac answers questions about dates on a given day: what a word means (`Almanac.Words`),
where the placeholder dates lie (`Almanac.Placeholder`), and what is archived.
-/

namespace TaskTitles

open Calendar

/-- The conventions on dates together with today's date. -/
structure Almanac where
  conventions : Conventions := {}
  today : Date

namespace Almanac

def noonToday (almanac : Almanac) : Timestamp := Timestamp.noon almanac.today

/-! ## Archiving -/

/-- The last time stamp that does not count as archived. -/
def archiveThreshold (almanac : Almanac) : Except CalendarError Timestamp :=
  (almanac.today.addDays almanac.conventions.dates.archiveThresholdDays).map Timestamp.noon

def isArchived (almanac : Almanac) (v : Timestamp) : Except CalendarError Bool :=
  (almanac.archiveThreshold).map fun threshold => decide (threshold < v)

/-- Whether the time stamp is archived and was not after today before it was archived. -/
def isRecentButArchived (almanac : Almanac) (v : Timestamp) : Except CalendarError Bool := do
  if ← almanac.isArchived v then
    return (← Timestamp.unarchive v) ≤ almanac.noonToday
  else return false

end Almanac

end TaskTitles
