import TaskTitles.Almanac.Basic
import TaskTitles.Calendar.Format

/-!
# Date words

The text of a date is a word for today or tomorrow, a day of the week, or a short date in one of the
conventional formats.  A day of the week means its next occurrence, today included, and a leading
`next` adds a week to it.
-/

namespace TaskTitles.Almanac

open Calendar Text

def todayWords : List Text := ["today", "tod"]

def tomorrowWords : List Text := ["tomorrow", "tom"]

/-- The word that adds a week to a day of the week. -/
def nextWord : Text := "next"

/-- The words for the days of the week, counted from Monday as 0. -/
def weekdayWords : List (Text × Int) :=
  [("monday", 0), ("mon", 0), ("tuesday", 1), ("tues", 1), ("tue", 1), ("wednesday", 2), ("wed", 2),
   ("thursday", 3), ("thurs", 3), ("thur", 3), ("friday", 4), ("fri", 4), ("saturday", 5),
   ("sat", 5), ("sunday", 6), ("sun", 6)]

def readShortDate? (formats : List Text) (t : Text) : Except CalendarError (Option Timestamp) :=
  match formats with
  | [] => .ok none
  | format :: rest => do
    match ← readDate? format t with
    | some d => return some (Timestamp.noon d)
    | none => readShortDate? rest t

/-- The time stamp of a date without a leading `next`, with a week added to a day of the week where
    `addWeek` says so. -/
def readWord? (almanac : Almanac) (addWeek : Bool) (t : Text) :
    Except CalendarError (Option Timestamp) :=
  let shifted (days : Int) : Except CalendarError (Option Timestamp) :=
    (almanac.today.addDays days).map fun d => some (Timestamp.noon d)
  if t ∈ todayWords then .ok (some almanac.noonToday)
  else if t ∈ tomorrowWords then shifted 1
  else match weekdayWords.lookup t with
    | some weekday =>
      shifted ((weekday - almanac.today.weekday) % 7 + if addWeek then 7 else 0)
    | none => readShortDate? almanac.conventions.dates.formats (strip t)

/-- The time stamp that a text names; nothing for blank and unknown texts. -/
def read? (almanac : Almanac) (t : Text) : Except CalendarError (Option Timestamp) :=
  if strip t = [] then .ok none
  else match dropLead? nextWord t with
    | some rest => almanac.readWord? true (strip rest)
    | none => almanac.readWord? false t

def isDateText (almanac : Almanac) (t : Text) : Except CalendarError Bool :=
  (almanac.read? t).map Option.isSome

end TaskTitles.Almanac
