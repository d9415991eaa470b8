import TaskTitles.Calendar.Shift

/-!
# Time stamps

A time stamp counts the seconds since the start of 1970 in Greenwich.  A calendar date is stored as
its noon, and 0 stands for no date at all.  A date is archived by moving it one year on.
-/

namespace TaskTitles.Calendar

/-- Seconds since 1 January 1970, 0:00 GMT; 0 also means blank. -/
abbrev Timestamp := Int

namespace Timestamp

def blank : Timestamp := 0

/-- The ordinal of 1 January 1970. -/
def epochOrdinal : Int := 719162

def daySeconds : Int := 86400

def noonSeconds : Int := 43200

/-- The time stamp of a date: its noon in Greenwich. -/
def noon (d : Date) : Timestamp := (d.ordinal - epochOrdinal) * daySeconds + noonSeconds

/-- Half the number of integers of 64 bits: they lie from its negative to below it. -/
def secondLimit : Int := 9223372036854775808

def machineCount : Nat := 4294967296

/-- The date in Greenwich of a time stamp.  The platform counts seconds in 64 bits and the years
    since 1900 in 32 bits. -/
def date (v : Timestamp) : Except CalendarError Date :=
  let n := v / daySeconds + epochOrdinal
  let year := yearOfOrdinal n
  if v < -secondLimit ∨ secondLimit ≤ v then .error .overflow
  else if year - 1900 < -Date.machineLimit ∨ Date.machineLimit ≤ year - 1900 then
    .error .beyondPlatform
  else if year < 1 ∨ maxYear < year then .error (.yearOutOfRange (year.bmod machineCount))
  else Date.ofOrdinal n

def secondOfDay (v : Timestamp) : Int := v % daySeconds

def isoDate? (v : Timestamp) : Except CalendarError (Option Text) :=
  if v = blank then .ok none else (date v).map fun d => some d.isoText

/-- The last time stamp that can be archived: noon of 31 December 9998. -/
def last : Timestamp := 253370721600

def isRepresentable (v : Timestamp) : Bool := blank ≤ v && v ≤ last

/-- The same time of day that many years later; 29 February becomes the 28th where it has to. -/
def shiftYears (v : Timestamp) (years : Int) : Except CalendarError Timestamp := do
  let d ← date v
  let shifted ← Date.clamped (d.year + years) d.month d.day
  return (shifted.ordinal - epochOrdinal) * daySeconds + secondOfDay v

def archive (v : Timestamp) : Except CalendarError Timestamp := shiftYears v 1

def unarchive (v : Timestamp) : Except CalendarError Timestamp := shiftYears v (-1)

end Timestamp

end TaskTitles.Calendar
