import TaskTitles.Calendar.Timestamp
import TaskTitles.Validation.Checked

/-!
# Moments

Where a date is due, a number may stand for it: it counts seconds since 1970, or milliseconds if it
is very large.  Such a moment is a date if it is a midnight.  Days reach one year further back than
dates: the year 0 has days, and a date in it is a fault of its own.
-/

namespace TaskTitles.Validation

open Calendar

/-! ## Days -/

/-- A day of the years 0 to 9999. -/
inductive Day where
  | inYearZero
  | date (d : Date)
  deriving DecidableEq

namespace Day

/-- The day that a text of the form `YYYY-MM-DD` writes.  The year 0 has the days of the year 2000,
    as both are leap years. -/
def ofIso? : Text → Option Day
  | '0' :: '0' :: '0' :: '0' :: rest => (Date.ofIso? ("2000" ++ rest)).map fun _ => inYearZero
  | t => (Date.ofIso? t).map date

def firstSecond : Int := -62167219200

def ofSeconds? (seconds : Int) : Option Day :=
  if seconds < firstSecond then none
  else
    match Timestamp.date seconds with
    | .ok d => some (date d)
    | .error _ => if seconds < 0 then some inYearZero else none

def toDate : Day → Checked Date
  | inYearZero => .fault .yearZero
  | date d => .valid d

end Day

/-! ## Moments -/

/-- A number of seconds since 1970, and microseconds after it. -/
structure Moment where
  seconds : Int
  microseconds : Nat
  deriving Repr, DecidableEq

namespace Moment

/-- A number beyond this one counts milliseconds. -/
def secondsLimit : Nat := 20000000000

def secondLength : Nat := 1000000

/-- The moment so many microseconds after a second, which may be more than a second. -/
def after (seconds : Int) (microseconds : Nat) : Moment :=
  ⟨seconds + (microseconds / secondLength : Nat), microseconds % secondLength⟩

def ofInteger (n : Int) (microseconds : Nat) : Moment :=
  if n.natAbs ≤ secondsLimit then after n microseconds
  else after (n / 1000) ((n % 1000).toNat * 1000 + microseconds)

def microsecondsOf (part : Option Double) : Nat :=
  ((part.bind (·.times secondLength)).map Double.roundUp).getD 0

/-- The moment of a number: the integer below it, and what is behind its point as a part of a
    second even if the integer counts milliseconds. -/
def ofDouble (x : Double) : Moment := ofInteger x.floor (microsecondsOf x.fraction)

def ofWritten (x : Double) : Moment :=
  let seconds := if x.exceeds secondsLimit then (x.dividedBy 1000).getD x else x
  after seconds.floor (microsecondsOf (seconds.minus seconds.floor))

def isMidnight (moment : Moment) : Bool :=
  Timestamp.secondOfDay moment.seconds = 0 && moment.microseconds = 0

def toDate (moment : Moment) : Checked Date :=
  match Day.ofSeconds? moment.seconds with
  | none => .fault .dateText
  | some day => if moment.isMidnight then day.toDate else .fault .dateWithTime

end Moment

end TaskTitles.Validation
