import TaskTitles.Text.Digit

/-!
# Calendar dates

Dates of the Gregorian calendar in the years 1 to 9999, and their ordinals: the number of days since
1 January of the year 1.  `Date.ordinal` and `Date.ofOrdinal` lead back and forth between the two.
Years, months and days are integers, so that shifting them never truncates.
-/

namespace TaskTitles.Calendar

/-- Why a computation with dates has no result. -/
inductive CalendarError where
  | yearOutOfRange (year : Int)
  | noSuchDay
  /-- Adding days or years leaves the range of dates altogether. -/
  | overflow
  /-- The year of the moment cannot be counted by the calendar of the platform. -/
  | beyondPlatform
  /-- A date format names one part of the date twice. -/
  | repeatedField
  deriving Repr, DecidableEq

def CalendarError.message? : CalendarError → Option Text
  | .yearOutOfRange year => some ("year " ++ Text.ofInt year ++ " is out of range")
  | .noSuchDay => some "day is out of range for month"
  | _ => none

/-! ## Years and months -/

def maxYear : Int := 9999

def isLeap (year : Int) : Bool := year % 4 == 0 && (year % 100 != 0 || year % 400 == 0)

def monthLength (year month : Int) : Int :=
  if month = 2 then if isLeap year then 29 else 28
  else if month = 4 ∨ month = 6 ∨ month = 9 ∨ month = 11 then 30
  else 31

/-- The number of days before 1 January of the year. -/
def daysBeforeYear (year : Int) : Int :=
  365 * (year - 1) + (year - 1) / 4 - (year - 1) / 100 + (year - 1) / 400

/-- The number of days of a year before the first day of the month. -/
def daysBeforeMonth (year month : Int) : Int :=
  (367 * month - 362) / 12 + if month ≤ 2 then 0 else if isLeap year then -1 else -2

/-- The year in which the day of that ordinal lies.  The average length of a year gives a first
    guess, which is at most one year off. -/
def yearOfOrdinal (n : Int) : Int :=
  let guess := 400 * n / 146097 + 1
  if n < daysBeforeYear guess then guess - 1
  else if daysBeforeYear (guess + 1) ≤ n then guess + 1
  else guess

/-! ## Dates -/

def IsDate (year month day : Int) : Prop :=
  1 ≤ year ∧ year ≤ maxYear ∧ 1 ≤ month ∧ month ≤ 12 ∧ 1 ≤ day ∧ day ≤ monthLength year month

instance (year month day : Int) : Decidable (IsDate year month day) := by
  unfold IsDate; infer_instance

structure Date where
  year : Int
  month : Int
  day : Int
  isDate : IsDate year month day
  deriving DecidableEq

namespace Date

def make (year month day : Int) : Except CalendarError Date :=
  if h : IsDate year month day then .ok ⟨year, month, day, h⟩
  else if 1 ≤ year ∧ year ≤ maxYear then .error .noSuchDay
  else .error (.yearOutOfRange year)

/-- The number of days from 1 January of the year 1 to the date. -/
def ordinal (d : Date) : Int :=
  daysBeforeYear d.year + daysBeforeMonth d.year d.month + d.day - 1

def ofOrdinal (n : Int) : Except CalendarError Date :=
  let year := yearOfOrdinal n
  let dayOfYear := n - daysBeforeYear year
  let skipped := if dayOfYear < daysBeforeMonth year 3 then 0 else if isLeap year then 1 else 2
  let month := (12 * (dayOfYear + skipped) + 373) / 367
  make year month (dayOfYear - daysBeforeMonth year month + 1)

/-- The day of the week, counted from Monday as 0. -/
def weekday (d : Date) : Int := d.ordinal % 7

instance : LE Date := ⟨fun a b => a.ordinal ≤ b.ordinal⟩

instance : LT Date := ⟨fun a b => a.ordinal < b.ordinal⟩

instance (a b : Date) : Decidable (a ≤ b) := inferInstanceAs (Decidable (a.ordinal ≤ b.ordinal))

instance (a b : Date) : Decidable (a < b) := inferInstanceAs (Decidable (a.ordinal < b.ordinal))

def addDays (d : Date) (days : Int) : Except CalendarError Date :=
  match ofOrdinal (d.ordinal + days) with
  | .ok shifted => .ok shifted
  | .error _ => .error .overflow

/-- The date in the form `YYYY-MM-DD`. -/
def isoText (d : Date) : Text :=
  Text.ofNatPadded 4 d.year.toNat ++ "-" ++ Text.ofNatPadded 2 d.month.toNat ++ "-"
    ++ Text.ofNatPadded 2 d.day.toNat

/-- The number that four, or two, digits of ASCII write. -/
def isoNumber? (digits : Text) : Option Int :=
  if digits.all Char.isDigit then some (Text.digitsValue digits) else none

def ofIso? : Text → Option Date
  | [y1, y2, y3, y4, '-', m1, m2, '-', d1, d2] => do
    let year ← isoNumber? [y1, y2, y3, y4]
    let month ← isoNumber? [m1, m2]
    let day ← isoNumber? [d1, d2]
    (make year month day).toOption
  | _ => none

end Date

end TaskTitles.Calendar
