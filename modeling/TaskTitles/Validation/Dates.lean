import TaskTitles.Validation.Moment
import TaskTitles.Validation.Numeral

/-!
# Checks of dates

A date may be written as such, as a date-time at midnight, or as the number of a moment at midnight.
-/

namespace TaskTitles.Validation

open Text Calendar

/-! ## Date-times -/

def twoDigitsBelow? (limit : Nat) (a b : Char) : Option Nat :=
  if a.isDigit && b.isDigit then
    let n := digitsValue [a, b]
    if n < limit then some n else none
  else none

/-- Whether the text is an offset from Greenwich, or nothing. -/
def isOffset : Text → Bool
  | [] => true
  | [z] => z == 'Z' || z == 'z'
  | [sign, h1, h2, m1, m2] => isSign sign && isHourMinute h1 h2 m1 m2
  | [sign, h1, h2, ':', m1, m2] => isSign sign && isHourMinute h1 h2 m1 m2
  | _ => false
where
  isSign (c : Char) : Bool := c == '+' || c == '-' || c == '\u2212'
  isHourMinute (h1 h2 m1 m2 : Char) : Bool :=
    (twoDigitsBelow? 24 h1 h2).isSome && (twoDigitsBelow? 60 m1 m2).isSome

def isDecimalMark (c : Char) : Bool := c == '.' || c == ','

/-- Whether a fraction of a second is zero, and what follows it.  Six digits count. -/
def readFraction? : Text → Option (Bool × Text)
  | [] => some (true, [])
  | c :: rest =>
    if isDecimalMark c then
      match rest.takeWhile Char.isDigit with
      | [] => none
      | places => some ((places.take 6).all (· = '0'), rest.dropWhile Char.isDigit)
    else some (true, c :: rest)

/-- Whether a time of day with an offset is midnight; nothing if the text is none. -/
def isMidnight? : Text → Option Bool
  | h1 :: h2 :: ':' :: m1 :: m2 :: rest => do
    let hour ← twoDigitsBelow? 24 h1 h2
    let minute ← twoDigitsBelow? 60 m1 m2
    let (second, isWhole, rest) ← match rest with
      | ':' :: s1 :: s2 :: rest => do
        let second ← twoDigitsBelow? 60 s1 s2
        let (isWhole, rest) ← readFraction? rest
        pure (second, isWhole, rest)
      | rest => some (0, true, rest)
    if isOffset rest then return hour == 0 && minute == 0 && second == 0 && isWhole else none
  | _ => none

def isDateTimeSeparator (c : Char) : Bool := c ∈ ['T', 't', ' ', '_']

def dateOfDateTime? (t : Text) : Option (Checked Date) :=
  match Day.ofIso? (t.take 10), t.drop 10 with
  | some day, separator :: time =>
    if isDateTimeSeparator separator then
      (isMidnight? time).map fun midnight =>
        if midnight then day.toDate else .fault .dateWithTime
    else none
  | _, _ => none

/-! ## Dates -/

/-- The date whose midnight an integer counts up to; a part of a second is ignored. -/
def dateOfCount? (t : Text) : Option (Checked Date) :=
  let (isNegative, digits) := splitSign t
  if digits = [] ∨ !digits.all Char.isDigit then none
  else
    let n : Int := digitsValue digits
    let moment := { Moment.ofInteger (if isNegative then -n else n) 0 with microseconds := 0 }
    match moment.toDate with
    | .valid d => some (.valid d)
    | .invalid faults => if moment.isMidnight then some (.invalid faults) else none

/-- The date of a number.  What is no number at all counts as 0. -/
def dateOfNumber (moment : Double → Moment) : Value → Checked Date
  | .real x => (moment x).toDate
  | .notFinite name =>
    if name = noNumberWord then (Moment.after 0 0).toDate else .fault .dateText
  | _ => .fault .dateText

def dateOfText (t : Text) : Checked Date :=
  let number? := (numberOfText? t <|> notFiniteOfText? t).map (dateOfNumber Moment.ofWritten)
  (((Day.ofIso? t).map Day.toDate) <|> dateOfCount? t <|> dateOfDateTime? t <|> number?).getD
    (.fault .dateText)

/-- A date.  Integers beyond double precision stand for none. -/
def date : Value → Checked Date
  | .date d => .valid d
  | .dateTime d time => if time = .midnight then .valid d else .fault .dateWithTime
  | .int n =>
    if (Double.ofSigned? n 1).isNone then .fault .notDate else (Moment.ofInteger n 0).toDate
  | .real x => (Moment.ofDouble x).toDate
  | .notFinite _ => .fault .dateText
  | .text t => dateOfText t
  | _ => .fault .notDate

end TaskTitles.Validation
