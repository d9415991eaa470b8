import TaskTitles.Calendar.Date
import TaskTitles.Calendar.Field
import TaskTitles.Text.Blank

/-!
# Date formats

A date format is a text with directives: `%d` stands for a day of the month, `%m` for a month,
`%Y` for a year of four digits, and so on.  A run of white space matches any run of white space,
other characters match themselves without regard to case.  A text is read by the first way of
matching the format that succeeds, alternatives being tried in the order in which a field lists
them; that way must use up the whole text.  Parts that the format leaves out are those of 1
January 1900.  A day can also be named by its number in the year, or by its weekday in a week of
the year or in an ISO week.  Of the time of day only that it exists is looked at.
-/

namespace TaskTitles.Calendar

/-! ## Formats -/

inductive Piece where
  | literal (c : Char)
  | blanks
  | field (f : Field)

/-- Hours, minutes and seconds. -/
def clockPieces : List Piece :=
  [.field .hour, .literal ':', .field .minute, .literal ':', .field .second]

/-- What the letter of a directive stands for.  A few stand for a date or a time as a whole. -/
def Piece.ofLetter? : Char → Option (List Piece)
  | '%' => some [.literal '%']
  | 'x' => some [.field .month, .literal '/', .field .day, .literal '/', .field .shortYear]
  | 'X' => some clockPieces
  | 'c' =>
    some ([.field .shortDayName, .blanks, .field .shortMonthName, .blanks, .field .day, .blanks]
      ++ clockPieces ++ [.blanks, .field .year])
  | c => (Field.ofLetter? c).map fun f => [.field f]

/-- The pieces of a format; nothing if a directive is unknown or a percent sign stands alone at the
    end. -/
def Piece.ofFormat? : Text → Option (List Piece)
  | [] => some []
  | '%' :: c :: cs => do
    let pieces ← ofLetter? c
    return pieces ++ (← ofFormat? cs)
  | c :: cs =>
    if c = '%' then none
    else if Text.isBlank c then
      if (cs.head?.map Text.isBlank).getD false then ofFormat? cs
      else (ofFormat? cs).map (.blanks :: ·)
    else (ofFormat? cs).map (.literal c :: ·)

def Piece.fields (pieces : List Piece) : List Field :=
  pieces.filterMap fun
    | .field f => some f
    | _ => none

def Slot.take? : List Slot → Text → Option (Text × Text)
  | [], t => some ([], t)
  | _ :: _, [] => none
  | s :: ss, c :: cs =>
    if s.admits c then (take? ss cs).map fun (taken, rest) => (c :: taken, rest) else none

/-- The starts of the text that match a piece, with the rest, the preferred one first. -/
def Piece.candidates (t : Text) : Piece → List (Text × Text)
  | .literal c => (Slot.take? [.letter c] t).toList
  | .blanks =>
    let run := t.takeWhile Text.isBlank
    (List.range run.length).reverse.map fun n => (t.take (n + 1), t.drop (n + 1))
  | .field f => f.shapes.filterMap (Slot.take? · t)

/-- What the fields of a format matched, in the order of the format. -/
abbrev Reading := List (Field × Text)

/-- The first way of matching the pieces at the start of the text, with the rest. -/
def Piece.match? : List Piece → Text → Option (Reading × Text)
  | [], t => some ([], t)
  | piece :: pieces, t =>
    (piece.candidates t).findSome? fun (taken, rest) =>
      (match? pieces rest).map fun (reading, final) =>
        match piece with
        | .field f => ((f, taken) :: reading, final)
        | _ => (reading, final)

/-! ## From fields to dates -/

/-- What the fields of a text say about its date. -/
structure Parts where
  year : Option Int := none
  month : Int := 1
  day : Int := 1
  dayOfYear : Option Int := none
  /-- The weekday, from Monday as 0. -/
  weekday : Option Int := none
  /-- The week of the year, behind the number of days by which its first day is before Monday. -/
  week : Option (Int × Int) := none
  isoYear : Option Int := none
  isoWeek : Option Int := none

/-- The year that two digits stand for: 1969 to 2068. -/
def fullYear (shortYear : Int) : Int :=
  if shortYear ≤ 68 then 2000 + shortYear else 1900 + shortYear

/-- An offset from Greenwich is shorter than a day, and has a colon in front of the seconds just if
    it has one in front of the minutes. -/
def isOffset : Text → Bool
  | _ :: tens :: units :: rest =>
    Text.digitsValue [tens, units] < 24 &&
      match rest with
      | ':' :: _ :: _ :: seconds => seconds.isEmpty || seconds.head? == some ':'
      | _ => (rest.drop 2).head? != some ':'
  | _ => true

/-- A minute has sixty seconds. -/
def isSecond (t : Text) : Bool := Text.digitsValue t < 60

/-- Where a name stands in a list, case aside. -/
def indexOfName? (names : List Text) (t : Text) : Option Int :=
  (names.findIdx? (· = Text.lower t)).map Int.ofNat

/-- Takes note of what a field has matched, unless nothing goes by that name or number. -/
def Parts.add (parts : Parts) : Field × Text → Option Parts
  | (.day, t) => some { parts with day := Text.digitsValue t }
  | (.month, t) => some { parts with month := Text.digitsValue t }
  | (.shortYear, t) => some { parts with year := some (fullYear (Text.digitsValue t)) }
  | (.year, t) => some { parts with year := some (Text.digitsValue t : Int) }
  | (.shortMonthName, t) => (indexOfName? (shortNames monthNames) t).map inMonth
  | (.monthName, t) => (indexOfName? monthNames t).map inMonth
  | (.shortDayName, t) => (indexOfName? (shortNames dayNames) t).map onWeekday
  | (.dayName, t) => (indexOfName? dayNames t).map onWeekday
  | (.weekday, t) => some (onWeekday ((Text.digitsValue t + 6) % 7))
  | (.isoWeekday, t) => some (onWeekday (Text.digitsValue t - 1))
  | (.dayOfYear, t) => some { parts with dayOfYear := some (Text.digitsValue t : Int) }
  | (.sundayWeek, t) => some { parts with week := some (1, Text.digitsValue t) }
  | (.mondayWeek, t) => some { parts with week := some (0, Text.digitsValue t) }
  | (.isoWeek, t) => some { parts with isoWeek := some (Text.digitsValue t : Int) }
  | (.isoYear, t) => some { parts with isoYear := some (Text.digitsValue t : Int) }
  | (.second, t) => if isSecond t then some parts else none
  | (.offset, t) => if isOffset t then some parts else none
  | (.hour, _) | (.halfDayHour, _) | (.halfDay, _) | (.minute, _) | (.fraction, _) | (.zone, _) =>
    some parts
where
  inMonth (index : Int) : Parts := { parts with month := index + 1 }
  onWeekday (index : Int) : Parts := { parts with weekday := some index }

def defaultYear : Int := 1900

/-- The year that stands in for the default one where the parts name 29 February. -/
def leapStandIn : Int := 1904

/-- The day of that number in the year, or in another one if there is no such day. -/
def dayOfYear? (year n : Int) : Option Date :=
  (Date.make year 1 1).toOption.bind fun first => (first.addDays (n - 1)).toOption

/-- A weekday in a week of the year, where weeks begin `lead` days before Monday.  The first whole
    week of the year has the number 1, and the days before it lie in week 0. -/
def dayOfWeek? (year lead week weekday : Int) : Option Date := do
  let newYear ← (Date.make year 1 1).toOption
  let skipped := (newYear.weekday + lead) % 7
  let day := (weekday + lead) % 7
  dayOfYear? year
    (if week = 0 then 1 + day - skipped else 1 + (7 - skipped) % 7 + 7 * (week - 1) + day)

/-- A weekday in an ISO week.  Week 1 is the week from Monday on in which 4 January lies. -/
def dayOfIsoWeek? (year week weekday : Int) : Option Date := do
  let newYear ← (Date.make year 1 1).toOption
  dayOfYear? year (7 * week + weekday - 3 - (newYear.weekday + 3) % 7)

namespace Parts

/-- An ISO week and its year come together, with a weekday and without a day of the year. -/
def isCoherent (parts : Parts) : Bool :=
  match parts.isoYear, parts.isoWeek with
  | none, none => true
  | some _, some _ => parts.weekday.isSome && parts.dayOfYear.isNone
  | _, _ => false

def isLeapDay (parts : Parts) : Bool := parts.month == 2 && parts.day == 29

/-- The date that the parts name in a year.  A day of the year outweighs a weekday in a week, and
    that outweighs month and day. -/
def dateIn? (parts : Parts) (year : Int) : Option Date :=
  match parts.dayOfYear, parts.weekday, parts.week, parts.isoYear, parts.isoWeek with
  | some n, _, _, _, _ => dayOfYear? year n
  | none, some weekday, some (lead, week), _, _ => dayOfWeek? year lead week weekday
  | none, some weekday, none, some isoYear, some isoWeek => dayOfIsoWeek? isoYear isoWeek weekday
  | _, _, _, _, _ => (Date.make year parts.month parts.day).toOption

/-- The date that the parts name.  29 February without a year is looked up in a leap year, and what
    is found there is the date in the default year. -/
def date? (parts : Parts) : Option Date :=
  if parts.isCoherent then
    match parts.year with
    | some year => parts.dateIn? year
    | none =>
      if parts.isLeapDay then
        (parts.dateIn? leapStandIn).bind fun d => (Date.make defaultYear d.month d.day).toOption
      else parts.dateIn? defaultYear
  else none

end Parts

def readDate? (format t : Text) : Except CalendarError (Option Date) :=
  match Piece.ofFormat? format with
  | none => .ok none
  | some pieces =>
    if (Piece.fields pieces).eraseDups.length = (Piece.fields pieces).length then
      .ok <| match Piece.match? pieces t with
        | some (reading, []) => (reading.foldlM Parts.add {}).bind Parts.date?
        | _ => none
    else .error .repeatedField

end TaskTitles.Calendar
