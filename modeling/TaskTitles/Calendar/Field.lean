import TaskTitles.Text.Case
import TaskTitles.Text.Digit

/-!
# Fields of dates

What a directive of a date format can stand for, and the ways in which each of it can be written:
numerals of fixed ranges, names without regard to case, and offsets from Greenwich.
-/

namespace TaskTitles.Calendar

/-! ## Fields -/

/-- The parts of a moment that a directive can stand for. -/
inductive Field where
  | day
  | month
  | shortYear
  | year
  | shortMonthName
  | monthName
  | shortDayName
  | dayName
  /-- The number of a weekday, from Sunday as 0. -/
  | weekday
  /-- The number of a weekday, from Monday as 1. -/
  | isoWeekday
  | dayOfYear
  /-- The week of the year, where weeks begin on Sunday. -/
  | sundayWeek
  /-- The week of the year, where weeks begin on Monday. -/
  | mondayWeek
  | isoWeek
  /-- The year that an ISO week belongs to. -/
  | isoYear
  | hour
  | halfDayHour
  | halfDay
  | minute
  | second
  | fraction
  /-- The offset from Greenwich. -/
  | offset
  | zone
  deriving Repr, DecidableEq

def Field.ofLetter? : Char → Option Field
  | 'd' => some .day
  | 'm' => some .month
  | 'y' => some .shortYear
  | 'Y' => some .year
  | 'b' => some .shortMonthName
  | 'B' => some .monthName
  | 'a' => some .shortDayName
  | 'A' => some .dayName
  | 'w' => some .weekday
  | 'u' => some .isoWeekday
  | 'j' => some .dayOfYear
  | 'U' => some .sundayWeek
  | 'W' => some .mondayWeek
  | 'V' => some .isoWeek
  | 'G' => some .isoYear
  | 'H' => some .hour
  | 'I' => some .halfDayHour
  | 'p' => some .halfDay
  | 'M' => some .minute
  | 'S' => some .second
  | 'f' => some .fraction
  | 'z' => some .offset
  | 'Z' => some .zone
  | _ => none

def monthNames : List Text :=
  ["january", "february", "march", "april", "may", "june", "july", "august", "september",
   "october", "november", "december"]

def dayNames : List Text :=
  ["monday", "tuesday", "wednesday", "thursday", "friday", "saturday", "sunday"]

def shortNames (names : List Text) : List Text := names.map (·.take 3)

def halfDayNames : List Text := ["am", "pm"]

/-- The names of the zone of Greenwich, which is also the local one. -/
def zoneNames : List Text := ["utc", "gmt"]

/-! ## Characters -/

/-- What one character of a field may be. -/
inductive Slot where
  | between (first last : Char)
  /-- A decimal digit of any script. -/
  | digit
  /-- A letter, in either case. -/
  | letter (c : Char)

/-- Code points of lower-case letters that are taken for each other. -/
def looseLetters : List (List Nat) :=
  [[0x69, 0x131], [0x73, 0x17F], [0xB5, 0x3BC], [0x345, 0x3B9, 0x1FBE], [0x390, 0x1FD3],
   [0x3B0, 0x1FE3], [0x3B2, 0x3D0], [0x3B5, 0x3F5], [0x3B8, 0x3D1], [0x3BA, 0x3F0], [0x3C0, 0x3D6],
   [0x3C1, 0x3F1], [0x3C2, 0x3C3], [0x3C6, 0x3D5], [0x432, 0x1C80], [0x434, 0x1C81],
   [0x43E, 0x1C82], [0x441, 0x1C83], [0x442, 0x1C84, 0x1C85], [0x44A, 0x1C86], [0x463, 0x1C87],
   [0x1C88, 0xA64B], [0x1E61, 0x1E9B], [0xFB05, 0xFB06]]

def foldChar (c : Char) : Char := ((Text.lowerChar c).head?).getD c

def sameLetter (a b : Char) : Bool :=
  let a := foldChar a
  let b := foldChar b
  a == b || looseLetters.any fun group => group.contains a.toNat && group.contains b.toNat

def Slot.admits : Slot → Char → Bool
  | .between first last, c => first ≤ c && c ≤ last
  | .digit, c => Text.isDecimalDigit c
  | .letter l, c => sameLetter l c

def literalSlots (t : Text) : List Slot := t.map .letter

/-! ## Ways of writing a field -/

/-- Up to six slots of one kind, as many as possible first. -/
def runShapes (slot : Slot) : List (List Slot) :=
  (List.range 6).reverse.map fun n => List.replicate (n + 1) slot

/-- An offset from Greenwich has a sign, hours and minutes, then perhaps seconds, and then perhaps a
    fraction of a second.  Where minutes or seconds begin there may be a colon. -/
def offsetShapes : List (List Slot) :=
  let colons : List (List Slot) := [[.letter ':'], []]
  let sixty : List Slot := [.between '0' '5', .digit]
  let fractions := (runShapes .digit).map (Slot.letter '.' :: ·) ++ [[]]
  let seconds := colons.flatMap fun colon => fractions.map fun fraction => colon ++ sixty ++ fraction
  ['+', '-'].flatMap fun sign => colons.flatMap fun colon => (seconds ++ [[]]).map fun rest =>
    [Slot.letter sign, .digit, .digit] ++ colon ++ sixty ++ rest

/-- The ways in which a field can be written, in the order in which they are tried. -/
def Field.shapes : Field → List (List Slot)
  | .day =>
    [[.letter '3', .between '0' '1'], [.between '1' '2', .digit], [.letter '0', .between '1' '9'],
     [.between '1' '9'], [.letter ' ', .between '1' '9']]
  | .month | .halfDayHour =>
    [[.letter '1', .between '0' '2'], [.letter '0', .between '1' '9'], [.between '1' '9']]
  | .shortYear => [[.digit, .digit]]
  | .year | .isoYear => [[.digit, .digit, .digit, .digit]]
  | .shortMonthName => (shortNames monthNames).map literalSlots
  | .monthName => monthNames.map literalSlots
  | .shortDayName => (shortNames dayNames).map literalSlots
  | .dayName => dayNames.map literalSlots
  | .weekday => [[.between '0' '6']]
  | .isoWeekday => [[.between '1' '7']]
  | .dayOfYear =>
    [[.letter '3', .letter '6', .between '0' '6'], [.letter '3', .between '0' '5', .digit],
     [.between '1' '2', .digit, .digit], [.letter '0', .between '1' '9', .digit],
     [.letter '0', .letter '0', .between '1' '9'], [.between '1' '9', .digit],
     [.letter '0', .between '1' '9'], [.between '1' '9']]
  | .sundayWeek | .mondayWeek =>
    [[.letter '5', .between '0' '3'], [.between '0' '4', .digit], [.digit]]
  | .isoWeek =>
    [[.letter '5', .between '0' '3'], [.letter '0', .between '1' '9'], [.between '1' '4', .digit],
     [.digit]]
  | .hour => [[.letter '2', .between '0' '3'], [.between '0' '1', .digit], [.digit]]
  | .halfDay => halfDayNames.map literalSlots
  | .minute => [[.between '0' '5', .digit], [.digit]]
  | .second => [[.letter '6', .between '0' '1'], [.between '0' '5', .digit], [.digit]]
  | .fraction => runShapes (.between '0' '9')
  | .offset => offsetShapes ++ [[.between 'Z' 'Z']]
  | .zone => zoneNames.map literalSlots

end TaskTitles.Calendar
