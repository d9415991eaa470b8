import TaskTitles.Toml.Lexical

/-!
# Numbers, dates and times in TOML

A number may have underscores between its digits, and an integer may be hexadecimal, octal or
binary.  Of a date-time the offset from Greenwich is read and dropped.
-/

namespace TaskTitles.Toml

open Text Calendar

/-! ## Numbers -/

/-- The digits at the start of a text, where single underscores may stand between digits, and the
    rest. -/
def takeDigits (isDigit : Char → Bool) : Text → Text × Text
  | [] => ([], [])
  | c :: rest =>
    if isDigit c then
      match rest with
      | '_' :: d :: more =>
        if isDigit d then
          let (digits, rest) := takeDigits isDigit (d :: more)
          (c :: digits, rest)
        else ([c], rest)
      | rest =>
        let (digits, rest) := takeDigits isDigit rest
        (c :: digits, rest)
    else ([], c :: rest)

def valueIn (base : Nat) (digits : Text) : Nat :=
  digits.foldl (fun n c => n * base + (Json.hexValue? c).getD 0) 0

def isDigitOf (base : Nat) (c : Char) : Bool := (Json.hexValue? c).any (· < base)

def readBased? : Text → Option (Value × Text)
  | '0' :: mark :: rest => do
    let base ← match mark with
      | 'x' => some 16
      | 'o' => some 8
      | 'b' => some 2
      | _ => none
    match takeDigits (isDigitOf base) rest with
    | ([], _) => none
    | (digits, rest) => return (.int (valueIn base digits), rest)
  | _ => none

/-- Reads the integer part of a decimal number: a zero, or digits that start with another one. -/
def readWhole? : Text → Option (Text × Text)
  | '0' :: rest => some (['0'], rest)
  | t =>
    match takeDigits Char.isDigit t with
    | ([], _) => none
    | found => some found

def readSign : Text → Bool × Text
  | '-' :: rest => (true, rest)
  | '+' :: rest => (false, rest)
  | t => (false, t)

def withSign (isNegative : Bool) (n : Nat) : Int := if isNegative then -n else n

def readFraction : Text → Option Text × Text
  | '.' :: rest =>
    match takeDigits Char.isDigit rest with
    | ([], _) => (none, '.' :: rest)
    | (digits, rest) => (some digits, rest)
  | t => (none, t)

def readExponent : Text → Option Int × Text
  | c :: rest =>
    if c = 'e' ∨ c = 'E' then
      let (isNegative, digits) := readSign rest
      match takeDigits Char.isDigit digits with
      | ([], _) => (none, c :: rest)
      | (digits, rest) => (some (withSign isNegative (digitsValue digits)), rest)
    else (none, c :: rest)
  | [] => (none, [])

/-- Reads a decimal number.  The option says whether there is one at all. -/
def readDecimal? (t : Text) : Option (Except Flaw (Value × Text)) := do
  let (isNegative, rest) := readSign t
  let (whole, rest) ← readWhole? rest
  let (fraction, rest) := readFraction rest
  let (exponent, rest) := readExponent rest
  match fraction, exponent with
  | none, none =>
    if Flaw.maxDigits < whole.length then return .error (.tooManyDigits whole.length)
    else return .ok (.int (withSign isNegative (digitsValue whole)), rest)
  | _, _ =>
    let places := fraction.getD []
    return .ok (.ofScientific isNegative (digitsValue (whole ++ places))
      (exponent.getD 0 - places.length), rest)

def notFiniteWords : List (Text × Text) :=
  [("inf", "inf"), ("nan", "nan"), ("+inf", "inf"), ("-inf", "-inf"), ("+nan", "nan"),
   ("-nan", "nan")]

def readNotFinite? (t : Text) : Option (Value × Text) :=
  notFiniteWords.findSome? fun (word, name) =>
    (dropLead? word t).map fun rest => (.notFinite name, rest)

/-! ## Dates and times -/

def twoDigits? (a b : Char) : Option Nat :=
  if a.isDigit && b.isDigit then some (digitsValue [a, b]) else none

/-- The microseconds of a fraction of a second, of which six digits count. -/
def microseconds (fraction : Text) : Nat :=
  digitsValue ((fraction ++ List.replicate 6 '0').take 6)

def readTime? : Text → Option (TimeOfDay × Text)
  | h1 :: h2 :: ':' :: m1 :: m2 :: ':' :: s1 :: s2 :: rest => do
    let hour ← twoDigits? h1 h2
    let minute ← twoDigits? m1 m2
    let second ← twoDigits? s1 s2
    if 24 ≤ hour ∨ 60 ≤ minute ∨ 60 ≤ second then none
    else
      match rest with
      | '.' :: more =>
        match more.takeWhile Char.isDigit with
        | [] => return (⟨hour, minute, second, 0⟩, rest)
        | fraction =>
          return (⟨hour, minute, second, microseconds fraction⟩, more.dropWhile Char.isDigit)
      | rest => return (⟨hour, minute, second, 0⟩, rest)
  | _ => none

/-- The text after an offset from Greenwich, if it starts with one. -/
def skipOffset : Text → Text
  | 'Z' :: rest => rest
  | 'z' :: rest => rest
  | sign :: h1 :: h2 :: ':' :: m1 :: m2 :: rest =>
    let isOffset : Bool := (sign == '+' || sign == '-')
      && (twoDigits? h1 h2).any (· < 24)
      && (twoDigits? m1 m2).any (· < 60)
    if isOffset then rest else sign :: h1 :: h2 :: ':' :: m1 :: m2 :: rest
  | t => t

/-- Whether the numbers can stand in a date at all, whatever the month. -/
def looksLikeDate (month day : Nat) : Bool := 1 ≤ month && month ≤ 12 && 1 ≤ day && day ≤ 31

/-- Reads a date or a date-time.  The outer option says whether the text looks like a date, the
    inner one whether the date exists. -/
def readDate? : Text → Option (Option (Value × Text))
  | y1 :: y2 :: y3 :: y4 :: '-' :: m1 :: m2 :: '-' :: d1 :: d2 :: rest => do
    let century ← twoDigits? y1 y2
    let year ← twoDigits? y3 y4
    let month ← twoDigits? m1 m2
    let day ← twoDigits? d1 d2
    if !looksLikeDate month day then none
    else
      let date? := (Date.make (century * 100 + year) month day).toOption
      return date?.map fun d =>
        let time? := match rest with
          | c :: more => if c ∈ ['T', 't', ' '] then readTime? more else none
          | [] => none
        match time? with
        | some (time, rest) => (.dateTime d time, skipOffset rest)
        | none => (.date d, rest)
  | _ => none

def readPlain? (t : Text) : Option (Value × Text) :=
  ((dropLead? "true" t).map fun rest => (Value.bool true, rest))
    <|> ((dropLead? "false" t).map fun rest => (Value.bool false, rest))
    <|> ((readTime? t).map fun (time, rest) => (.time time, rest))
    <|> readBased? t

def readScalar (t : Text) : Except Flaw (Value × Text) :=
  match readDate? t, readPlain? t, readDecimal? t with
  | some date, _, _ => Flaw.require date
  | none, some plain, _ => .ok plain
  | none, none, some decimal => decimal
  | none, none, none => Flaw.require (readNotFinite? t)

end TaskTitles.Toml
