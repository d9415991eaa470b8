import TaskTitles.Text.Blank
import TaskTitles.Value.Basic
import TaskTitles.Value.Flaw

/-!
# Numerals in texts

Where a number is due, a text may write it.  The plain numeral of an integer has no more than a
hyphen and digits, the first of them not zero; any other way to write an integer is first brought
into that form.  A number with a fraction or an exponent is read in double precision.
-/

namespace TaskTitles.Validation

open Text

/-! ## Plain integers -/

def splitHyphen : Text → Text × Text
  | '-' :: rest => (['-'], rest)
  | t => ([], t)

/-- Whether the text starts with a numeral that is too long to be read. -/
def startsTooLong (t : Text) : Bool :=
  let (hyphen, unsigned) := splitHyphen t
  unsigned.head? ≠ some '0'
    && Flaw.maxDigits < (hyphen ++ unsigned.takeWhile Char.isDigit).length

def plainInteger? (t : Text) : Option Int :=
  match splitHyphen t with
  | (_, []) => none
  | (hyphen, first :: rest) =>
    if (first :: rest).all Char.isDigit ∧ (first ≠ '0' ∨ rest = []) then
      let n : Int := digitsValue (first :: rest)
      some (if hyphen = [] then n else -n)
    else none

/-! ## Other integers -/

/-- Whether the character may surround a numeral.  The information separators may not. -/
def isNumeralSpace (c : Char) : Bool := isBlank c && !('\x1c' ≤ c && c ≤ '\x1f')

def trimSpace (t : Text) : Text :=
  ((t.dropWhile isNumeralSpace).reverse.dropWhile isNumeralSpace).reverse

/-- The text without a plus at the start, after which no hyphen may stand. -/
def dropPlus? : Text → Option Text
  | '+' :: '-' :: _ => none
  | '+' :: rest => some rest
  | t => some t

/-- The text after the zeros and underscores that follow a zero.  The last character stays where
    nothing or a point follows. -/
def afterZeros? (last : Char) : Text → Option Text
  | [] => some [last]
  | c :: rest =>
    if c = '0' ∨ c = '_' then afterZeros? c rest
    else if c = '.' then some (last :: c :: rest)
    else if c.isDigit ∨ c = '-' then some (c :: rest)
    else none

def dropZeros? : Text → Option Text
  | '0' :: rest => afterZeros? '0' rest
  | c :: rest => if c.isDigit then some (c :: rest) else none
  | [] => none

def dropFraction? (t : Text) : Option Text :=
  match t.dropWhile (· ≠ '.') with
  | [] => some t
  | [_] => none
  | _ :: places => if places.all (· = '0') then some (t.takeWhile (· ≠ '.')) else none

/-- The text without its underscores, each of which must stand alone and inside. -/
def dropUnderscores? (t : Text) : Option Text :=
  if [] ∈ splitOn "_" t then none else some (t.filter (· ≠ '_'))

/-- The plain numeral of an integer that is written in another way. -/
def plainNumeral? (t : Text) : Option Text := do
  let (hyphen, unsigned) := splitHyphen (← dropPlus? (trimSpace t))
  dropUnderscores? (← dropFraction? (hyphen ++ (← dropZeros? unsigned)))

/-- The integer that a text writes in any way but with too many digits. -/
def integerOfText? (t : Text) : Option Int :=
  plainInteger? t <|>
    ((plainNumeral? t).filter fun plain => !startsTooLong plain).bind plainInteger?

/-! ## Numbers of double precision -/

def splitSign : Text → Bool × Text
  | '-' :: rest => (true, rest)
  | '+' :: rest => (false, rest)
  | t => (false, t)

/-- The exponent that the end of a numeral writes; without one it is zero. -/
def exponent? : Text → Option Int
  | [] => some 0
  | mark :: rest =>
    let (isNegative, digits) := splitSign rest
    if (mark = 'e' ∨ mark = 'E') ∧ digits ≠ [] ∧ digits.all Char.isDigit then
      some (if isNegative then -digitsValue digits else digitsValue digits)
    else none

def splitPlaces : Text → Text × Text
  | '.' :: rest => (rest.takeWhile Char.isDigit, rest.dropWhile Char.isDigit)
  | t => ([], t)

/-- The number that a numeral with digits, a point and an exponent writes.  The point needs digits
    on one side only. -/
def numberOfText? (t : Text) : Option Value := do
  let (isNegative, unsigned) := splitSign t
  let whole := unsigned.takeWhile Char.isDigit
  let (places, rest) := splitPlaces (unsigned.dropWhile Char.isDigit)
  if whole ++ places = [] then none
  else
    let exponent ← exponent? rest
    return .ofScientific isNegative (digitsValue (whole ++ places)) (exponent - places.length)

def infinityWords : List Text := ["inf", "infinity"]

def noNumberWord : Text := "nan"

/-- The name of the number that is not finite which a word with or without a sign stands for, case
    aside. -/
def notFiniteOfText? (t : Text) : Option Value :=
  let (isNegative, word) := splitSign t
  let word := word.map Char.toLower
  if word ∈ infinityWords then some (.notFinite (if isNegative then "-inf" else "inf"))
  else if word = noNumberWord then some (.notFinite noNumberWord)
  else none

end TaskTitles.Validation
