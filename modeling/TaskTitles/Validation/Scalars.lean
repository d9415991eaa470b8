import TaskTitles.Validation.Checked
import TaskTitles.Validation.Numeral

/-!
# Checks of single values

Integers and truth values are also accepted in other forms: a truth value counts as 0 or 1, a number
without fraction as an integer, and a text may write the value.
-/

namespace TaskTitles.Validation

open Text

/-! ## Integers -/

/-- A number in double precision counts as an integer only below this one, signs aside. -/
def wordLimit : Nat := 9223372036854775808

def integer : Value → Checked Int
  | .int n => .valid n
  | .bool b => .valid (if b then 1 else 0)
  | .real x =>
    match x.toInt? with
    | some n => if n.natAbs < wordLimit then .valid n else .fault .integerTooLarge
    | none => .fault .integerFraction
  | .notFinite _ => .fault .integerNotFinite
  | .text t =>
    if startsTooLong t then .fault .integerTooLarge
    else
      match integerOfText? t with
      | some n => .valid n
      | none => .fault .integerText
  | _ => .fault .notInteger

def natural (value : Value) : Checked Nat :=
  (integer value).andThen fun n => if 0 ≤ n then .valid n.toNat else .fault .belowMinimum

/-! ## Truth values -/

def trueWords : List Text := ["1", "t", "true", "y", "yes", "on"]

def falseWords : List Text := ["0", "f", "false", "n", "no", "off"]

def boolOfText? (t : Text) : Option Bool :=
  let word := t.map Char.toLower
  if word ∈ trueWords then some true else if word ∈ falseWords then some false else none

def boolOfInteger (n : Int) : Checked Bool :=
  if n = 1 then .valid true
  else if n = 0 then .valid false
  else if -(wordLimit : Int) ≤ n ∧ n < wordLimit then .fault .boolText
  else .fault .notBool

def bool : Value → Checked Bool
  | .bool b => .valid b
  | .int n => boolOfInteger n
  | .real x =>
    match x.toInt? with
    | some n => boolOfInteger n
    | none => .fault .notBool
  | .text t =>
    match boolOfText? t with
    | some b => .valid b
    | none => .fault .boolText
  | _ => .fault .notBool

/-! ## Texts -/

def text : Value → Checked Text
  | .text t => .valid t
  | _ => .fault .notText

def character : Value → Checked Char
  | .text [c] => .valid c
  | .text [] => .fault .textTooShort
  | .text _ => .fault .textTooLong
  | _ => .fault .notText

/-- A member of an enumeration, by its number in any form of an integer. -/
def memberOf {α : Type} (ofNumber? : Int → Option α) (value : Value) : Checked α :=
  match integer value with
  | .valid n =>
    match ofNumber? n with
    | some member => .valid member
    | none => .fault .notMember
  | .invalid _ => .fault .notMember

end TaskTitles.Validation
