import TaskTitles.Value.Double

/-!
# Decimal numbers

A number of double precision is written with the fewest decimal digits that read back as the same
number, and of those with the ones nearest to it.  The form of the text says where positional
notation ends and how an exponent looks.  There is always a point or an exponent, so that the text
is never mistaken for an integer.
-/

namespace TaskTitles

/-- The number `digits * 10 ^ exponent`. -/
structure Decimal where
  digits : Nat
  exponent : Int
  deriving Repr, DecidableEq

namespace Decimal

def tenTo (n : Nat) : Nat := Nat.pow 10 n

/-- The digits without trailing zeros, of which at most `fuel` are dropped. -/
def trimZeros : (fuel : Nat) → Decimal → Decimal
  | 0, d => d
  | fuel + 1, d =>
    if d.digits % 10 = 0 then trimZeros fuel ⟨d.digits / 10, d.exponent + 1⟩ else d

/-! ## Layout -/

structure Form where
  /-- Positional notation begins with this exponent of the leading digit. -/
  positionalFrom : Int
  /-- Positional notation ends before this exponent of the leading digit. -/
  positionalBelow : Int
  /-- Whether a positive exponent has a sign. -/
  signsExponent : Bool
  /-- The least number of digits of an exponent. -/
  exponentWidth : Nat

def Form.plain : Form where
  positionalFrom := -4
  positionalBelow := 16
  signsExponent := true
  exponentWidth := 2

def Form.report : Form where
  positionalFrom := -5
  positionalBelow := 16
  signsExponent := false
  exponentWidth := 1

def exponentText (form : Form) (exponent : Int) : Text :=
  let sign : Text :=
    if exponent < 0 then ['-'] else if form.signsExponent then ['+'] else []
  'e' :: sign ++ Text.ofNatPadded form.exponentWidth exponent.natAbs

/-- The text of digits whose first one has the given exponent. -/
def layout (form : Form) (digits : Text) (exponent : Int) : Text :=
  if form.positionalFrom ≤ exponent ∧ exponent < form.positionalBelow then
    if exponent < 0 then
      ['0', '.'] ++ List.replicate (-exponent - 1).toNat '0' ++ digits
    else
      let whole := exponent.toNat + 1
      let fraction := digits.drop whole
      digits.take whole ++ List.replicate (whole - digits.length) '0'
        ++ '.' :: (if fraction = [] then ['0'] else fraction)
  else
    let fraction := digits.drop 1
    digits.take 1 ++ (if fraction = [] then [] else '.' :: fraction) ++ exponentText form exponent

def toText (form : Form) (d : Decimal) : Text :=
  if d.digits = 0 then ['0', '.', '0']
  else
    let digits := Text.ofNat d.digits
    layout form digits (digits.length - 1 + d.exponent)

end Decimal

namespace Double

open Decimal

/-! ## The fewest digits -/

/-- Whether the gap to the next smaller number is half of the gap to the next greater one. -/
def isAtStep (x : Double) : Bool :=
  x.significand = twoTo (precision - 1) && minExponent < x.exponent

/-- Whether a decimal number lies among those that are rounded to `x`, signs aside. -/
def readsBack (x : Double) (d : Decimal) : Bool :=
  let quarter := x.exponent - 2
  let decimal := d.digits * tenTo d.exponent.toNat * twoTo (-quarter).toNat
  let binary (n : Nat) : Nat := n * twoTo quarter.toNat * tenTo (-d.exponent).toNat
  let low := binary (4 * x.significand - if x.isAtStep then 1 else 2)
  let high := binary (4 * x.significand + 2)
  if x.significand % 2 = 0 then low ≤ decimal && decimal ≤ high
  else low < decimal && decimal < high

/-- Which of two neighbouring decimal numbers is nearer to `x`; from the middle, the even one. -/
def nearer (x : Double) (lower upper : Decimal) : Decimal :=
  let middle := (lower.digits + upper.digits) * tenTo lower.exponent.toNat * x.denominator
  let doubled := 2 * x.numerator * tenTo (-lower.exponent).toNat
  if doubled < middle then lower
  else if middle < doubled then upper
  else if lower.digits % 2 = 0 then lower else upper

/-- The decimal number with the given exponent that reads back and is nearest, if one does. -/
def decimalAt? (x : Double) (exponent : Int) : Option Decimal :=
  let digits := x.numerator * tenTo (-exponent).toNat / (x.denominator * tenTo exponent.toNat)
  let lower : Decimal := ⟨digits, exponent⟩
  let upper : Decimal := ⟨digits + 1, exponent⟩
  match x.readsBack lower, x.readsBack upper with
  | true, true => some (x.nearer lower upper)
  | true, false => some lower
  | false, true => some upper
  | false, false => none

/-- More places than stand between the point and the first digit of any number. -/
def manyPlaces : Nat := 400

def leadingExponent (x : Double) : Int :=
  let shifted := x.numerator * tenTo manyPlaces / x.denominator
  (Text.ofNat shifted).length - 1 - manyPlaces

/-- So many decimal digits are enough to tell a number from all others. -/
def enoughDigits : Nat := 17

def exactDecimal (x : Double) : Decimal :=
  ⟨x.numerator * Nat.pow 5 (-x.exponent).toNat, min 0 x.exponent⟩

/-- The decimal number with the fewest digits that reads back as `x`, signs aside, and of those the
    nearest one. -/
def toDecimal (x : Double) : Decimal :=
  if x.significand = 0 then ⟨0, 0⟩
  else
    let shortest := (List.range enoughDigits).findSome? fun (n : Nat) =>
      x.decimalAt? (x.leadingExponent - n)
    trimZeros enoughDigits (shortest.getD x.exactDecimal)

def toText (form : Decimal.Form) (x : Double) : Text :=
  (if x.isNegative then ['-'] else []) ++ x.toDecimal.toText form

/-! ## Reading -/

/-- Numbers below one tenth to the power of this are rounded to zero. -/
def tinyExponent : Int := -330

/-- Numbers with more digits before the point than this are infinite, whatever the digits. -/
def hugeExponent : Int := 309

/-- The number nearest to `digits * 10 ^ exponent`, or nothing where that counts as infinite. -/
def ofDecimal? (isNegative : Bool) (d : Decimal) : Option Double :=
  let magnitude := (Text.ofNat d.digits).length + d.exponent
  if d.digits = 0 ∨ magnitude < tinyExponent then some (zero isNegative)
  else if hugeExponent < magnitude then none
  else
    ofQuotient? isNegative (d.digits * tenTo d.exponent.toNat) (tenTo (-d.exponent).toNat)

end Double

end TaskTitles
