import TaskTitles.Text.Digit

/-!
# Numbers of double precision

A number with a fraction is kept in double precision: a significand below 2 to the 53rd, times a
power of two.  What lies between two such numbers is rounded to the nearer one, and from the middle
to the one whose significand is even.  Zero has a sign.
-/

namespace TaskTitles

/-- The finite number `significand * 2 ^ exponent`, or its negative. -/
structure Double where
  isNegative : Bool
  significand : Nat
  exponent : Int
  deriving Repr, DecidableEq

namespace Double

/-! ## Quotients -/

def twoTo (n : Nat) : Nat := Nat.pow 2 n

/-- A quotient rounded to the nearest whole number, from the middle to the even one. -/
def roundedQuotient (numerator denominator : Nat) : Nat :=
  let quotient := numerator / denominator
  let rest := numerator % denominator
  if 2 * rest < denominator then quotient
  else if denominator < 2 * rest then quotient + 1
  else quotient + quotient % 2

/-- A rounded quotient is at most half away from the exact one. -/
theorem roundedQuotient_near (n : Nat) {d : Nat} (positive : 0 < d) :
    2 * (d * roundedQuotient n d) ≤ 2 * n + d ∧ 2 * n ≤ 2 * (d * roundedQuotient n d) + d := by
  have whole := Nat.div_add_mod n d
  have next : d * (n / d + 1) = d * (n / d) + d := Nat.mul_succ d (n / d)
  have small := Nat.mod_lt n positive
  simp only [roundedQuotient]
  split
  · omega
  · split
    · omega
    · rcases Nat.mod_two_eq_zero_or_one (n / d) with even | odd
      · rw [even, Nat.add_zero]; omega
      · rw [odd]; omega

/-! ## The range -/

/-- The significand has this many binary digits at most. -/
def precision : Nat := 53

def minExponent : Int := -1074

def maxExponent : Int := 971

def zero (isNegative : Bool) : Double := ⟨isNegative, 0, minExponent⟩

/-- The number nearest to `numerator / denominator`, or nothing where that counts as infinite. -/
def ofQuotient? (isNegative : Bool) (numerator denominator : Nat) : Option Double :=
  if numerator = 0 then some (zero isNegative)
  else
    let fits (exponent : Int) : Bool :=
      numerator * twoTo (-exponent).toNat
        < denominator * twoTo exponent.toNat * twoTo precision
    let guess : Int := (numerator.log2 : Int) - denominator.log2 - precision
    let exponent := max minExponent (if fits guess then guess else guess + 1)
    let significand := roundedQuotient (numerator * twoTo (-exponent).toNat)
      (denominator * twoTo exponent.toNat)
    let (significand, exponent) :=
      if significand = twoTo precision then (twoTo (precision - 1), exponent + 1)
      else (significand, exponent)
    if maxExponent < exponent then none else some ⟨isNegative, significand, exponent⟩

/-! ## The exact value -/

def numerator (x : Double) : Nat := x.significand * twoTo x.exponent.toNat

def denominator (x : Double) : Nat := twoTo (-x.exponent).toNat

def signedNumerator (x : Double) : Int := if x.isNegative then -x.numerator else x.numerator

def floor (x : Double) : Int := x.signedNumerator / x.denominator

/-- The integer that the number is, if it has no fraction. -/
def toInt? (x : Double) : Option Int :=
  if x.numerator % x.denominator = 0 then some x.floor else none

/-- The number less its whole part, without a sign. -/
def fraction (x : Double) : Option Double :=
  ofQuotient? false (x.numerator % x.denominator) x.denominator

/-- Whether the number is beyond a whole one, signs aside. -/
def exceeds (x : Double) (n : Nat) : Bool := n * x.denominator < x.numerator

def ofSigned? (numerator : Int) (denominator : Nat) : Option Double :=
  ofQuotient? (numerator < 0) numerator.natAbs denominator

def minus (x : Double) (n : Int) : Option Double :=
  ofSigned? (x.signedNumerator - n * x.denominator) x.denominator

def times (x : Double) (n : Nat) : Option Double := ofSigned? (x.signedNumerator * n) x.denominator

def dividedBy (x : Double) (n : Nat) : Option Double :=
  ofSigned? x.signedNumerator (x.denominator * n)

/-- The nearest whole number to a number that is not negative; the middle goes up. -/
def roundUp (x : Double) : Nat := (2 * x.numerator + x.denominator) / (2 * x.denominator)

end Double

end TaskTitles
