import TaskTitles.Json.Reader
import TaskTitles.Json.Writer
import TaskTitles.Proofs.Results
import TaskTitles.Proofs.Value.Short

/-!
# Integers written and read back

A short integer is read back from a file, as long as nothing follows it that would go on with a
number (`readNumber_ofInt`), and no integer that is read from a file is longer than that
(`isShort_of_readNumber`).
-/

namespace TaskTitles.Json

open Text

/-- A text does not go on with a number that ends where it starts. -/
def Stops (rest : Text) : Prop :=
  ∀ c ∈ rest.head?, c.isDigit = false ∧ c ≠ '.' ∧ c ≠ 'e' ∧ c ≠ 'E'

theorem takeDigits_append {digits rest : Text} (allDigits : ∀ c ∈ digits, c.isDigit = true)
    (stops : Stops rest) : takeDigits (digits ++ rest) = (digits, rest) := by
  have noDigit : rest.takeWhile Char.isDigit = [] ∧ rest.dropWhile Char.isDigit = rest := by
    cases rest with
    | nil => exact ⟨rfl, rfl⟩
    | cons c cs =>
      have other := (stops c rfl).1
      simp [other]
  rw [takeDigits, List.takeWhile_append_of_pos allDigits, List.dropWhile_append_of_pos allDigits,
    noDigit.1, noDigit.2, List.append_nil]

theorem readExponent?_of_stops {rest : Text} (stops : Stops rest) :
    readExponent? rest = some (0, false, rest) := by
  cases rest with
  | nil => rfl
  | cons c cs =>
    obtain ⟨-, -, noLower, noUpper⟩ := stops c rfl
    simp only [readExponent?]
    -- Three forms of an exponent start with each of the two letters.
    split
    · next equal => exact absurd (List.cons.inj equal).1 noLower
    · next equal => exact absurd (List.cons.inj equal).1 noLower
    · next equal => exact absurd (List.cons.inj equal).1 noLower
    · next equal => exact absurd (List.cons.inj equal).1 noUpper
    · next equal => exact absurd (List.cons.inj equal).1 noUpper
    · next equal => exact absurd (List.cons.inj equal).1 noUpper
    · rfl

theorem ofNat_wellFormed (n : Nat) :
    ¬ (ofNat n = [] ∨ (1 < (ofNat n).length ∧ (ofNat n).head? = some '0')) := by
  rintro (empty | ⟨long, zero⟩)
  · exact ofNat_ne_nil n empty
  · rcases Nat.eq_zero_or_pos n with rfl | positive
    · exact absurd long (by decide)
    · exact head?_ofNat positive zero

theorem readUnsigned_ofNat {limits : Limits} {isNegative : Bool} {n : Nat} {rest : Text}
    (stops : Stops rest)
    (accepted : limits.refusesDigits isNegative true (ofNat n).length = false) :
    readUnsigned limits isNegative (ofNat n ++ rest) =
      .ok (.int (if isNegative then -(n : Int) else n), rest) := by
  have digits := takeDigits_append (fun c => isDigit_of_mem_ofNat (n := n)) stops
  have exponent := readExponent?_of_stops stops
  simp only [readUnsigned]
  rw [digits]
  simp only [if_neg (ofNat_wellFormed n)]
  -- No fraction and no exponent follow, so the number is an integer.
  have noPoint : ∀ more, rest ≠ '.' :: more := by
    rintro more rfl
    exact (stops '.' rfl).2.1 rfl
  split
  · exact absurd rfl (noPoint _)
  · rw [pure_bind, exponent, Flaw.require, ok_bind]
    simp only [Option.isNone_none, Bool.not_false, Bool.and_true, accepted, Bool.false_eq_true,
      if_false, if_true, Option.getD_none, List.append_nil, digitsValue_ofNat]
    rfl

/-- A short integer is read back from a file. -/
theorem readNumber_ofInt {n : Int} (short : IsShort n) {rest : Text} (stops : Stops rest) :
    readNumber .file (ofInt n ++ rest) = .ok (.int n, rest) := by
  cases n with
  | ofNat n =>
    obtain ⟨c, cs, whole⟩ := List.exists_cons_of_ne_nil (ofNat_ne_nil n)
    have isDigit : c.isDigit = true := isDigit_of_mem_ofNat (n := n) (by simp [whole])
    -- A numeral without a sign does not start like one with a sign.
    have noHyphen : c ≠ '-' := by
      rintro rfl
      exact absurd isDigit (by decide)
    have read : readNumber .file (ofInt n ++ rest) =
        readUnsigned .file false (ofNat n ++ rest) := by
      show readNumber .file (ofNat n ++ rest) = _
      rw [whole, List.cons_append, readNumber]
      exact fun _ isHyphen => noHyphen (List.cons.inj isHyphen).1
    have accepted : Limits.file.refusesDigits false true (ofNat n).length = false := by
      simpa [Limits.file, IsShort, ofInt] using short
    exact read.trans (readUnsigned_ofNat stops accepted)
  | negSucc n =>
    have accepted : Limits.file.refusesDigits true true (ofNat (n + 1)).length = false := by
      simpa [Limits.file, IsShort, ofInt] using short
    exact readUnsigned_ofNat stops accepted

/-! ## Reading -/

/-- What reading a number comes to after its whole digits and its places. -/
def finishUnsigned (limits : Limits) (isNegative : Bool) (whole : Text) (fraction : Option Text)
    (rest : Text) : Except Flaw (Value × Text) := do
  let (exponent, hasExponent, rest) ← Flaw.require (readExponent? rest)
  let isInteger := fraction.isNone && !hasExponent
  if limits.refusesDigits isNegative isInteger whole.length then
    throw (.tooManyDigits whole.length)
  let places := fraction.getD []
  let digits := digitsValue (whole ++ places)
  if isInteger then return (.int (if isNegative then -digits else digits), rest)
  return (.ofScientific isNegative digits (exponent - places.length), rest)

theorem isShort_of_finishUnsigned {isNegative : Bool} {whole rest after : Text}
    {fraction : Option Text} {value : Value} (nonempty : whole ≠ [])
    (read : finishUnsigned .file isNegative whole fraction rest = .ok (value, after)) :
    value.IsShort := by
  obtain ⟨⟨exponent, hasExponent, later⟩, -, read⟩ := exists_of_bind_eq_ok read
  dsimp only at read
  split at read
  · cases read
  next accepted =>
  split at read
  · next isInteger =>
    obtain ⟨noFraction, noExponent⟩ : fraction = none ∧ hasExponent = false := by
      simpa using isInteger
    subst noFraction noExponent
    cases read
    rw [Option.getD_none, List.append_nil]
    exact .int (isShort_digitsValue nonempty isNegative (by simpa [Limits.file] using accepted))
  · cases read
    exact Value.isShort_ofScientific _ _ _

theorem isShort_of_readUnsigned {isNegative : Bool} {t rest : Text} {value : Value}
    (read : readUnsigned .file isNegative t = .ok (value, rest)) : value.IsShort := by
  unfold readUnsigned at read
  dsimp only at read
  -- With or without places behind a point, the number is finished in the same way.
  split at read
  · cases read
  next wellFormed =>
  have nonempty := (not_or.1 wellFormed).1
  split at read
  · split at read
    · cases read
    · exact isShort_of_finishUnsigned nonempty read
  · exact isShort_of_finishUnsigned nonempty read

theorem isShort_of_readNumber {t rest : Text} {value : Value}
    (read : readNumber .file t = .ok (value, rest)) : value.IsShort := by
  simp only [readNumber] at read
  split at read <;> exact isShort_of_readUnsigned read

end TaskTitles.Json
