import Mathlib.Algebra.Group.Nat.Defs
import TaskTitles.Text.Digit

/-!
# Numerals

A decimal numeral does not start with a superfluous zero (`head?_ofNat`), and its value is the
number that it writes (`digitsValue_ofNat`), also with zeros in front (`digitsValue_ofNatPadded`).
Four hexadecimal digits write every number below 65536 (`hexPadded_four`).
-/

namespace TaskTitles.Text

/-! ## Decimal numerals -/

/-- The ten digits are the only characters that count as digits. -/
theorem exists_digitChar {c : Char} (digit : c.isDigit = true) : ∃ d < 10, c = Nat.digitChar d := by
  have range : 48 ≤ c.toNat ∧ c.toNat ≤ 57 := by
    simpa [Char.isDigit, UInt32.le_iff_toNat_le] using digit
  obtain ⟨low, high⟩ := range
  refine ⟨c.toNat - 48, by omega, Char.toNat_inj.1 ?_⟩
  rw [Nat.toNat_digitChar_of_lt_ten (by omega)]
  omega

theorem isDigit_of_mem_ofNat {n : Nat} {c : Char} (member : c ∈ ofNat n) : c.isDigit = true :=
  Nat.isDigit_of_mem_toDigits (by decide) (by decide) member

theorem ofNat_ne_nil (n : Nat) : ofNat n ≠ [] := Nat.toDigits_ne_nil

theorem digitValue?_digitChar {d : Nat} (small : d < 10) :
    digitValue? (Nat.digitChar d) = some d := by
  revert d
  decide

theorem isDecimalDigit_of_isDigit {c : Char} (digit : c.isDigit = true) :
    isDecimalDigit c = true := by
  obtain ⟨d, small, rfl⟩ := exists_digitChar digit
  rw [isDecimalDigit, digitValue?_digitChar small]
  rfl

theorem digitsValue_append (front : Text) (c : Char) :
    digitsValue (front ++ [c]) = digitsValue front * 10 + (digitValue? c).getD 0 := by
  rw [digitsValue, List.foldl_append]
  rfl

theorem digitsValue_ofNat (n : Nat) : digitsValue (ofNat n) = n := by
  induction n using Nat.strongRecOn with
  | ind n ih =>
    rw [ofNat, Nat.toDigits_eq_if (by decide)]
    split
    · next small =>
      rw [← List.nil_append [_], digitsValue_append, digitValue?_digitChar small]
      exact Nat.zero_add n
    · next big =>
      have front := ih (n / 10) (Nat.div_lt_self (by omega) (by decide))
      rw [ofNat] at front
      rw [digitsValue_append, front, digitValue?_digitChar (Nat.mod_lt n (by decide)),
        Option.getD_some]
      omega

theorem head?_ofNat {n : Nat} (positive : 0 < n) : (ofNat n).head? ≠ some '0' := by
  induction n using Nat.strongRecOn with
  | ind n ih =>
    rw [ofNat, Nat.toDigits_eq_if (by decide)]
    split
    · next small =>
      have digits : ∀ d < 10, 0 < d → Nat.digitChar d ≠ '0' := by decide
      simpa using digits n small positive
    · next big =>
      -- The numeral of the tenth part leads a longer numeral.
      have front := ih (n / 10) (Nat.div_lt_self (by omega) (by decide)) (by omega)
      obtain ⟨c, cs, whole⟩ := List.exists_cons_of_ne_nil (ofNat_ne_nil (n / 10))
      rw [whole] at front
      rw [ofNat] at whole
      rw [whole]
      exact front

/-! ## Padded numerals -/

theorem isDigit_of_mem_ofNatPadded {width n : Nat} {c : Char} (member : c ∈ ofNatPadded width n) :
    c.isDigit = true := by
  rcases List.mem_append.1 member with zero | inNumeral
  · rw [List.eq_of_mem_replicate zero]
    rfl
  · exact isDigit_of_mem_ofNat inNumeral

theorem length_ofNatPadded {width n : Nat} (positive : 0 < width) (small : n < 10 ^ width) :
    (ofNatPadded width n).length = width := by
  have numeral : (ofNat n).length ≤ width :=
    (Nat.length_toDigits_le_iff (by decide) positive).2 small
  rw [ofNatPadded, List.length_append, List.length_replicate]
  omega

theorem digitsValue_ofNatPadded (width n : Nat) : digitsValue (ofNatPadded width n) = n := by
  rw [ofNatPadded]
  generalize width - (ofNat n).length = zeros
  -- A zero in front leaves the value as it is.
  induction zeros with
  | zero => exact digitsValue_ofNat n
  | succ zeros ih => exact ih

/-! ## Hexadecimal numerals -/

theorem toDigits_sixteen (n : Nat) :
    Nat.toDigits 16 n =
      if n < 16 then [Nat.digitChar n] else Nat.toDigits 16 (n / 16) ++ [Nat.digitChar (n % 16)] :=
  Nat.toDigits_eq_if (by decide)

theorem hexPadded_four {n : Nat} (small : n < 65536) :
    hexPadded 4 n = [Nat.digitChar (n / 4096), Nat.digitChar (n / 256 % 16),
      Nat.digitChar (n / 16 % 16), Nat.digitChar (n % 16)] := by
  have zero : Nat.digitChar 0 = '0' := rfl
  have second : n / 16 / 16 = n / 256 := Nat.div_div_eq_div_mul n 16 16
  have third : n / 256 / 16 = n / 4096 := Nat.div_div_eq_div_mul n 256 16
  rw [hexPadded, toDigits_sixteen n]
  -- One case for each number of digits that are written; zeros stand for the others.
  by_cases one : n < 16
  · rw [if_pos one, Nat.mod_eq_of_lt one, Nat.div_eq_of_lt one,
      Nat.div_eq_of_lt (show n < 256 by omega), Nat.div_eq_of_lt (show n < 4096 by omega), zero]
    rfl
  rw [if_neg one, toDigits_sixteen (n / 16), second]
  by_cases two : n / 16 < 16
  · rw [if_pos two, Nat.mod_eq_of_lt two, Nat.div_eq_of_lt (show n < 256 by omega),
      Nat.div_eq_of_lt (show n < 4096 by omega), zero]
    rfl
  rw [if_neg two, toDigits_sixteen (n / 256), third]
  by_cases three : n / 256 < 16
  · rw [if_pos three, Nat.mod_eq_of_lt three, Nat.div_eq_of_lt (show n < 4096 by omega), zero]
    rfl
  have four : n / 4096 < 16 := by omega
  rw [if_neg three, toDigits_sixteen (n / 4096), if_pos four]
  rfl

end TaskTitles.Text
