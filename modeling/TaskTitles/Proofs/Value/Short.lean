import Mathlib.Data.List.Induction
import TaskTitles.Calendar.Timestamp
import TaskTitles.Proofs.Calendar.Ordinals
import TaskTitles.Proofs.Text.Digits
import TaskTitles.Value.Basic
import TaskTitles.Value.Flaw

/-!
# Integers that are short enough

An integer can be written as long as it has no more digits than the limit (`isSome_ofInt?_iff`), and
read back as long as that holds of its numeral with its sign (`IsShort`).  What has been read from so
many digits is short (`isShort_digitsValue`), and so is every time stamp of a date (`isShort_noon`).
A document is short if all of its integers are (`Value.IsShort`).
-/

namespace TaskTitles

open Text Calendar

/-- The numeral of the integer is not too long to be read. -/
def IsShort (n : Int) : Prop := (ofInt n).length ≤ Flaw.maxDigits

theorem isSome_ofInt?_iff {n : Int} : (ofInt? n).isSome ↔ n.natAbs < 10 ^ Flaw.maxDigits := by
  rw [ofInt?, Option.isSome_ite]
  exact Nat.length_toDigits_le_iff (by decide) (by decide)

theorem ofInt?_eq_none_iff {n : Int} : ofInt? n = none ↔ 10 ^ Flaw.maxDigits ≤ n.natAbs := by
  rw [← Option.not_isSome_iff_eq_none, isSome_ofInt?_iff, Nat.not_lt]

/-- The smallest number of that many digits and one more. -/
theorem le_natAbs_ten_pow (digits : Nat) : 10 ^ digits ≤ ((10 : Int) ^ digits).natAbs :=
  Nat.le_of_eq (Int.natAbs_pow 10 digits).symm

theorem IsShort.isSome_ofInt? {n : Int} (short : IsShort n) : (ofInt? n).isSome := by
  rw [ofInt?, Option.isSome_ite]
  cases n with
  | ofNat m => exact short
  | negSucc m => exact Nat.le_of_succ_le short

theorem digitsValue_lt (digits : Text) : digitsValue digits < 10 ^ digits.length := by
  have small (c : Char) : (digitValue? c).getD 0 < 10 := by
    rw [digitValue?]
    cases found : digitZeros.find? fun first => first ≤ c.toNat && c.toNat < first + 10 with
    | none => exact Nat.succ_pos 9
    | some first =>
      have within := List.find?_some found
      simp at within ⊢
      omega
  -- The last digit counts once, and those in front of it ten times.
  induction digits using List.reverseRecOn with
  | nil => exact Nat.succ_pos 0
  | append_singleton front c ih =>
    have last := small c
    rw [digitsValue_append, List.length_append, List.length_singleton, Nat.pow_succ]
    omega

/-- Digits write a number whose numeral is not longer, with or without a sign. -/
theorem isShort_digitsValue {digits : Text} (nonempty : digits ≠ []) (isNegative : Bool)
    (length : digits.length + isNegative.toNat ≤ Flaw.maxDigits) :
    IsShort (if isNegative then -(digitsValue digits : Int) else digitsValue digits) := by
  have numeral : (ofNat (digitsValue digits)).length ≤ digits.length :=
    (Nat.length_toDigits_le_iff (by decide) (List.length_pos_iff.2 nonempty)).2
      (digitsValue_lt digits)
  cases isNegative with
  | false => exact Nat.le_trans numeral length
  | true =>
    cases value : digitsValue digits with
    | zero => exact (show 1 ≤ Flaw.maxDigits by decide)
    | succ n =>
      rw [value] at numeral
      exact Nat.le_trans (Nat.succ_le_succ numeral) length

theorem isShort_of_natAbs_lt {n : Int} (small : n.natAbs < 10 ^ 19) : IsShort n := by
  have numeral {m : Nat} (below : m < 10 ^ 19) : (ofNat m).length ≤ 19 :=
    (Nat.length_toDigits_le_iff (by decide) (by decide)).2 below
  have enough : 20 ≤ Flaw.maxDigits := by decide
  cases n with
  | ofNat m => exact Nat.le_trans (numeral small) (by omega)
  | negSucc m => exact Nat.le_trans (Nat.succ_le_succ (numeral small)) enough

theorem isShort_noon (d : Date) : IsShort (Timestamp.noon d) := by
  obtain ⟨firstYear, lastYear, firstMonth, lastMonth, firstDay, lastDay⟩ := d.isDate
  have longest := (monthLength_bounds d.year d.month).2
  have beforeMonth :
      -2 ≤ daysBeforeMonth d.year d.month ∧ daysBeforeMonth d.year d.month ≤ 340 := by
    simp only [daysBeforeMonth]
    split
    · omega
    · split <;> omega
  -- The calendar ends before its four millionth day.
  have ordinal : -1000 ≤ d.ordinal ∧ d.ordinal ≤ 4000000 := by
    rw [Date.ordinal, daysBeforeYear]
    simp only [maxYear] at lastYear
    omega
  apply isShort_of_natAbs_lt
  rw [Timestamp.noon, Timestamp.epochOrdinal, Timestamp.daySeconds, Timestamp.noonSeconds]
  omega

namespace Value

inductive IsShort : Value → Prop
  | null : IsShort .null
  | bool (b : Bool) : IsShort (.bool b)
  | int {n : Int} (short : TaskTitles.IsShort n) : IsShort (.int n)
  | real (x : Double) : IsShort (.real x)
  | notFinite (name : Text) : IsShort (.notFinite name)
  | text (t : Text) : IsShort (.text t)
  | list {items : List Value} (short : ∀ item ∈ items, IsShort item) : IsShort (.list items)
  | table {fields : Fields} (short : ∀ field ∈ fields, IsShort field.2) : IsShort (.table fields)

theorem mem_itemIntegers {n : Int} {items : List Value} :
    n ∈ itemIntegers items ↔ ∃ item ∈ items, n ∈ item.integers := by
  induction items with
  | nil => simp [itemIntegers]
  | cons item rest ih => simp [itemIntegers, ih]

theorem mem_fieldIntegers {n : Int} {fields : Fields} :
    n ∈ fieldIntegers fields ↔ ∃ field ∈ fields, n ∈ field.2.integers := by
  induction fields with
  | nil => simp [fieldIntegers]
  | cons field rest ih => simp [fieldIntegers, ih]

theorem isShort_ofScientific (isNegative : Bool) (digits : Nat) (exponent : Int) :
    IsShort (ofScientific isNegative digits exponent) := by
  simp only [ofScientific]
  split
  · exact .real _
  · exact .notFinite _

theorem isShort_set {key : Text} {value : Value} (shortValue : IsShort value) {fields : Fields}
    (short : ∀ field ∈ fields, IsShort field.2) :
    ∀ field ∈ Fields.set key value fields, IsShort field.2 := by
  induction fields with
  | nil => simpa [Fields.set] using shortValue
  | cons field rest ih =>
    obtain ⟨shortFirst, shortRest⟩ := List.forall_mem_cons.1 short
    rw [Fields.set]
    split
    · exact List.forall_mem_cons.2 ⟨shortValue, shortRest⟩
    · exact List.forall_mem_cons.2 ⟨shortFirst, ih shortRest⟩

/-- Fields that are collected in a table stay short. -/
theorem isShort_ofPairs {pairs : Fields} (short : ∀ field ∈ pairs, IsShort field.2) :
    ∀ field ∈ Fields.ofPairs pairs, IsShort field.2 := by
  -- The table that has been collected so far is arbitrary, as long as it is short.
  have collect (fields : Fields) (shortFields : ∀ field ∈ fields, IsShort field.2) :
      ∀ field ∈ pairs.foldl (fun fields pair => Fields.set pair.1 pair.2 fields) fields,
        IsShort field.2 := by
    induction pairs generalizing fields with
    | nil => exact shortFields
    | cons pair rest ih =>
      obtain ⟨shortFirst, shortRest⟩ := List.forall_mem_cons.1 short
      exact ih shortRest _ (isShort_set shortFirst shortFields)
  exact collect [] (List.forall_mem_nil _)

end Value

end TaskTitles
