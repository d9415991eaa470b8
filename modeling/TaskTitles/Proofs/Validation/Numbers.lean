import Mathlib.Data.List.TakeWhile
import TaskTitles.Proofs.Task.Numbers
import TaskTitles.Proofs.Validation.Records
import TaskTitles.Proofs.Value.Short

/-!
# The numbers of records that are read

A number that a short document supplies is short (`isShort_of_integer`), whether it stands there as
an integer or in a text, so every number of a context or task that is read from such a document is
short (`Context.isShort_of_ofValue`, `Task.hasNumbers_of_ofValue`).
-/

namespace TaskTitles

open Validation Text

namespace Validation

/-! ## Integers -/

theorem exists_splitHyphen_eq (t : Text) :
    ∃ (isNegative : Bool) (unsigned : Text),
      splitHyphen t = (if isNegative then ['-'] else [], unsigned) := by
  simp only [splitHyphen]
  split
  · exact ⟨true, _, rfl⟩
  · exact ⟨false, _, rfl⟩

theorem isShort_of_plainInteger? {t : Text} {n : Int} (fits : startsTooLong t = false)
    (found : plainInteger? t = some n) : IsShort n := by
  obtain ⟨isNegative, unsigned, splits⟩ := exists_splitHyphen_eq t
  rw [plainInteger?, splits] at found
  rw [startsTooLong, splits] at fits
  cases unsigned with
  | nil => cases found
  | cons first rest =>
    dsimp only at found
    split at found
    · next plain =>
      obtain ⟨allDigits, noZero⟩ := plain
      have whole : (first :: rest).takeWhile Char.isDigit = first :: rest :=
        List.takeWhile_eq_self_iff.2 (List.all_eq_true.1 allDigits)
      -- A leading zero stands alone, and otherwise all digits have been counted.
      have length : (first :: rest).length + isNegative.toNat ≤ Flaw.maxDigits := by
        by_cases zero : first = '0'
        · subst zero
          rw [noZero.resolve_left (not_not_intro rfl)]
          cases isNegative <;> decide
        · dsimp only at fits
          rw [whole] at fits
          cases isNegative <;> simpa [zero] using fits
      have short := isShort_digitsValue (List.cons_ne_nil first rest) isNegative length
      cases isNegative <;> cases found <;> exact short
    · cases found

theorem isShort_of_integerOfText? {t : Text} {n : Int} (fits : startsTooLong t = false)
    (found : integerOfText? t = some n) : IsShort n := by
  rw [integerOfText?, Option.orElse_eq_some] at found
  rcases found with plain | ⟨-, other⟩
  · exact isShort_of_plainInteger? fits plain
  · -- Other ways of writing an integer lead to a plain numeral that is measured again.
    obtain ⟨numeral, written, plain⟩ := Option.bind_eq_some_iff.1 other
    obtain ⟨-, fits⟩ := Option.filter_eq_some_iff.1 written
    exact isShort_of_plainInteger? (by simpa using fits) plain

/-- The integer that a short value counts as is short. -/
theorem isShort_of_integer {value : Value} {n : Int} (short : value.IsShort)
    (valid : integer value = .valid n) : IsShort n := by
  simp only [integer] at valid
  split at valid
  · cases valid
    cases short with
    | int short => exact short
  · next b =>
    cases valid
    cases b <;> exact isShort_of_natAbs_lt (by decide)
  · -- A number in double precision counts as an integer below the limit of machine words only.
    split at valid
    · split at valid
      · next small =>
        cases valid
        refine isShort_of_natAbs_lt (Nat.lt_trans small ?_)
        decide
      · cases valid
    · cases valid
  · cases valid
  · split at valid
    · cases valid
    · next fits =>
      split at valid
      · next found =>
        cases valid
        exact isShort_of_integerOfText? (by simpa using fits) found
      · cases valid
  · cases valid

theorem isShort_of_natural {value : Value} {n : Nat} (short : value.IsShort)
    (valid : natural value = .valid n) : IsShort n :=
  isShort_of_integer short (natural_eq_valid_iff.1 valid)

/-- A number of a record is its default or is read from a field. -/
theorem isShort_of_fieldOf {α : Type} (number : α → Int) {check : Value → Checked α}
    (checked : ∀ (value : Value) (a : α), value.IsShort → check value = .valid a →
      IsShort (number a))
    {fields : Value.Fields} (short : ∀ field ∈ fields, field.2.IsShort) {name : Text}
    {default? : Option α} (shortDefault : ∀ a ∈ default?, IsShort (number a)) {a : α}
    (valid : fieldOf fields name check default? = .valid a) : IsShort (number a) := by
  rcases of_fieldOf_eq_valid valid with absent | ⟨field, member, valid⟩
  · exact shortDefault a absent
  · exact checked field.2 a (short field member) valid

/-- An item of a list in a short record is read from a short value. -/
theorem exists_of_mem_listField {α : Type} {check : Value → Checked α} {fields : Value.Fields}
    {name : Text} {items : List α} (short : (Value.table fields).IsShort)
    (valid : fieldOf fields name (listOf check) (some []) = .valid items) {item : α}
    (member : item ∈ items) : ∃ inner : Value, inner.IsShort ∧ check inner = .valid item := by
  obtain ⟨field, inFields, values, isList, inner, inValues, checked⟩ := of_mem_listField valid member
  cases short with
  | table short =>
    have shortList := short field inFields
    rw [isList] at shortList
    cases shortList with
    | list short => exact ⟨inner, short inner inValues, checked⟩

end Validation

/-! ## Records -/

theorem Context.isShort_of_ofValue {value : Value} (short : value.IsShort) {c : Context}
    (valid : Context.ofValue value = .valid c) : IsShort c.id := by
  obtain ⟨fields, rfl, idValid, -⟩ := Context.ofValue_eq_valid_iff.1 valid
  cases short with
  | table short =>
    exact isShort_of_fieldOf (fun n => n) (fun _ _ => isShort_of_integer) short (by simp) idValid

/-- The numbers of a task that is read from a short document are short. -/
theorem Task.hasNumbers_of_ofValue {value : Value} (short : value.IsShort) {task : Task}
    (valid : Task.ofValue value = .valid task) : task.HasNumbers IsShort := by
  obtain ⟨fields, rfl, read⟩ := Task.ofValue_eq_valid_iff.1 valid
  have zero : IsShort 0 := isShort_of_natAbs_lt (by decide)
  cases short with
  | table short =>
    have shortInteger {name : Text} {n : Int}
        (valid : fieldOf fields name integer (some 0) = .valid n) : IsShort n :=
      isShort_of_fieldOf (fun n => n) (fun _ _ => isShort_of_integer) short
        (by simpa using zero) valid
    exact {
      id := shortInteger read.id
      dueDate := shortInteger read.dueDate
      startDate := shortInteger read.startDate
      context := shortInteger read.context
      folder := shortInteger read.folder
      children := isShort_of_fieldOf Nat.cast (fun _ _ => isShort_of_natural) short
        (by simpa using zero) read.children }

end TaskTitles
