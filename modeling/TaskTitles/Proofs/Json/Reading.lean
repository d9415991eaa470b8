import TaskTitles.Proofs.Json.Numbers

/-!
# Documents that are read

Every integer of a document that is read from a file is short (`isShort_of_read`): the limits of the
file are checked at every number, however deep it lies.
-/

namespace TaskTitles.Json

open Text

theorem isShort_of_readWord? {t rest : Text} {value : Value}
    (read : readWord? t = some (value, rest)) : value.IsShort := by
  obtain ⟨⟨word, found⟩, member, matched⟩ := List.exists_of_findSome?_eq_some read
  obtain ⟨after, -, same⟩ := Option.map_eq_some_iff.1 matched
  cases same
  have known : ∀ entry ∈ words, entry.2.IsShort := by
    simp only [words, List.forall_mem_cons]
    exact ⟨.null, .bool true, .bool false, .notFinite _, .notFinite _, .notFinite _,
      List.forall_mem_nil _⟩
  exact known _ member

/-- What is read with some fuel is short: values, items and fields alike. -/
structure ReadsShort (fuel : Nat) : Prop where
  value {depth : Nat} {t rest : Text} {value : Value}
    (read : readValue .file fuel depth t = .ok (value, rest)) : value.IsShort
  items {depth : Nat} {t rest : Text} {items : List Value}
    (read : readItems .file fuel depth t = .ok (items, rest)) : ∀ item ∈ items, item.IsShort
  fields {depth : Nat} {t rest : Text} {fields : Value.Fields}
    (read : readFields .file fuel depth t = .ok (fields, rest)) : ∀ field ∈ fields, field.2.IsShort

theorem isShort_of_readValue {fuel depth : Nat} {t rest : Text} {value : Value}
    (less : ReadsShort fuel) (read : readValue .file (fuel + 1) depth t = .ok (value, rest)) :
    value.IsShort := by
  simp only [readValue] at read
  split at read
  · obtain ⟨⟨text, after⟩, -, same⟩ := exists_of_bind_eq_ok read
    cases same
    exact .text text
  · split at read
    · cases read
      exact .list (List.forall_mem_nil _)
    · obtain ⟨-, -, read⟩ := exists_of_bind_eq_ok read
      obtain ⟨⟨items, after⟩, inner, same⟩ := exists_of_bind_eq_ok read
      cases same
      exact .list (less.items inner)
  · split at read
    · cases read
      exact .table (List.forall_mem_nil _)
    · obtain ⟨-, -, read⟩ := exists_of_bind_eq_ok read
      obtain ⟨⟨fields, after⟩, inner, same⟩ := exists_of_bind_eq_ok read
      cases same
      exact .table (Value.isShort_ofPairs (less.fields inner))
  · split at read
    · next found =>
      cases read
      exact isShort_of_readWord? found
    · exact isShort_of_readNumber read

theorem isShort_of_readItems {fuel depth : Nat} {t rest : Text} {items : List Value}
    (less : ReadsShort fuel) (read : readItems .file (fuel + 1) depth t = .ok (items, rest)) :
    ∀ item ∈ items, item.IsShort := by
  rw [readItems] at read
  obtain ⟨⟨item, after⟩, first, read⟩ := exists_of_bind_eq_ok read
  have short := less.value first
  dsimp only at read
  split at read
  · cases read
    simpa using short
  · obtain ⟨⟨others, final⟩, later, same⟩ := exists_of_bind_eq_ok read
    cases same
    exact List.forall_mem_cons.2 ⟨short, less.items later⟩
  · cases read

theorem isShort_of_readFields {fuel depth : Nat} {t rest : Text} {fields : Value.Fields}
    (less : ReadsShort fuel) (read : readFields .file (fuel + 1) depth t = .ok (fields, rest)) :
    ∀ field ∈ fields, field.2.IsShort := by
  rw [readFields] at read
  split at read
  · obtain ⟨⟨key, after⟩, -, read⟩ := exists_of_bind_eq_ok read
    dsimp only at read
    split at read
    · obtain ⟨⟨value, final⟩, first, read⟩ := exists_of_bind_eq_ok read
      have short := less.value first
      dsimp only at read
      split at read
      · cases read
        simpa using short
      · obtain ⟨⟨others, last⟩, later, same⟩ := exists_of_bind_eq_ok read
        cases same
        exact List.forall_mem_cons.2 ⟨short, less.fields later⟩
      · cases read
    · cases read
  · cases read

theorem readsShort (fuel : Nat) : ReadsShort fuel := by
  -- Each of the three readers calls the others with less fuel.
  induction fuel with
  | zero =>
    constructor <;> intro _ _ _ _ read <;> cases read
  | succ fuel less =>
    exact ⟨isShort_of_readValue less, isShort_of_readItems less, isShort_of_readFields less⟩

/-- The integers of a document that is read from a file are short. -/
theorem isShort_of_read {t : Text} {value : Value} (found : read .file t = .ok value) :
    value.IsShort := by
  obtain ⟨⟨inner, rest⟩, first, found⟩ := exists_of_bind_eq_ok found
  dsimp only at found
  split at found
  · cases found
    exact (readsShort _).value first
  · cases found

end TaskTitles.Json
