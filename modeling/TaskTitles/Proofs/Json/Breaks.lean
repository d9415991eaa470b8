import TaskTitles.Files.Place
import TaskTitles.Proofs.Json.Documents

/-!
# Line breaks of documents

The text of a document breaks its lines with line feeds only (`carriage_not_mem_writeAt`), and such
a text is not changed when its line breaks are unified (`Files.unifyBreaks_eq`).
-/

namespace TaskTitles

open Text

/-- Unifying line breaks changes nothing where every one is a line feed. -/
theorem Files.unifyBreaks_eq {t : Text} (free : '\r' ∉ t) : unifyBreaks t = t := by
  induction t with
  | nil => rfl
  | cons c cs ih =>
    rw [List.mem_cons, not_or] at free
    rw [unifyBreaks, ih free.2]
    · exact fun _ isCarriage _ => free.1 isCarriage.symm
    · exact fun isCarriage => free.1 isCarriage.symm

namespace Json

/-! ## Numerals and strings -/

theorem carriage_not_mem_ofInt (n : Int) : '\r' ∉ ofInt n := by
  have digits (m : Nat) : '\r' ∉ ofNat m := fun member =>
    absurd (isDigit_of_mem_ofNat (n := m) member) (by decide)
  cases n with
  | ofNat m => exact digits m
  | negSucc m => exact List.not_mem_cons_of_ne_of_not_mem (by decide) (digits (m + 1))

theorem carriage_not_mem_escapeUnit {n : Nat} (small : n < 65536) : '\r' ∉ escapeUnit n := by
  have noDigit : ∀ d < 16, '\r' ≠ Nat.digitChar d := by decide
  have digit (m : Nat) : '\r' ≠ Nat.digitChar (m % 16) := noDigit _ (Nat.mod_lt m (by decide))
  have first := noDigit (n / 4096) (by omega)
  rw [escapeUnit, hexPadded_four small]
  simp [first, digit]

theorem carriage_not_mem_escapeUnits (c : Char) : '\r' ∉ escapeUnits c := by
  have scalar : c.toNat < 0xD800 ∨ 0xDFFF < c.toNat ∧ c.toNat < 0x110000 := c.valid
  rw [escapeUnits]
  split
  · next small => exact carriage_not_mem_escapeUnit small
  · rw [List.mem_append, not_or]
    exact ⟨carriage_not_mem_escapeUnit (by omega), carriage_not_mem_escapeUnit (by omega)⟩

theorem carriage_not_mem_escapeChar (c : Char) : '\r' ∉ escapeChar true c := by
  simp only [escapeChar]
  -- Three escapes come before that of the carriage return, and three after it.
  iterate 3
    split
    · decide
  split
  · decide
  · next noCarriage =>
    iterate 3
      split
      · decide
    split
    · exact carriage_not_mem_escapeUnits c
    · exact fun member => noCarriage (List.mem_singleton.1 member).symm

theorem carriage_not_mem_writeText (t : Text) : '\r' ∉ writeText .indentedAscii t := by
  have quote : '\r' ∉ ("\"" : Text) := by decide
  have inner : '\r' ∉ t.flatMap (escapeChar true) := by
    rw [List.mem_flatMap]
    rintro ⟨c, -, member⟩
    exact carriage_not_mem_escapeChar c member
  rw [writeText, List.mem_append, List.mem_append, not_or, not_or]
  exact ⟨⟨quote, inner⟩, quote⟩

/-! ## Lists and tables -/

theorem carriage_not_mem_newLine (level : Nat) : '\r' ∉ newLine level := fun member => by
  cases List.mem_cons.1 member with
  | inl feed => exact absurd feed (by decide)
  | inr blank => exact absurd (List.eq_of_mem_replicate blank) (by decide)

theorem carriage_not_mem_membersText {level : Nat} {members : List Text} {after : Text}
    (free : ∀ member ∈ members, '\r' ∉ member) (freeAfter : '\r' ∉ after) :
    '\r' ∉ membersText level members after := by
  have close : '\r' ∉ newLine level ++ after := by
    rw [List.mem_append, not_or]
    exact ⟨carriage_not_mem_newLine level, freeAfter⟩
  induction members with
  | nil => exact close
  | cons member others ih =>
    have first := free member List.mem_cons_self
    have later := ih fun other inOthers => free other (List.mem_cons_of_mem member inOthers)
    by_cases last : others = []
    · subst last
      rw [membersText_singleton, List.mem_append, not_or]
      exact ⟨first, close⟩
    · rw [membersText_cons _ _ last, List.mem_append, List.mem_cons, List.mem_append, not_or,
        not_or, not_or]
      exact ⟨first, by decide, carriage_not_mem_newLine _, later⟩

theorem carriage_not_mem_bracket {level : Nat} {opening closing : Char} {members : List Text}
    (brackets : '\r' ≠ opening ∧ '\r' ≠ closing) (free : ∀ member ∈ members, '\r' ∉ member) :
    '\r' ∉ bracket .indentedAscii level opening closing members := by
  by_cases empty : members = []
  · rw [bracket, if_pos empty]
    simp [brackets]
  · rw [← List.append_nil (bracket _ _ _ _ _), bracket_append empty, List.mem_cons, List.mem_append,
      not_or, not_or]
    exact ⟨brackets.1, carriage_not_mem_newLine _,
      carriage_not_mem_membersText free (by simpa using brackets.2)⟩

/-! ## Documents -/

theorem carriage_not_mem_writeAt {depth : Nat} {value : Value} (writable : IsWritable depth value)
    (level : Nat) : '\r' ∉ writeAt .indentedAscii level value := by
  -- Members lie one level deeper than what holds them.
  induction writable generalizing level with
  | null =>
    rw [writeAt]
    decide
  | bool b =>
    rw [writeAt]
    cases b <;> decide
  | int => exact carriage_not_mem_ofInt _
  | text t => exact carriage_not_mem_writeText t
  | list shallow writable ih =>
    rw [writeAt, writeItems_eq_map]
    exact carriage_not_mem_bracket (by decide)
      (List.forall_mem_map.2 fun item member => ih item member (level + 1))
  | table shallow distinct writable ih =>
    rw [writeAt, writeFields_eq_map]
    refine carriage_not_mem_bracket (by decide) (List.forall_mem_map.2 fun field member => ?_)
    rw [writeField, List.mem_append, List.mem_append, not_or, not_or]
    exact ⟨⟨carriage_not_mem_writeText field.1, by decide⟩, ih field member (level + 1)⟩

end Json

end TaskTitles
