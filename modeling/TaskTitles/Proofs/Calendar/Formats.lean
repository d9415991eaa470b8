import Mathlib.Data.List.Forall2
import TaskTitles.Calendar.Format

/-!
# What a date format matches

A format is matched by trying alternatives in order, so that a field could take less of a text than it
might.  Before a separator that it cannot take itself, it takes the whole text up to the separator or
nothing at all (`match?_field_literal`).  A text that lacks a separator of the format does not match
it (`match?_eq_none`).
-/

namespace TaskTitles.Calendar

/-! ## Slots -/

theorem sameLetter_self (c : Char) : sameLetter c c = true := by
  simp [sameLetter]

/-- The text fills the slots, one character each. -/
abbrev Slot.Fills (slots : List Slot) (t : Text) : Prop :=
  List.Forall₂ (fun slot c => Slot.admits slot c = true) slots t

/-- Slots take the start of the text that fills them. -/
theorem Slot.take?_eq_some_iff {slots : List Slot} {t taken rest : Text} :
    Slot.take? slots t = some (taken, rest) ↔ t = taken ++ rest ∧ Slot.Fills slots taken := by
  induction slots generalizing t taken with
  | nil =>
    rw [Slot.take?, Option.some_inj, Prod.mk.injEq, Slot.Fills, List.forall₂_nil_left_iff]
    constructor
    · rintro ⟨rfl, rfl⟩
      exact ⟨rfl, rfl⟩
    · rintro ⟨rfl, rfl⟩
      exact ⟨rfl, rfl⟩
  | cons slot slots ih =>
    cases t with
    | nil =>
      simp only [Slot.take?, reduceCtorEq, false_iff]
      rintro ⟨empty, fills⟩
      rw [List.nil_eq_append_iff] at empty
      rw [empty.1] at fills
      cases fills
    | cons c cs =>
      rw [Slot.take?]
      split
      · next admitted =>
        rw [Option.map_eq_some_iff]
        constructor
        · rintro ⟨⟨front, back⟩, read, same⟩
          cases same
          obtain ⟨rfl, fills⟩ := ih.1 read
          exact ⟨rfl, .cons admitted fills⟩
        · rintro ⟨whole, fills⟩
          cases fills with
          | cons first fills =>
            obtain ⟨rfl, rfl⟩ := List.cons.inj whole
            exact ⟨_, ih.2 ⟨rfl, fills⟩, rfl⟩
      · next refused =>
        simp only [reduceCtorEq, false_iff]
        rintro ⟨whole, fills⟩
        cases fills with
        | cons first fills =>
          obtain ⟨rfl, -⟩ := List.cons.inj whole
          exact refused first

theorem Slot.Fills.exists_slot {slots : List Slot} {t : Text} (fills : Slot.Fills slots t) {c : Char}
    (member : c ∈ t) : ∃ slot ∈ slots, Slot.admits slot c = true := by
  induction fills with
  | nil => cases member
  | @cons slot x slots t first _ ih =>
    rcases List.mem_cons.1 member with rfl | inRest
    · exact ⟨slot, List.mem_cons_self, first⟩
    · obtain ⟨later, inSlots, admitted⟩ := ih inRest
      exact ⟨later, List.mem_cons_of_mem slot inSlots, admitted⟩

theorem Slot.fills_digits {size : Nat} {t : Text} (length : t.length = size)
    (digits : ∀ c ∈ t, Text.isDecimalDigit c = true) :
    Slot.Fills (List.replicate size .digit) t := by
  subst length
  induction t with
  | nil => exact .nil
  | cons c cs ih =>
    obtain ⟨first, later⟩ := List.forall_mem_cons.1 digits
    exact .cons first (ih later)

/-! ## Fields -/

namespace Field

/-- The text is one of the ways in which the field can be written. -/
def Takes (f : Field) (t : Text) : Prop := ∃ shape ∈ f.shapes, Slot.Fills shape t

instance (f : Field) (t : Text) : Decidable (f.Takes t) := by unfold Takes; infer_instance

/-- The character stands in no text that is a way of writing the field. -/
def Excludes (f : Field) (c : Char) : Prop :=
  ∀ shape ∈ f.shapes, ∀ slot ∈ shape, Slot.admits slot c = false

instance (f : Field) (c : Char) : Decidable (f.Excludes c) := by unfold Excludes; infer_instance

theorem Excludes.not_mem {f : Field} {c : Char} (excluded : f.Excludes c) {t : Text}
    (takes : f.Takes t) : c ∉ t := by
  obtain ⟨shape, member, fills⟩ := takes
  intro inText
  obtain ⟨slot, inShape, admitted⟩ := fills.exists_slot inText
  exact Bool.false_ne_true ((excluded shape member slot inShape).symm.trans admitted)

end Field

/-! ## Pieces -/

/-- Where all elements but one come to nothing, that one is found. -/
theorem findSome?_eq_of_forall {α β : Type} {f : α → Option β} {items : List α} {item : α}
    (member : item ∈ items) (others : ∀ other ∈ items, other = item ∨ f other = none) :
    items.findSome? f = f item := by
  cases result : items.findSome? f with
  | none => exact (List.findSome?_eq_none_iff.1 result item member).symm
  | some b =>
    obtain ⟨other, inItems, found⟩ := List.exists_of_findSome?_eq_some result
    rcases others other inItems with rfl | nothing
    · exact found.symm
    · exact absurd (found.symm.trans nothing) (Option.some_ne_none b)

namespace Piece

theorem mem_candidates_field {f : Field} {t taken rest : Text} :
    (taken, rest) ∈ candidates t (.field f) ↔ t = taken ++ rest ∧ f.Takes taken := by
  simp only [candidates, List.mem_filterMap, Slot.take?_eq_some_iff, Field.Takes]
  constructor
  · rintro ⟨shape, member, whole, fills⟩
    exact ⟨whole, shape, member, fills⟩
  · rintro ⟨whole, shape, member, fills⟩
    exact ⟨shape, member, whole, fills⟩

theorem eq_append_of_mem_candidates {piece : Piece} {t taken rest : Text}
    (member : (taken, rest) ∈ piece.candidates t) : t = taken ++ rest := by
  cases piece with
  | literal c => exact (Slot.take?_eq_some_iff.1 (Option.mem_toList.1 member)).1
  | blanks =>
    obtain ⟨n, -, same⟩ := List.mem_map.1 member
    cases same
    exact (List.take_append_drop (n + 1) t).symm
  | field f => exact (mem_candidates_field.1 member).1

theorem match?_literal_nil (c : Char) (pieces : List Piece) :
    match? (.literal c :: pieces) [] = none := rfl

theorem match?_literal_cons (c x : Char) (pieces : List Piece) (t : Text) :
    match? (.literal c :: pieces) (x :: t) = if sameLetter c x then match? pieces t else none := by
  by_cases same : sameLetter c x = true
  · simp [match?, candidates, Slot.take?, Slot.admits, same]
  · simp [match?, candidates, Slot.take?, Slot.admits, same]

/-- A text without a separator of the format does not match it. -/
theorem match?_eq_none {pieces : List Piece} {sep : Char} (needed : .literal sep ∈ pieces)
    {t : Text} (absent : ∀ c ∈ t, sameLetter sep c = false) : match? pieces t = none := by
  induction pieces generalizing t with
  | nil => cases needed
  | cons piece pieces ih =>
    rcases List.mem_cons.1 needed with rfl | later
    · cases t with
      | nil => exact match?_literal_nil sep pieces
      | cons x t =>
        rw [match?_literal_cons, absent x List.mem_cons_self]
        rfl
    · rw [match?, List.findSome?_eq_none_iff]
      rintro ⟨taken, rest⟩ member
      -- The separator is to come in what a first piece leaves of the text.
      have whole := eq_append_of_mem_candidates member
      have inRest : ∀ c ∈ rest, sameLetter sep c = false := fun c found =>
        absent c (whole ▸ List.mem_append_right taken found)
      dsimp only
      rw [ih later inRest, Option.map_none]

/-- A field takes the text up to a separator, however many ways there are to start reading it: what
    takes less of the text leaves something else in the separator's place, and nothing takes more. -/
theorem match?_field_literal {f : Field} {sep : Char} (excluded : f.Excludes sep) {front : Text}
    (takes : f.Takes front) (apart : ∀ c ∈ front, sameLetter sep c = false) (pieces : List Piece)
    (back : Text) :
    match? (.field f :: .literal sep :: pieces) (front ++ sep :: back) =
      (match? pieces back).map fun (reading, final) => ((f, front) :: reading, final) := by
  have member : (front, sep :: back) ∈ candidates (front ++ sep :: back) (.field f) :=
    mem_candidates_field.2 ⟨rfl, takes⟩
  rw [match?, findSome?_eq_of_forall member]
  · dsimp only
    rw [match?_literal_cons, if_pos (sameLetter_self sep)]
  · rintro ⟨taken, rest⟩ candidate
    obtain ⟨whole, takesOther⟩ := mem_candidates_field.1 candidate
    rcases List.append_eq_append_iff.1 whole with ⟨more, rfl, behind⟩ | ⟨more, rfl, rfl⟩
    · cases more with
      | nil => exact .inl (by rw [List.append_nil, behind, List.nil_append])
      | cons x more =>
        obtain ⟨rfl, -⟩ := List.cons.inj behind
        have inTaken : sep ∈ front ++ sep :: more := List.mem_append_right front List.mem_cons_self
        exact absurd inTaken (excluded.not_mem takesOther)
    · cases more with
      | nil => exact .inl (by rw [List.append_nil, List.nil_append])
      | cons x more =>
        have other : sameLetter sep x = false :=
          apart x (List.mem_append_right taken List.mem_cons_self)
        refine .inr ?_
        dsimp only
        rw [List.cons_append, match?_literal_cons, other]
        rfl

end Piece

/-- Before nothing else, the field takes the whole text. -/
def Field.TakesAll (f : Field) (t : Text) : Prop := Piece.match? [.field f] t = some ([(f, t)], [])

instance (f : Field) (t : Text) : Decidable (f.TakesAll t) := by
  unfold Field.TakesAll; infer_instance

/-! ## Fields with one shape -/

section Singleton

variable {f : Field} {slots : List Slot} (shapes : f.shapes = [slots]) {t : Text}

include shapes

theorem Piece.match?_singleton (t : Text) :
    Piece.match? [.field f] t =
      (Slot.take? slots t).map fun (taken, rest) => ([(f, taken)], rest) := by
  simp only [Piece.match?, Piece.candidates, shapes, List.filterMap_cons, List.filterMap_nil]
  cases Slot.take? slots t <;> rfl

theorem takesAll_of_fills (fills : Slot.Fills slots t) : f.TakesAll t := by
  rw [Field.TakesAll, Piece.match?_singleton shapes,
    Slot.take?_eq_some_iff.2 ⟨(List.append_nil t).symm, fills⟩]
  rfl

/-- A field with one shape takes as many characters as that has slots. -/
theorem Piece.length_eq_of_match? {reading : Reading}
    (whole : Piece.match? [.field f] t = some (reading, [])) : t.length = slots.length := by
  rw [Piece.match?_singleton shapes, Option.map_eq_some_iff] at whole
  obtain ⟨⟨taken, rest⟩, read, same⟩ := whole
  cases same
  obtain ⟨rfl, fills⟩ := Slot.take?_eq_some_iff.1 read
  rw [List.append_nil, fills.length_eq]

end Singleton

/-! ## Formats -/

/-- The format consists of these pieces and names no part of a date twice. -/
structure IsFormat (format : Text) (pieces : List Piece) : Prop where
  directives : Piece.ofFormat? format = some pieces
  distinct : (Piece.fields pieces).eraseDups.length = (Piece.fields pieces).length

section Reading

variable {format : Text} {pieces : List Piece} (isFormat : IsFormat format pieces) {t : Text}

include isFormat

/-- A date is read off the first match of the format, if that uses up the text. -/
theorem IsFormat.readDate?_eq_ok {reading : Reading}
    (whole : Piece.match? pieces t = some (reading, [])) :
    readDate? format t = .ok ((reading.foldlM Parts.add {}).bind Parts.date?) := by
  rw [readDate?, isFormat.directives]
  dsimp only
  rw [if_pos isFormat.distinct, whole]

theorem IsFormat.readDate?_eq_none
    (noWhole : ∀ reading, Piece.match? pieces t ≠ some (reading, [])) :
    readDate? format t = .ok none := by
  rw [readDate?, isFormat.directives]
  dsimp only
  rw [if_pos isFormat.distinct]
  split
  · next reading whole => exact absurd whole (noWhole reading)
  · rfl

/-- A format with a separator that the text lacks does not read it. -/
theorem IsFormat.readDate?_apart {sep : Char} (needed : .literal sep ∈ pieces)
    (absent : ∀ c ∈ t, sameLetter sep c = false) : readDate? format t = .ok none := by
  refine isFormat.readDate?_eq_none fun reading whole => ?_
  rw [Piece.match?_eq_none needed absent] at whole
  cases whole

/-- The format can be tried on every text. -/
theorem IsFormat.exists_readDate? (t : Text) : ∃ found, readDate? format t = .ok found := by
  rw [readDate?, isFormat.directives]
  dsimp only
  rw [if_pos isFormat.distinct]
  exact ⟨_, rfl⟩

end Reading

/-- A day, a month and a year between slashes. -/
def slashedPieces (yearField : Field) : List Piece :=
  [.field .day, .literal '/', .field .month, .literal '/', .field yearField]

/-- A year, a month and a day between hyphens. -/
def hyphenedPieces : List Piece :=
  [.field .year, .literal '-', .field .month, .literal '-', .field .day]

theorem isFormat_slashedShort : IsFormat "%d/%m/%y" (slashedPieces .shortYear) where
  directives := rfl
  distinct := by decide

theorem isFormat_slashed : IsFormat "%d/%m/%Y" (slashedPieces .year) where
  directives := rfl
  distinct := by decide

theorem isFormat_hyphened : IsFormat "%Y-%m-%d" hyphenedPieces where
  directives := rfl
  distinct := by decide

end TaskTitles.Calendar
