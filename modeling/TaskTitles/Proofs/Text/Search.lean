import Mathlib.Data.List.Infix
import TaskTitles.Text.Basic

/-!
# Starts and occurrences

`startsWith` and `occursIn` decide the prefix and the infix relation of lists, so that searches can
be reasoned about by the lemmas of these relations.  The other statements say where the first
occurrence lies, and that a needle without a separator never reaches across one.
-/

namespace TaskTitles.Text

/-! ## The two searches as relations -/

theorem dropLead?_eq_some_iff {lead t rest : Text} :
    dropLead? lead t = some rest ↔ t = lead ++ rest := by
  constructor
  · exact eq_of_dropLead?
  · rintro rfl
    exact dropLead?_append lead rest

theorem startsWith_iff {lead t : Text} : startsWith lead t = true ↔ lead <+: t := by
  simp only [startsWith, Option.isSome_iff_exists, dropLead?_eq_some_iff]
  constructor
  · rintro ⟨rest, rfl⟩
    exact List.prefix_append lead rest
  · rintro ⟨rest, rfl⟩
    exact ⟨rest, rfl⟩

theorem startsWith_eq_false_iff {lead t : Text} : startsWith lead t = false ↔ ¬ lead <+: t := by
  rw [← startsWith_iff, Bool.not_eq_true]

theorem dropLead?_eq_none_iff {lead t : Text} : dropLead? lead t = none ↔ ¬ lead <+: t := by
  rw [← startsWith_eq_false_iff, startsWith, Option.isSome_eq_false_iff, Option.isNone_iff_eq_none]

theorem occursIn_iff {needle t : Text} : occursIn needle t = true ↔ needle <:+: t := by
  constructor
  · intro found
    obtain ⟨sides, cut⟩ := Option.isSome_iff_exists.1 found
    exact ⟨sides.1, sides.2, (eq_of_cut? cut).symm⟩
  · intro occurs
    -- The recursion of the cut: the needle leads the text or occurs behind its first character.
    induction t with
    | nil =>
      rw [List.infix_nil] at occurs
      simp [occursIn, cut?, occurs]
    | cons c cs ih =>
      rw [occursIn, cut?]
      split
      · rfl
      · next noLead =>
        have later : needle <:+: cs :=
          (List.infix_cons_iff.1 occurs).resolve_left (dropLead?_eq_none_iff.1 noLead)
        simpa [occursIn] using ih later

theorem occursIn_eq_false_iff {needle t : Text} : occursIn needle t = false ↔ ¬ needle <:+: t := by
  rw [← occursIn_iff, Bool.not_eq_true]

theorem cut?_eq_none_iff {needle t : Text} : cut? needle t = none ↔ ¬ needle <:+: t := by
  rw [← occursIn_eq_false_iff, occursIn, Option.isSome_eq_false_iff, Option.isNone_iff_eq_none]

/-! ## The first occurrence -/

/-- A cut is made at the first occurrence: every other one has at least as much text before it. -/
theorem length_le_of_cut? {needle t before after : Text} (cut : cut? needle t = some (before, after))
    {front back : Text} (other : t = front ++ needle ++ back) : before.length ≤ front.length := by
  -- The other occurrence may start anywhere, so `front` is arbitrary in the induction.
  induction t generalizing before front with
  | nil =>
    have empty := eq_of_cut? cut
    simp only [List.append_assoc, List.nil_eq, List.append_eq_nil_iff] at empty
    simp [empty.1]
  | cons c cs ih =>
    rw [cut?] at cut
    split at cut
    · simp only [Option.some.injEq, Prod.mk.injEq] at cut
      simp [← cut.1]
    · next noLead =>
      obtain ⟨⟨inner, rest⟩, innerCut, equal⟩ := Option.map_eq_some_iff.1 cut
      simp only [Prod.mk.injEq] at equal
      obtain ⟨rfl, rfl⟩ := equal
      cases front with
      | nil =>
        -- The needle would stand at the very start, where none was found.
        have lead : needle <+: c :: cs := ⟨back, by simpa using other.symm⟩
        exact absurd lead (dropLead?_eq_none_iff.1 noLead)
      | cons d front =>
        simp only [List.cons_append, List.cons.injEq] at other
        have shorter := ih innerCut other.2
        simpa using shorter

theorem not_infix_of_cut? {needle t before after : Text} (nonempty : needle ≠ [])
    (cut : cut? needle t = some (before, after)) : ¬ needle <:+: before := by
  rintro ⟨front, back, equal⟩
  -- An occurrence before the cut would be one with less text before it.
  have whole : t = front ++ needle ++ (back ++ needle ++ after) := by
    rw [eq_of_cut? cut, ← equal]
    simp
  have shorter := length_le_of_cut? cut whole
  have longer : before.length = front.length + needle.length + back.length := by
    simp [← equal, Nat.add_assoc]
  have positive := List.length_pos_iff.2 nonempty
  omega

/-- A cut is made at an occurrence that no other one comes before. -/
theorem cut?_append {needle front back : Text}
    (clear : ∀ part, part ≠ [] → part <:+ front → ¬ needle <+: part ++ (needle ++ back)) :
    cut? needle (front ++ (needle ++ back)) = some (front, back) := by
  induction front with
  | nil =>
    cases whole : needle ++ back with
    | nil =>
      obtain ⟨rfl, rfl⟩ := List.append_eq_nil_iff.1 whole
      rfl
    | cons c cs => rw [List.nil_append, cut?, ← whole, dropLead?_append]
  | cons c front ih =>
    have noLead := clear (c :: front) (List.cons_ne_nil c front) List.suffix_rfl
    have behind := ih fun part nonempty ends => clear part nonempty (ends.trans (List.suffix_cons c front))
    rw [List.cons_append] at noLead ⊢
    rw [cut?, dropLead?_eq_none_iff.2 noLead, behind]
    rfl

theorem cut?_singleton {mark : Char} {front : Text} (absent : mark ∉ front) (back : Text) :
    cut? [mark] (front ++ mark :: back) = some (front, back) := by
  apply cut?_append
  intro part nonempty ends lead
  obtain ⟨c, cs, rfl⟩ := List.exists_cons_of_ne_nil nonempty
  obtain ⟨rfl, -⟩ := List.cons_prefix_cons.1 lead
  exact absent (ends.subset List.mem_cons_self)

theorem cut?_singleton_eq_none_iff {mark : Char} {t : Text} : cut? [mark] t = none ↔ mark ∉ t :=
  cut?_eq_none_iff.trans (not_congr (List.singleton_infix_iff mark t))

/-- What comes out before a mark does not hold it. -/
theorem cut?_singleton_eq_some_iff {mark : Char} {t before after : Text} :
    cut? [mark] t = some (before, after) ↔ t = before ++ mark :: after ∧ mark ∉ before := by
  constructor
  · intro cut
    have whole := eq_of_cut? cut
    rw [List.append_assoc] at whole
    have first := not_infix_of_cut? (List.cons_ne_nil mark []) cut
    exact ⟨whole, mt (List.singleton_infix_iff mark before).2 first⟩
  · rintro ⟨rfl, absent⟩
    exact cut?_singleton absent after

/-! ## Needles and separators -/

/-- A needle that lacks a character and starts before it ends before it. -/
theorem prefix_append_cons {needle front back : Text} {c : Char} (absent : c ∉ needle)
    (lead : needle <+: front ++ c :: back) : needle <+: front := by
  rcases List.prefix_or_prefix_of_prefix lead (List.prefix_append front (c :: back)) with
    inFront | ⟨beyond, rfl⟩
  · exact inFront
  · -- What reaches beyond the front starts with the character, or with nothing.
    rw [List.prefix_append_right_inj] at lead
    cases beyond with
    | nil => simp
    | cons d beyond =>
      obtain ⟨rfl, -⟩ := List.cons_prefix_cons.1 lead
      simp at absent

/-- A needle that lacks a character occurs on one side of that character. -/
theorem infix_append_cons {needle front back : Text} {c : Char} (absent : c ∉ needle)
    (occurs : needle <:+: front ++ c :: back) : needle <:+: front ∨ needle <:+: back := by
  rcases List.infix_append_iff.1 occurs with inFront | inBack | ⟨left, right, rfl, ends, lead⟩
  · exact .inl inFront
  · cases List.infix_cons_iff.1 inBack with
    | inl lead =>
      -- The needle would have to start with `c`.
      cases needle with
      | nil => exact .inl List.nil_infix
      | cons d needle =>
        obtain ⟨rfl, -⟩ := List.cons_prefix_cons.1 lead
        exact absurd List.mem_cons_self absent
    | inr later => exact .inr later
  · -- The part on the right is empty, because it could only start with `c`.
    cases right with
    | nil => exact .inl (by simpa using ends.isInfix)
    | cons d right =>
      obtain ⟨rfl, -⟩ := List.cons_prefix_cons.1 lead
      simp at absent

theorem infix_of_infix_cons {needle t : Text} {c : Char} (other : needle.head? ≠ some c)
    (nonempty : needle ≠ []) (occurs : needle <:+: c :: t) : needle <:+: t := by
  cases List.infix_cons_iff.1 occurs with
  | inl lead =>
    cases needle with
    | nil => exact absurd rfl nonempty
    | cons d needle =>
      obtain ⟨rfl, -⟩ := List.cons_prefix_cons.1 lead
      simp at other
  | inr later => exact later

theorem infix_append_iff_of_forall {needle front back : Text} (nonempty : needle ≠ [])
    (other : ∀ c ∈ front, needle.head? ≠ some c) :
    needle <:+: front ++ back ↔ needle <:+: back := by
  -- A needle that starts with none of the characters in front starts behind all of them.
  refine ⟨fun occurs => ?_, fun occurs => List.infix_append_of_infix_right occurs⟩
  induction front with
  | nil => exact occurs
  | cons c front ih =>
    exact ih (fun d member => other d (List.mem_cons_of_mem c member))
      (infix_of_infix_cons (other c List.mem_cons_self) nonempty occurs)

end TaskTitles.Text
