import Mathlib.Data.List.Induction
import TaskTitles.Proofs.Text.Search
import TaskTitles.Text.Blank

/-!
# Visible ends

A text is its own stripped form exactly when both its ends are visible (`strip_eq_self_iff`).  A
needle with visible ends occurs in a text exactly when it occurs in the stripped text
(`infix_strip_iff`).
-/

namespace TaskTitles.Text

/-- The text is empty or its first character is visible. -/
def StartsVisible (t : Text) : Prop := ∀ c ∈ t.head?, isBlank c = false

/-- The text is empty or its last character is visible. -/
def EndsVisible (t : Text) : Prop := ∀ c ∈ t.getLast?, isBlank c = false

instance (t : Text) : Decidable (StartsVisible t) := Option.decidableForallMem t.head?

instance (t : Text) : Decidable (EndsVisible t) := Option.decidableForallMem t.getLast?

theorem ne_space_of_visible {c : Char} (visible : isBlank c = false) : c ≠ ' ' := by
  rintro rfl
  exact absurd visible (by decide)

/-! ## Stripping keeps a piece -/

theorem stripEnd_eq_reverse (t : Text) : stripEnd t = (stripStart t.reverse).reverse := by
  induction t with
  | nil => rfl
  | cons c cs ih =>
    rw [List.reverse_cons, stripStart, List.dropWhile_append, ← stripStart]
    -- The first character is dropped, from either side, only if nothing visible follows it.
    by_cases nothing : stripEnd cs = []
    · have before : stripStart cs.reverse = [] := by simpa [ih] using nothing
      rw [if_pos (List.isEmpty_iff.2 before), stripEnd]
      by_cases blank : isBlank c = true
      · simp [nothing, blank]
      · simp [nothing, blank]
    · have before : stripStart cs.reverse ≠ [] := by simpa [ih] using nothing
      rw [if_neg (mt List.isEmpty_iff.1 before), stripEnd_cons_of_ne_nil c nothing, ih]
      simp

theorem stripStart_suffix (t : Text) : stripStart t <:+ t := List.dropWhile_suffix isBlank

theorem stripEnd_isPrefix (t : Text) : stripEnd t <+: t := by
  rw [stripEnd_eq_reverse, ← List.reverse_suffix, List.reverse_reverse]
  exact stripStart_suffix t.reverse

/-- What is stripped off a text in front is blank. -/
theorem exists_blanks_stripStart (t : Text) :
    ∃ blanks, t = blanks ++ stripStart t ∧ ∀ c ∈ blanks, isBlank c = true :=
  ⟨t.takeWhile isBlank, List.takeWhile_append_dropWhile.symm, List.all_eq_true.1 List.all_takeWhile⟩

theorem exists_blanks_stripEnd (t : Text) :
    ∃ blanks, t = stripEnd t ++ blanks ∧ ∀ c ∈ blanks, isBlank c = true := by
  obtain ⟨blanks, whole, blank⟩ := exists_blanks_stripStart t.reverse
  refine ⟨blanks.reverse, ?_, fun c member => blank c (List.mem_reverse.1 member)⟩
  rw [stripEnd_eq_reverse, ← List.reverse_append, ← whole, List.reverse_reverse]

theorem strip_isInfix (t : Text) : strip t <:+: t :=
  (stripEnd_isPrefix _).isInfix.trans (stripStart_suffix t).isInfix

theorem length_strip_le (t : Text) : (strip t).length ≤ t.length := (strip_isInfix t).length_le

/-! ## Visible ends -/

theorem StartsVisible.mono {front t : Text} (visible : StartsVisible t) (lead : front <+: t) :
    StartsVisible front := by
  intro c first
  cases front with
  | nil => cases first
  | cons d front =>
    obtain ⟨rest, rfl⟩ := lead
    exact visible c (by simpa using first)

theorem StartsVisible.append {front : Text} (visible : StartsVisible front) (nonempty : front ≠ [])
    (back : Text) : StartsVisible (front ++ back) := by
  obtain ⟨c, cs, rfl⟩ := List.exists_cons_of_ne_nil nonempty
  intro d first
  exact visible d (by simpa using first)

theorem startsVisible_of_forall {t : Text} (visible : ∀ c ∈ t, isBlank c = false) :
    StartsVisible t := fun c first => visible c (List.mem_of_head? first)

theorem endsVisible_of_forall {t : Text} (visible : ∀ c ∈ t, isBlank c = false) : EndsVisible t :=
  fun c last => visible c (List.mem_of_getLast? last)

theorem EndsVisible.append {front back : Text} (frontEnds : EndsVisible front)
    (backEnds : EndsVisible back) : EndsVisible (front ++ back) := by
  intro c last
  rw [List.getLast?_append, Option.mem_def, Option.or_eq_some_iff] at last
  rcases last with inBack | ⟨-, inFront⟩
  · exact backEnds c inBack
  · exact frontEnds c inFront

theorem EndsVisible.prepend {back : Text} (ends : EndsVisible back) (nonempty : back ≠ [])
    (front : Text) : EndsVisible (front ++ back) := by
  intro c last
  rw [List.getLast?_append, List.getLast?_eq_some_getLast nonempty, Option.some_or] at last
  exact ends c (by rwa [List.getLast?_eq_some_getLast nonempty])

theorem EndsVisible.of_append {front back : Text} (ends : EndsVisible (front ++ back)) :
    EndsVisible back := by
  intro c last
  apply ends c
  rw [List.getLast?_append, Option.mem_def.1 last]
  rfl

theorem startsVisible_stripStart (t : Text) : StartsVisible (stripStart t) := by
  intro c first
  rcases stripStart_cases t with empty | ⟨d, ds, whole, visible⟩
  · simp [empty] at first
  · rw [whole, List.head?_cons, Option.mem_some_iff] at first
    rwa [← first]

theorem endsVisible_reverse {t : Text} : EndsVisible t.reverse ↔ StartsVisible t := by
  simp [EndsVisible, StartsVisible]

theorem endsVisible_stripEnd (t : Text) : EndsVisible (stripEnd t) := by
  rw [stripEnd_eq_reverse, endsVisible_reverse]
  exact startsVisible_stripStart _

theorem startsVisible_strip (t : Text) : StartsVisible (strip t) :=
  (startsVisible_stripStart t).mono (stripEnd_isPrefix _)

theorem endsVisible_strip (t : Text) : EndsVisible (strip t) := endsVisible_stripEnd _

theorem stripStart_eq_self {t : Text} (visible : StartsVisible t) : stripStart t = t := by
  cases t with
  | nil => rfl
  | cons c cs => exact stripStart_of_not_blank (visible c rfl) cs

theorem stripEnd_append {front : Text} (visible : EndsVisible front) (back : Text) :
    stripEnd (front ++ back) = front ++ stripEnd back := by
  induction front with
  | nil => rfl
  | cons c front ih =>
    -- Behind a longer text something is left of its end, so that the first character stays.
    cases front with
    | nil => exact stripEnd_cons_of_not_blank (visible c rfl) back
    | cons d front =>
      have inner := ih fun e last => visible e (by simpa using last)
      have nonempty : stripEnd (d :: front ++ back) ≠ [] := by
        rw [inner]
        exact List.cons_ne_nil d _
      rw [List.cons_append, stripEnd_cons_of_ne_nil c nonempty, inner]
      rfl

theorem strip_append {front : Text} (nonempty : front ≠ []) (starts : StartsVisible front)
    (ends : EndsVisible front) (back : Text) : strip (front ++ back) = front ++ stripEnd back := by
  rw [strip, stripStart_eq_self (starts.append nonempty back), stripEnd_append ends]

theorem strip_cons_of_blank {c : Char} (blank : isBlank c = true) (t : Text) :
    strip (c :: t) = strip t := by
  simp [strip, stripStart, blank]

theorem stripEnd_append_of_blank {c : Char} (blank : isBlank c = true) (t : Text) :
    stripEnd (t ++ [c]) = stripEnd t := by
  simp [stripEnd_eq_reverse, stripStart, blank]

theorem strip_append_of_blank {c : Char} (blank : isBlank c = true) (t : Text) :
    strip (t ++ [c]) = strip t := by
  rw [strip, strip, stripStart, stripStart, List.dropWhile_append]
  -- Where nothing but blanks stands in front, the last one goes with them.
  split
  · next nothing => simp [List.isEmpty_iff.1 nothing, blank]
  · exact stripEnd_append_of_blank blank _

/-- White space around a text is stripped off with its own. -/
theorem strip_surrounded {before after : Text} (blankBefore : ∀ c ∈ before, isBlank c = true)
    (blankAfter : ∀ c ∈ after, isBlank c = true) (t : Text) :
    strip (before ++ t ++ after) = strip t := by
  have behind : strip (t ++ after) = strip t := by
    induction after using List.reverseRecOn with
    | nil => rw [List.append_nil]
    | append_singleton front c ih =>
      obtain ⟨blankFront, blankLast⟩ := List.forall_mem_append.1 blankAfter
      rw [← List.append_assoc, strip_append_of_blank (blankLast c List.mem_cons_self), ih blankFront]
  rw [List.append_assoc, ← behind]
  clear behind
  induction before with
  | nil => rfl
  | cons c cs ih =>
    obtain ⟨blankFirst, blankRest⟩ := List.forall_mem_cons.1 blankBefore
    rw [List.cons_append, strip_cons_of_blank blankFirst, ih blankRest]

theorem strip_eq_self_iff {t : Text} : strip t = t ↔ StartsVisible t ∧ EndsVisible t := by
  constructor
  · intro trimmed
    rw [← trimmed]
    exact ⟨startsVisible_strip t, endsVisible_strip t⟩
  · rintro ⟨starts, ends⟩
    cases t with
    | nil => rfl
    | cons c cs => simpa using strip_append (List.cons_ne_nil c cs) starts ends []

/-! ## Occurrences in stripped texts -/

theorem infix_stripStart {needle t : Text} (starts : StartsVisible needle) (occurs : needle <:+: t) :
    needle <:+: stripStart t := by
  induction t with
  | nil => simpa using occurs
  | cons c cs ih =>
    by_cases blank : isBlank c = true
    · by_cases nonempty : needle = []
      · simp [nonempty]
      · -- A needle that starts visibly does not start with the blank that is dropped.
        have other : needle.head? ≠ some c := fun first => by
          simp [starts c first] at blank
        have behind := ih (infix_of_infix_cons other nonempty occurs)
        simpa [stripStart, blank] using behind
    · rwa [stripStart_of_not_blank (by simpa using blank)]

theorem infix_stripEnd {needle t : Text} (ends : EndsVisible needle) (occurs : needle <:+: t) :
    needle <:+: stripEnd t := by
  rw [stripEnd_eq_reverse, ← List.reverse_infix, List.reverse_reverse]
  exact infix_stripStart (endsVisible_reverse.1 (by simpa using ends)) (List.reverse_infix.2 occurs)

/-- Stripping a text neither hides nor reveals a needle with visible ends. -/
theorem infix_strip_iff {needle t : Text} (starts : StartsVisible needle)
    (ends : EndsVisible needle) : needle <:+: strip t ↔ needle <:+: t :=
  ⟨fun occurs => occurs.trans (strip_isInfix t),
    fun occurs => infix_stripEnd ends (infix_stripStart starts occurs)⟩

theorem infix_strip_iff_of_forall {needle t : Text} (visible : ∀ c ∈ needle, isBlank c = false) :
    needle <:+: strip t ↔ needle <:+: t :=
  infix_strip_iff (startsVisible_of_forall visible) (endsVisible_of_forall visible)

end TaskTitles.Text
