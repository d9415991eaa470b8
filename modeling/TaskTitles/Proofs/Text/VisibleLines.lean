import TaskTitles.Proofs.Text.Lines

/-!
# Visible lines

The visible lines of a text are its lines, stripped, without the blank ones.  They are split at every
line break (`visibleLines_append_break`), and a text without line breaks is at most one of them
(`visibleLines_unbroken`).  With these two equations, stripping a text is shown to change none of its
visible lines (`visibleLines_strip`).
-/

namespace TaskTitles.Text

/-- The lines in which something can be seen, each one stripped. -/
def visibleLines (t : Text) : List Text := ((lines t).map strip).filter (· ≠ [])

@[simp] theorem visibleLines_nil : visibleLines [] = [] := rfl

theorem mem_visibleLines {line t : Text} :
    line ∈ visibleLines t ↔ line ≠ [] ∧ ∃ whole ∈ lines t, strip whole = line := by
  simp [visibleLines, and_comm]

theorem visibleLines_unbroken {t : Text} (unbroken : Unbroken t) :
    visibleLines t = if strip t = [] then [] else [strip t] := by
  by_cases empty : t = []
  · simp [empty]
  · by_cases blank : strip t = [] <;> simp [visibleLines, lines_unbroken empty unbroken, blank]

/-! ## Line breaks -/

/-- What holds of texts without line breaks, and of two texts with a line break between them if it
    holds of both, holds of every text. -/
theorem break_induction {motive : Text → Prop} (unbroken : ∀ t, Unbroken t → motive t)
    (join : ∀ front c back, isBreak c = true → motive front → motive back →
      motive (front ++ c :: back)) (t : Text) : motive t := by
  by_cases whole : Unbroken t
  · exact unbroken t whole
  · simp only [Unbroken, not_forall, Bool.not_eq_false] at whole
    obtain ⟨c, member, isBreakChar⟩ := whole
    obtain ⟨front, back, rfl⟩ := List.append_of_mem member
    exact join front c back isBreakChar (break_induction unbroken join front)
      (break_induction unbroken join back)
termination_by t.length
decreasing_by
  all_goals
    subst_vars
    simp only [List.length_append, List.length_cons]
    omega

theorem visibleLines_of_lines_eq {t line back : Text} (unbroken : Unbroken line)
    (split : lines t = line :: lines back) :
    visibleLines t = visibleLines line ++ visibleLines back := by
  rw [visibleLines_unbroken unbroken, visibleLines, split]
  by_cases blank : strip line = [] <;> simp [visibleLines, blank]

theorem visibleLines_newline (t : Text) : visibleLines ('\n' :: t) = visibleLines t := by
  simp [visibleLines]

theorem visibleLines_break {front : Text} (unbroken : Unbroken front) {c : Char}
    (isBreakChar : isBreak c = true) (back : Text) :
    visibleLines (front ++ c :: back) = visibleLines front ++ visibleLines back := by
  by_cases pair : c = '\r' ∧ back.head? = some '\n'
  · -- The line feed belongs to the line end, and on its own it would only open a blank line.
    obtain ⟨rfl, first⟩ := pair
    obtain ⟨more, rfl⟩ := List.head?_eq_some_iff.1 first
    have opened : lines ('\r' :: '\n' :: more) = [] :: lines more := by rw [lines]
    rw [visibleLines_newline]
    exact visibleLines_of_lines_eq unbroken (lines_append unbroken opened)
  · exact visibleLines_of_lines_eq unbroken (lines_append unbroken (lines_break isBreakChar pair))

/-- A line break parts the visible lines before it from those behind it. -/
theorem visibleLines_append_break {c : Char} (isBreakChar : isBreak c = true) (front back : Text) :
    visibleLines (front ++ c :: back) = visibleLines front ++ visibleLines back := by
  induction front using break_induction generalizing c back with
  | unbroken front unbroken => exact visibleLines_break unbroken isBreakChar back
  | join front d middle isBreakMiddle ihFront ihMiddle =>
    rw [List.append_assoc, List.cons_append, ihFront isBreakMiddle, ihMiddle isBreakChar,
      ihFront isBreakMiddle, List.append_assoc]

theorem flatMap_visibleLines {pieces : List Text} (unbroken : ∀ piece ∈ pieces, Unbroken piece) :
    pieces.flatMap visibleLines = (pieces.map strip).filter (· ≠ []) := by
  induction pieces with
  | nil => rfl
  | cons piece rest ih =>
    obtain ⟨here, later⟩ := List.forall_mem_cons.1 unbroken
    rw [List.flatMap_cons, visibleLines_unbroken here, ih later]
    by_cases blank : strip piece = [] <;> simp [blank]

theorem visibleLines_eq_flatMap (t : Text) : visibleLines t = (lines t).flatMap visibleLines :=
  (flatMap_visibleLines fun _ member => (mem_lines member).1).symm

/-! ## Stripping -/

theorem visibleLines_cons_of_blank {c : Char} (blank : isBlank c = true) (t : Text) :
    visibleLines (c :: t) = visibleLines t := by
  by_cases isBreakChar : isBreak c = true
  · exact visibleLines_append_break isBreakChar [] t
  · -- The blank belongs to the first line, which is stripped.
    induction t using break_induction with
    | unbroken t unbroken =>
      have longer : Unbroken (c :: t) :=
        List.forall_mem_cons.2 ⟨by simpa using isBreakChar, unbroken⟩
      rw [visibleLines_unbroken longer, visibleLines_unbroken unbroken, strip_cons_of_blank blank]
    | join front d back isBreakMiddle ihFront ihBack =>
      rw [← List.cons_append, visibleLines_append_break isBreakMiddle, ihFront,
        visibleLines_append_break isBreakMiddle]

theorem visibleLines_append_of_blank {c : Char} (blank : isBlank c = true) (t : Text) :
    visibleLines (t ++ [c]) = visibleLines t := by
  by_cases isBreakChar : isBreak c = true
  · rw [visibleLines_append_break isBreakChar, visibleLines_nil, List.append_nil]
  · -- The blank belongs to the last line, which is stripped.
    induction t using break_induction with
    | unbroken t unbroken =>
      have longer : Unbroken (t ++ [c]) :=
        unbroken.append (List.forall_mem_singleton.2 (by simpa using isBreakChar))
      rw [visibleLines_unbroken longer, visibleLines_unbroken unbroken, strip_append_of_blank blank]
    | join front d back isBreakMiddle ihFront ihBack =>
      rw [List.append_assoc, List.cons_append, visibleLines_append_break isBreakMiddle, ihBack,
        visibleLines_append_break isBreakMiddle]

theorem visibleLines_stripStart (t : Text) : visibleLines (stripStart t) = visibleLines t := by
  induction t with
  | nil => rfl
  | cons c cs ih =>
    by_cases blank : isBlank c = true
    · have dropped : stripStart (c :: cs) = stripStart cs := by simp [stripStart, blank]
      rw [dropped, ih, visibleLines_cons_of_blank blank]
    · rw [stripStart_of_not_blank (by simpa using blank)]

theorem visibleLines_stripEnd (t : Text) : visibleLines (stripEnd t) = visibleLines t := by
  induction t using List.reverseRecOn with
  | nil => rfl
  | append_singleton t c ih =>
    by_cases blank : isBlank c = true
    · rw [stripEnd_append_of_blank blank, ih, visibleLines_append_of_blank blank]
    · have kept : stripEnd (t ++ [c]) = t ++ [c] := by
        simp [stripEnd_eq_reverse, stripStart, blank]
      rw [kept]

/-- Stripping a text takes away blanks and blank lines only. -/
theorem visibleLines_strip (t : Text) : visibleLines (strip t) = visibleLines t := by
  rw [strip, visibleLines_stripEnd, visibleLines_stripStart]

/-! ## Lengths -/

/-- Between any two lines there is at least one character. -/
theorem length_flatMap_lines_le (t : Text) :
    ((lines t).flatMap fun line => line ++ ['\n']).length ≤ t.length + 1 := by
  induction t using lines_induction with
  | nil => simp
  | last line _ _ => simp
  | step line gap rest _ lineEnd ih =>
    have positive := List.length_pos_iff.2 lineEnd.ne_nil
    simp only [List.flatMap_cons, List.length_append, List.length_singleton]
    omega

end TaskTitles.Text
