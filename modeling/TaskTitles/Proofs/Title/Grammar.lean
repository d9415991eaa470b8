import TaskTitles.Proofs.Title.Descriptions
import TaskTitles.Proofs.Title.Segments

/-!
# Written titles taken apart

A title is written as its description and its segments.  While such a title is taken apart, what is
left of it is always the text of the segments that have not been taken out yet, and each extraction
takes out the longest mark that is left (`IsRegion.exists_extract`).  So the description and the
values come back, in whatever order the segments were written (`Tokens.ofTitle_written`).
-/

namespace TaskTitles.Title

open Text

/-! ## Regions -/

/-- What is left of a title when these segments have not been taken out of it yet: their text, with
    or without the blank in front. -/
def IsLeft (delimiter : Char) (segments : List Segment) (region : Text) : Prop :=
  ∃ skipped ≤ 1, region = (written delimiter segments).drop skipped

theorem isLeft_append (delimiter : Char) (front back : List Segment) :
    IsLeft delimiter (front ++ back)
      ((written delimiter front).drop 1 ++ written delimiter back) := by
  cases front with
  | nil => exact ⟨0, Nat.zero_le 1, rfl⟩
  | cons segment rest => exact ⟨1, Nat.le_refl 1, by simp⟩

section Lefts

variable {delimiter : Char} (visible : isBlank delimiter = false)

include visible

/-- Before a segment of a region stand the segments in front of it, and a blank unless there is
    nothing. -/
theorem IsLeft.split {front back : List Segment} {segment : Segment} {region : Text}
    (isLeft : IsLeft delimiter (front ++ segment :: back) region)
    (valid : ∀ other ∈ front, other.IsValid delimiter) :
    ∃ before, before <:+ written delimiter front ++ [' '] ∧
      strip before = (written delimiter front).drop 1 ∧
      region = before ++ (times segment.mark.size [delimiter] ++
        (segment.value ++ written delimiter back)) := by
  obtain ⟨skipped, atMost, rfl⟩ := isLeft
  have inFront : skipped ≤ (written delimiter front ++ [' ']).length := by simp; omega
  refine ⟨(written delimiter front ++ [' ']).drop skipped, List.drop_suffix _ _, ?_, ?_⟩
  · have core := strip_written visible valid
    rcases Nat.le_one_iff_eq_zero_or_eq_one.1 atMost with rfl | rfl
    · rw [List.drop_zero, strip_append_of_blank (by decide), core]
    · cases front with
      | nil => rfl
      | cons first rest =>
        rw [List.drop_append_of_le_length (by simp), strip_append_of_blank (by decide), ← core,
          strip_strip]
  · rw [← List.drop_append_of_le_length inFront]
    simp [Segment.text]

theorem cut?_mark {front : List Segment} {segment : Segment} {before : Text}
    (inFront : before <:+ written delimiter front ++ [' '])
    (valid : ∀ other ∈ front, other.IsValid delimiter)
    (shorter : ∀ other ∈ front, other.mark.size < segment.mark.size) (after : Text) :
    cut? (times segment.mark.size [delimiter])
      (before ++ (times segment.mark.size [delimiter] ++ after)) = some (before, after) := by
  apply cut?_append
  intro part nonempty ends lead
  rcases List.suffix_concat_iff.1 (ends.trans inFront) with empty | ⟨start, rfl, inWritten⟩
  · exact nonempty empty
  · -- The mark would stand before the blank, where only shorter ones are.
    rw [List.append_assoc] at lead
    have inStart := prefix_append_cons (blank_not_mem_times visible _) lead
    exact not_infix_written visible segment.mark.size_pos valid shorter
      (inStart.isInfix.trans inWritten.isInfix)

theorem extract_segment {front back : List Segment} {segment : Segment} {region : Text}
    (isLeft : IsLeft delimiter (front ++ segment :: back) region)
    (valid : ∀ other ∈ front ++ segment :: back, other.IsValid delimiter)
    (shorter : ∀ other ∈ front, other.mark.size < segment.mark.size) :
    extract (times segment.mark.size [delimiter]) [delimiter] region =
      ((written delimiter front).drop 1 ++ written delimiter back, some segment.value) := by
  have validFront : ∀ other ∈ front, other.IsValid delimiter := fun other member =>
    valid other (List.mem_append_left _ member)
  have validHere := valid segment (List.mem_append_right front List.mem_cons_self)
  obtain ⟨before, inFront, stripped, rfl⟩ := isLeft.split visible validFront
  rw [extract, cut?_mark visible inFront validFront shorter]
  dsimp only
  cases back with
  | nil =>
    have last : cut? [delimiter] segment.value = none :=
      cut?_singleton_eq_none_iff.2 validHere.unmarked
    rw [written_nil, List.append_nil, last, stripped, validHere.stripped, List.append_nil]
  | cons next rest =>
    have noMark : delimiter ∉ segment.value ++ [' '] := by
      simp [validHere.unmarked, ne_space_of_visible visible]
    have behind : segment.value ++ written delimiter (next :: rest) =
        segment.value ++ [' '] ++ delimiter :: (times (next.mark.size - 1) [delimiter]
          ++ next.value ++ written delimiter rest) := by
      simp [Segment.text_eq_cons]
    rw [behind, cut?_singleton noMark]
    dsimp only
    rw [stripped, strip_append_of_blank (by decide), validHere.stripped]
    simp [Segment.text_eq_cons]

end Lefts

/-! ## Extracting values -/

/-- A region in which marks of up to `size` delimiters are left. -/
structure IsRegion (delimiter : Char) (size : Nat) (segments : List Segment) (region : Text) :
    Prop where
  isLeft : IsLeft delimiter segments region
  valid : ∀ segment ∈ segments, segment.IsValid delimiter
  once : ∀ mark ≠ Mark.modifier, (segments.filter (·.mark = mark)).length ≤ 1
  size_le : ∀ segment ∈ segments, segment.mark.size ≤ size

section Regions

variable {delimiter : Char} (visible : isBlank delimiter = false) {mark : Mark}
  {segments : List Segment} {region : Text}

/-- Without the longest mark, only shorter ones are left. -/
theorem IsRegion.size_lt (isRegion : IsRegion delimiter mark.size segments region) :
    ∀ segment ∈ without mark segments, segment.mark.size < mark.size := by
  intro segment member
  obtain ⟨inSegments, other⟩ := mem_without.1 member
  have differ : segment.mark.size ≠ mark.size := fun same => other (Mark.size_injective same)
  exact Nat.lt_of_le_of_ne (isRegion.size_le segment inSegments) differ

theorem IsRegion.descend (isRegion : IsRegion delimiter mark.size segments region) {rest : Text}
    (isLeft : IsLeft delimiter (without mark segments) rest) :
    IsRegion delimiter (mark.size - 1) (without mark segments) rest where
  isLeft := isLeft
  valid segment member := isRegion.valid segment (mem_without.1 member).1
  once other isOther :=
    Nat.le_trans (List.filter_sublist.filter _).length_le (isRegion.once other isOther)
  size_le segment member := Nat.le_pred_of_lt (isRegion.size_lt segment member)

include visible

/-- Extracting the longest mark takes its value out and leaves the other segments. -/
theorem IsRegion.exists_extract (mark : Mark) (isLong : mark ≠ .modifier)
    (isRegion : IsRegion delimiter mark.size segments region) :
    ∃ rest, extract (times mark.size [delimiter]) [delimiter] region =
        (rest, valueOf? mark segments) ∧
      IsRegion delimiter (mark.size - 1) (without mark segments) rest := by
  have shorter := isRegion.size_lt
  cases found : segments.find? (·.mark = mark) with
  | none =>
    have others : without mark segments = segments := without_eq_self (by simpa using found)
    refine ⟨region, ?_, isRegion.descend (by rw [others]; exact isRegion.isLeft)⟩
    rw [others] at shorter
    obtain ⟨skipped, -, text⟩ := isRegion.isLeft
    have absent : ¬ times mark.size [delimiter] <:+: region := by
      rw [text]
      exact fun occurs => not_infix_written visible mark.size_pos isRegion.valid shorter
        (occurs.trans (List.drop_suffix _ _).isInfix)
    rw [extract, cut?_eq_none_iff.2 absent, valueOf?, found]
    rfl
  | some segment =>
    obtain ⟨front, back, split, isMark, others⟩ := exists_split (isRegion.once mark isLong) found
    rw [others] at shorter
    have isLeft : IsLeft delimiter (front ++ segment :: back) region := split ▸ isRegion.isLeft
    have extracted := extract_segment visible isLeft (split ▸ isRegion.valid) fun other member => by
      rw [isMark]
      exact shorter other (List.mem_append_left back member)
    rw [isMark] at extracted
    refine ⟨_, ?_, isRegion.descend (by rw [others]; exact isLeft_append delimiter front back)⟩
    rw [extracted, valueOf?, found]
    rfl

end Regions

/-! ## Modifiers -/

section Modifiers

variable {delimiter : Char}

theorem modifiersOf_of_not_mem {t : Text} (unmarked : delimiter ∉ t) :
    modifiersOf [delimiter] t = if strip t = [] then [] else [strip t] := by
  rw [modifiersOf, splitOn_of_not_mem unmarked]
  by_cases blank : strip t = [] <;> simp [blank]

theorem modifiersOf_append_cons {front : Text} (unmarked : delimiter ∉ front) (back : Text) :
    modifiersOf [delimiter] (front ++ delimiter :: back) =
      modifiersOf [delimiter] front ++ modifiersOf [delimiter] back := by
  rw [modifiersOf, modifiersOf, modifiersOf, splitOn_append_cons unmarked,
    splitOn_of_not_mem unmarked, ← List.filter_append, ← List.map_append]
  rfl

variable (visible : isBlank delimiter = false) {segments : List Segment}
  (valid : ∀ segment ∈ segments, segment.IsValid delimiter)
  (modifiers : ∀ segment ∈ segments, segment.mark = .modifier)

include visible valid modifiers

theorem modifiersOf_written {gap : Text} (unmarked : delimiter ∉ gap) :
    modifiersOf [delimiter] (gap ++ written delimiter segments) =
      modifiersOf [delimiter] gap ++ segments.map (·.value) := by
  induction segments generalizing gap with
  | nil => simp
  | cons segment rest ih =>
    have validHere := valid segment List.mem_cons_self
    have isModifier := modifiers segment List.mem_cons_self
    have later := ih (fun other member => valid other (List.mem_cons_of_mem segment member))
      (fun other member => modifiers other (List.mem_cons_of_mem segment member))
      validHere.unmarked
    have split : gap ++ written delimiter (segment :: rest) =
        gap ++ [' '] ++ delimiter :: (segment.value ++ written delimiter rest) := by
      simp [Segment.text_eq_cons, isModifier, Mark.size, times]
    -- The blank before the delimiter is stripped with what stands before it.
    have gapSpaced : delimiter ∉ gap ++ [' '] := by
      simp [unmarked, ne_space_of_visible visible]
    rw [split, modifiersOf_append_cons gapSpaced, later, modifiersOf_of_not_mem gapSpaced,
      strip_append_of_blank (by decide), ← modifiersOf_of_not_mem unmarked,
      modifiersOf_of_not_mem validHere.unmarked, validHere.stripped,
      if_neg (validHere.nonempty isModifier), List.map_cons]
    rfl

theorem IsLeft.modifiersOf_eq {region : Text} (isLeft : IsLeft delimiter segments region) :
    modifiersOf [delimiter] region = segments.map (·.value) := by
  have whole : modifiersOf [delimiter] ([] ++ written delimiter segments) =
      segments.map (·.value) := modifiersOf_written visible valid modifiers List.not_mem_nil
  obtain ⟨skipped, atMost, rfl⟩ := isLeft
  rcases Nat.le_one_iff_eq_zero_or_eq_one.1 atMost with rfl | rfl
  · exact whole
  · cases segments with
    | nil => rfl
    | cons segment rest =>
      -- The blank in front would only make a piece of its own, and a blank one.
      have noMark : delimiter ∉ [' '] := by simp [ne_space_of_visible visible]
      have noPiece : modifiersOf [delimiter] [' '] = [] := by
        rw [modifiersOf_of_not_mem noMark]
        rfl
      have split : written delimiter (segment :: rest) = [' '] ++ delimiter ::
          (times (segment.mark.size - 1) [delimiter] ++ segment.value ++ written delimiter rest) := by
        simp [Segment.text_eq_cons]
      rw [List.nil_append, split, modifiersOf_append_cons noMark, noPiece] at whole
      rw [split, ← whole]
      exact modifiersOf_append_cons List.not_mem_nil _

end Modifiers

/-! ## Titles -/

theorem cut?_opening {delimiter : Char} (visible : isBlank delimiter = false) {description : Text}
    (isDescription : IsDescription [delimiter] description) (after : Text) :
    cut? (" " ++ [delimiter]) (description ++ ' ' :: delimiter :: after) =
      some (description, after) := by
  apply cut?_append
  intro part nonempty ends lead
  obtain ⟨c, rest, rfl⟩ := List.exists_cons_of_ne_nil nonempty
  obtain ⟨first, behind⟩ := List.cons_prefix_cons.1 (show ' ' :: [delimiter] <+: c :: _ from lead)
  cases rest with
  | nil =>
    have second := (List.cons_prefix_cons.1 (show delimiter :: [] <+: ' ' :: _ from behind)).1
    exact ne_space_of_visible visible second
  | cons d rest =>
    obtain ⟨second, -⟩ := List.cons_prefix_cons.1 (show delimiter :: [] <+: d :: _ from behind)
    subst first second
    have here : opening [delimiter] <+: ' ' :: delimiter :: rest := ⟨rest, rfl⟩
    exact isDescription.unmarked (here.isInfix.trans ends.isInfix)

theorem isRegion_written {delimiter : Char} {segments : List Segment}
    (valid : ∀ segment ∈ segments, segment.IsValid delimiter)
    (once : ∀ mark ≠ Mark.modifier, (segments.filter (·.mark = mark)).length ≤ 1) :
    IsRegion delimiter recurrenceMark segments ((written delimiter segments).drop 1) where
  isLeft := ⟨1, Nat.le_refl 1, rfl⟩
  valid := valid
  once := once
  size_le segment _ := by cases segment.mark <;> decide

section Titles

variable {delimiter : Char} (visible : isBlank delimiter = false)

include visible

theorem Tokens.ofRegion_written {segments : List Segment} {region : Text}
    (isRegion : IsRegion delimiter recurrenceMark segments region) (description : Text) :
    Tokens.ofRegion [delimiter] description region =
      { description
        dueDate := valueOf? .due segments
        startDate := valueOf? .start segments
        recurrence := valueOf? .recurrence segments
        modifiers := modifiersIn segments } := by
  -- Every extraction takes out the longest mark that is left.
  obtain ⟨_, cutRecurrence, isRegion⟩ := isRegion.exists_extract visible .recurrence (by decide)
  obtain ⟨_, cutStart, isRegion⟩ := isRegion.exists_extract visible .start (by decide)
  obtain ⟨_, cutDue, isRegion⟩ := isRegion.exists_extract visible .due (by decide)
  have modifiers : ∀ segment ∈ without .due (without .start (without .recurrence segments)),
      segment.mark = .modifier := by
    intro segment member
    have single := isRegion.size_le segment member
    revert single
    cases segment.mark <;> decide
  have words := isRegion.isLeft.modifiersOf_eq visible isRegion.valid modifiers
  rw [← modifiersIn_eq_map modifiers, modifiersIn_without (by decide),
    modifiersIn_without (by decide), modifiersIn_without (by decide)] at words
  -- Taking out the other values has changed nothing about the ones that come later.
  rw [valueOf?_without (by decide)] at cutStart
  rw [valueOf?_without (by decide), valueOf?_without (by decide)] at cutDue
  simp only [Mark.size] at cutRecurrence cutStart cutDue
  simp only [Tokens.ofRegion, cutRecurrence, cutStart, cutDue, words]

/-- The description and the values of a title are what was written, in any order of segments. -/
theorem Tokens.ofTitle_written {description : Text}
    (isDescription : IsDescription [delimiter] description) {segments : List Segment}
    (valid : ∀ segment ∈ segments, segment.IsValid delimiter)
    (once : ∀ mark ≠ Mark.modifier, (segments.filter (·.mark = mark)).length ≤ 1) :
    Tokens.ofTitle [delimiter] (description ++ written delimiter segments) =
      { description
        dueDate := valueOf? .due segments
        startDate := valueOf? .start segments
        recurrence := valueOf? .recurrence segments
        modifiers := modifiersIn segments } := by
  have isRegion := isRegion_written valid once
  cases split : segments with
  | nil =>
    rw [written_nil, List.append_nil, Tokens.ofTitle_unmarked isDescription.unmarked,
      isDescription.stripped]
    rfl
  | cons segment rest =>
    have opened : written delimiter segments = ' ' :: delimiter ::
        (times (segment.mark.size - 1) [delimiter] ++ segment.value ++ written delimiter rest) := by
      simp [split, Segment.text_eq_cons]
    have stripped := strip_written visible valid
    rw [← split, Tokens.ofTitle, opened, cut?_opening visible isDescription]
    rw [opened, strip_cons_of_blank (by decide), List.drop_one, List.tail_cons] at stripped
    rw [opened, List.drop_one, List.tail_cons] at isRegion
    dsimp only
    rw [List.singleton_append, stripped, isDescription.stripped]
    exact Tokens.ofRegion_written visible isRegion description

end Titles

/-- Three empty values and a modifier of two words, with the longest mark in the middle. -/
theorem Tokens.ofTitle_written_empty_values :
    Tokens.ofTitle ['/'] "Fly to the moon // //// /sdk handover ///" =
      { description := "Fly to the moon"
        dueDate := some []
        startDate := some []
        recurrence := some []
        modifiers := ["sdk handover"] } := by
  have isDescription : IsDescription ['/'] "Fly to the moon" :=
    ⟨rfl, occursIn_eq_false_iff.1 (by decide)⟩
  have valid : ∀ segment ∈ [(⟨.due, []⟩ : Segment), ⟨.recurrence, []⟩, ⟨.modifier, "sdk handover"⟩,
      ⟨.start, []⟩], segment.IsValid '/' := by decide
  exact Tokens.ofTitle_written (by decide) isDescription valid fun mark _ => by cases mark <;> decide

end TaskTitles.Title
