import TaskTitles.Proofs.Text.Pieces
import TaskTitles.Title.Tokens

/-!
# Segments of titles

A segment is a value with its mark, and segments are written with a blank before each (`written`).
Where every value is valid, the written text ends visibly and holds no mark of more delimiters than
its own segments have (`not_infix_written`).
-/

namespace TaskTitles.Title

open Text

/-! ## Segments -/

inductive Mark where
  | modifier
  | due
  | start
  | recurrence
  deriving Repr, DecidableEq

/-- How many delimiters make the mark. -/
def Mark.size : Mark → Nat
  | modifier => 1
  | due => dueMark
  | start => startMark
  | recurrence => recurrenceMark

theorem Mark.size_pos (mark : Mark) : 0 < mark.size := by
  cases mark <;> decide

theorem Mark.size_injective {mark other : Mark} (same : mark.size = other.size) : mark = other := by
  revert same
  cases mark <;> cases other <;> decide

/-- A value with its mark. -/
structure Segment where
  mark : Mark
  value : Text
  deriving Repr, DecidableEq

def Segment.text (delimiter : Char) (segment : Segment) : Text :=
  times segment.mark.size [delimiter] ++ segment.value

/-- The value is stripped and holds no delimiter, and a modifier is not empty. -/
structure Segment.IsValid (delimiter : Char) (segment : Segment) : Prop where
  stripped : strip segment.value = segment.value
  unmarked : delimiter ∉ segment.value
  nonempty : segment.mark = .modifier → segment.value ≠ []

instance (delimiter : Char) (segment : Segment) : Decidable (segment.IsValid delimiter) :=
  decidable_of_iff (strip segment.value = segment.value ∧ delimiter ∉ segment.value ∧
      (segment.mark = .modifier → segment.value ≠ []))
    ⟨fun ⟨stripped, unmarked, nonempty⟩ => ⟨stripped, unmarked, nonempty⟩,
      fun valid => ⟨valid.stripped, valid.unmarked, valid.nonempty⟩⟩

/-- The segments as they stand behind a description, a blank before each. -/
def written (delimiter : Char) (segments : List Segment) : Text :=
  segments.flatMap fun segment => ' ' :: segment.text delimiter

/-- The value with the mark; the first one, if the mark is repeated. -/
def valueOf? (mark : Mark) (segments : List Segment) : Option Text :=
  (segments.find? (·.mark = mark)).map (·.value)

/-- The modifiers in their written order. -/
def modifiersIn (segments : List Segment) : List Text :=
  (segments.filter (·.mark = .modifier)).map (·.value)

/-- The segments that are left when those of a mark are taken out. -/
def without (mark : Mark) (segments : List Segment) : List Segment :=
  segments.filter (·.mark ≠ mark)

theorem mem_without {mark : Mark} {segments : List Segment} {segment : Segment} :
    segment ∈ without mark segments ↔ segment ∈ segments ∧ segment.mark ≠ mark := by
  simp [without]

theorem without_eq_self {mark : Mark} {segments : List Segment}
    (others : ∀ segment ∈ segments, segment.mark ≠ mark) : without mark segments = segments :=
  List.filter_eq_self.2 fun segment member => by simpa using others segment member

theorem without_append (mark : Mark) (front back : List Segment) :
    without mark (front ++ back) = without mark front ++ without mark back :=
  List.filter_append ..

theorem without_cons_self {mark : Mark} {segment : Segment} (isMark : segment.mark = mark)
    (rest : List Segment) : without mark (segment :: rest) = without mark rest := by
  simp [without, isMark]

/-- A mark that is made once stands between the segments of other marks. -/
theorem exists_split {mark : Mark} {segments : List Segment} {segment : Segment}
    (once : (segments.filter (·.mark = mark)).length ≤ 1)
    (found : segments.find? (·.mark = mark) = some segment) :
    ∃ front back, segments = front ++ segment :: back ∧ segment.mark = mark ∧
      without mark segments = front ++ back := by
  obtain ⟨isMark, front, back, rfl, inFront⟩ := List.find?_eq_some_iff_append.1 found
  have isMark : segment.mark = mark := by simpa using isMark
  have frontOthers : without mark front = front := without_eq_self (by simpa using inFront)
  -- A second segment of the mark would be one too many.
  have backOthers : without mark back = back := by
    apply without_eq_self
    intro other member same
    have twice : 0 < (back.filter (·.mark = mark)).length :=
      List.length_pos_of_mem (List.mem_filter.2 ⟨member, by simpa using same⟩)
    simp [isMark] at once
    omega
  refine ⟨front, back, rfl, isMark, ?_⟩
  rw [without_append, without_cons_self isMark, frontOthers, backOthers]

theorem valueOf?_without {mark other : Mark} (differ : mark ≠ other) (segments : List Segment) :
    valueOf? mark (without other segments) = valueOf? mark segments := by
  rw [valueOf?, valueOf?, without, List.find?_filter]
  congr 2
  funext segment
  by_cases same : segment.mark = mark <;> simp [same, differ]

theorem modifiersIn_without {mark : Mark} (differ : mark ≠ .modifier) (segments : List Segment) :
    modifiersIn (without mark segments) = modifiersIn segments := by
  rw [modifiersIn, modifiersIn, without, List.filter_filter]
  congr 2
  funext segment
  by_cases same : segment.mark = .modifier <;> simp [same, differ.symm]

theorem modifiersIn_eq_map {segments : List Segment}
    (modifiers : ∀ segment ∈ segments, segment.mark = .modifier) :
    modifiersIn segments = segments.map (·.value) := by
  rw [modifiersIn, List.filter_eq_self.2 fun segment member => by simpa using modifiers segment member]

/-! ## The text of segments -/

@[simp] theorem written_nil (delimiter : Char) : written delimiter [] = [] := rfl

@[simp] theorem written_cons (delimiter : Char) (segment : Segment) (rest : List Segment) :
    written delimiter (segment :: rest) =
      ' ' :: (segment.text delimiter ++ written delimiter rest) := rfl

@[simp] theorem written_append (delimiter : Char) (front back : List Segment) :
    written delimiter (front ++ back) = written delimiter front ++ written delimiter back :=
  List.flatMap_append

theorem Segment.text_eq_cons (delimiter : Char) (segment : Segment) :
    segment.text delimiter =
      delimiter :: (times (segment.mark.size - 1) [delimiter] ++ segment.value) := by
  obtain ⟨mark, value⟩ := segment
  cases mark <;> rfl

section Texts

variable {delimiter : Char} (visible : isBlank delimiter = false)

include visible

theorem visible_times (n : Nat) : ∀ c ∈ times n [delimiter], isBlank c = false := by
  intro c member
  rw [times_singleton] at member
  rw [List.eq_of_mem_replicate member]
  exact visible

theorem blank_not_mem_times (n : Nat) : ' ' ∉ times n [delimiter] :=
  not_mem_times (ne_space_of_visible visible).symm n

theorem Segment.IsValid.endsVisible {segment : Segment} (valid : segment.IsValid delimiter) :
    EndsVisible (segment.text delimiter) :=
  (endsVisible_of_forall (visible_times visible _)).append (strip_eq_self_iff.1 valid.stripped).2

theorem endsVisible_written {segments : List Segment}
    (valid : ∀ segment ∈ segments, segment.IsValid delimiter) :
    EndsVisible (written delimiter segments) := by
  induction segments with
  | nil => simp [EndsVisible]
  | cons segment rest ih =>
    have first := (valid segment List.mem_cons_self).endsVisible visible
    have later := ih fun other member => valid other (List.mem_cons_of_mem segment member)
    have nonempty : segment.text delimiter ≠ [] := by simp [Segment.text_eq_cons]
    exact (first.prepend nonempty [' ']).append later

theorem strip_written {segments : List Segment}
    (valid : ∀ segment ∈ segments, segment.IsValid delimiter) :
    strip (written delimiter segments) = (written delimiter segments).drop 1 := by
  cases segments with
  | nil => rfl
  | cons segment rest =>
    have ends := endsVisible_written visible valid
    rw [written_cons, ← List.singleton_append] at ends
    rw [written_cons, strip_cons_of_blank (by decide), List.drop_one, List.tail_cons]
    refine strip_eq_self_iff.2 ⟨?_, ends.of_append⟩
    intro c first
    rw [Segment.text_eq_cons, List.cons_append, List.head?_cons, Option.mem_some_iff] at first
    rw [← first]
    exact visible

omit visible in
theorem not_infix_text {n : Nat} {segment : Segment} (valid : segment.IsValid delimiter)
    (shorter : segment.mark.size < n) : ¬ times n [delimiter] <:+: segment.text delimiter := by
  intro occurs
  have many := occurs.sublist.count_le delimiter
  rw [Segment.text, List.count_append, List.count_eq_zero_of_not_mem valid.unmarked,
    times_singleton, times_singleton, List.count_replicate_self, List.count_replicate_self] at many
  omega

/-- Marks of fewer delimiters do not make up a longer one. -/
theorem not_infix_written {n : Nat} {segments : List Segment} (positive : 0 < n)
    (valid : ∀ segment ∈ segments, segment.IsValid delimiter)
    (shorter : ∀ segment ∈ segments, segment.mark.size < n) :
    ¬ times n [delimiter] <:+: written delimiter segments := by
  have noBlank := blank_not_mem_times visible n
  have nonempty : times n [delimiter] ≠ [] := by
    rw [times_singleton]
    exact List.ne_nil_of_length_pos (by simpa using positive)
  induction segments with
  | nil => exact fun occurs => nonempty (List.infix_nil.1 occurs)
  | cons segment rest ih =>
    have later := ih (fun other member => valid other (List.mem_cons_of_mem segment member))
      fun other member => shorter other (List.mem_cons_of_mem segment member)
    have here := not_infix_text (valid segment List.mem_cons_self)
      (shorter segment List.mem_cons_self)
    intro occurs
    have behind : times n [delimiter] <:+: segment.text delimiter ++ written delimiter rest := by
      refine infix_of_infix_cons (fun first => noBlank (List.mem_of_head? first)) nonempty occurs
    -- The blank before the next segment keeps the two apart.
    cases rest with
    | nil => exact here (by simpa using behind)
    | cons next rest =>
      cases infix_append_cons noBlank behind with
      | inl inText => exact here inText
      | inr inRest => exact later (List.infix_cons inRest)

end Texts

end TaskTitles.Title
