import TaskTitles.Proofs.Title.Descriptions
import TaskTitles.Proofs.Title.Segments

/-!
# Clean tokens

Whatever a title looks like, its values are cut off at delimiters and stripped, so that each of them
could be written as a segment (`Tokens.isClean_ofTitle`), and a modifier that becomes the due date
is as good a value as before.  The description is taken apart for good: a second time nothing more
is found in it (`Tokens.isClean_and_settled`).
-/

namespace TaskTitles.Title

open Text

/-- The description holds no mark, and the values can be written as segments. -/
structure Tokens.IsClean (delimiter : Char) (tokens : Tokens) : Prop where
  isDescription : IsDescription [delimiter] tokens.description
  dueDate : ∀ value ∈ tokens.dueDate, (Segment.mk .due value).IsValid delimiter
  startDate : ∀ value ∈ tokens.startDate, (Segment.mk .start value).IsValid delimiter
  recurrence : ∀ value ∈ tokens.recurrence, (Segment.mk .recurrence value).IsValid delimiter
  modifiers : ∀ word ∈ tokens.modifiers, (Segment.mk .modifier word).IsValid delimiter

/-- Taking the description apart again leaves it whole, whatever counts as a date. -/
def Tokens.IsSettled (delimiter : Char) (tokens : Tokens) : Prop :=
  Tokens.ofTitle [delimiter] tokens.description = { description := tokens.description } ∧
    ∀ (ε : Type) (isDate : Text → Except ε Bool),
      (Tokens.ofTitle [delimiter] tokens.description).withDueModifier isDate =
        .ok { description := tokens.description }

section Values

variable {delimiter : Char}

/-! ## Values -/

theorem isValid_strip {t : Text} (unmarked : delimiter ∉ t) {mark : Mark}
    (nonempty : mark = .modifier → strip t ≠ []) :
    (Segment.mk mark (strip t)).IsValid delimiter where
  stripped := strip_strip t
  unmarked := fun member => unmarked ((strip_isInfix t).subset member)
  nonempty := nonempty

/-- A value that is cut out of a region reaches to a delimiter and does not hold one. -/
theorem isValid_of_extract {marker region : Text} {mark : Mark} (isValue : mark ≠ .modifier) :
    ∀ value ∈ (extract marker [delimiter] region).2, (Segment.mk mark value).IsValid delimiter := by
  have isValid {piece : Text} (unmarked : delimiter ∉ piece) :
      (Segment.mk mark (strip piece)).IsValid delimiter :=
    isValid_strip unmarked fun same => absurd same isValue
  intro value found
  rw [extract] at found
  cases cut : cut? marker region with
  | none => simp [cut] at found
  | some sides =>
    obtain ⟨before, after⟩ := sides
    cases next : cut? [delimiter] after with
    | none =>
      simp only [cut, next, Option.mem_some_iff] at found
      rw [← found]
      exact isValid (cut?_singleton_eq_none_iff.1 next)
    | some sides =>
      obtain ⟨piece, rest⟩ := sides
      simp only [cut, next, Option.mem_some_iff] at found
      rw [← found]
      exact isValid (cut?_singleton_eq_some_iff.1 next).2

theorem isValid_of_mem_modifiersOf {region : Text} :
    ∀ word ∈ modifiersOf [delimiter] region, (Segment.mk .modifier word).IsValid delimiter := by
  intro word member
  obtain ⟨inPieces, nonempty⟩ := List.mem_filter.1 member
  obtain ⟨piece, isPiece, rfl⟩ := List.mem_map.1 inPieces
  exact isValid_strip (not_mem_of_mem_splitOn isPiece) fun _ => by simpa using nonempty

/-! ## Tokens -/

theorem Tokens.isClean_alone {description : Text}
    (isDescription : IsDescription [delimiter] description) :
    ({ description } : Tokens).IsClean delimiter where
  isDescription := isDescription
  dueDate value present := absurd present (Option.not_mem_none value)
  startDate value present := absurd present (Option.not_mem_none value)
  recurrence value present := absurd present (Option.not_mem_none value)
  modifiers := List.forall_mem_nil _

theorem Tokens.isClean_ofTitle (title : Text) :
    (Tokens.ofTitle [delimiter] title).IsClean delimiter := by
  have description := (Tokens.description_ofTitle [delimiter] title).1
  rw [Tokens.ofTitle] at description ⊢
  cases cut : cut? (" " ++ [delimiter]) title with
  | none =>
    rw [cut] at description
    exact Tokens.isClean_alone description
  | some sides =>
    rw [cut] at description
    exact {
      isDescription := description
      dueDate := isValid_of_extract (by decide)
      startDate := isValid_of_extract (by decide)
      recurrence := isValid_of_extract (by decide)
      modifiers := isValid_of_mem_modifiersOf }

theorem Tokens.IsClean.isSettled {tokens : Tokens} (clean : tokens.IsClean delimiter) :
    tokens.IsSettled delimiter := by
  have alone : Tokens.ofTitle [delimiter] tokens.description =
      { description := tokens.description } := by
    rw [Tokens.ofTitle_unmarked clean.isDescription.unmarked, clean.isDescription.stripped]
  refine ⟨alone, fun ε isDate => ?_⟩
  rw [alone]
  exact Tokens.withDueModifier_nil rfl rfl

variable {ε : Type} {isDate : Text → Except ε Bool}

/-- A modifier that becomes the due date is a value like those that are marked as one. -/
theorem Tokens.IsClean.withDueModifier {tokens found : Tokens} (clean : tokens.IsClean delimiter)
    (searched : tokens.withDueModifier isDate = .ok found) : found.IsClean delimiter := by
  rcases Tokens.withDueModifier_cases searched with rfl | ⟨front, word, back, -, split, rfl⟩
  · exact clean
  · have valid := clean.modifiers
    rw [split, List.forall_mem_append, List.forall_mem_cons] at valid
    obtain ⟨validFront, validWord, validBack⟩ := valid
    refine { clean with
      dueDate := ?_
      modifiers := List.forall_mem_append.2 ⟨validFront, validBack⟩ }
    intro value same
    rw [← Option.some.inj same]
    exact ⟨validWord.stripped, validWord.unmarked, nofun⟩

end Values

/-- The tokens of every title are clean, and nothing more is found in their description, whether or
    not a date is looked for among the modifiers. -/
theorem Tokens.isClean_and_settled (delimiter : Char) (title : Text) :
    ((Tokens.ofTitle [delimiter] title).IsClean delimiter ∧
        (Tokens.ofTitle [delimiter] title).IsSettled delimiter) ∧
      ∀ {ε : Type} (isDate : Text → Except ε Bool), (∀ word, ∃ answer, isDate word = .ok answer) →
        ∃ tokens, (Tokens.ofTitle [delimiter] title).withDueModifier isDate = .ok tokens ∧
          tokens.IsClean delimiter ∧ tokens.IsSettled delimiter := by
  have clean : (Tokens.ofTitle [delimiter] title).IsClean delimiter := Tokens.isClean_ofTitle title
  refine ⟨⟨clean, clean.isSettled⟩, fun isDate answers => ?_⟩
  obtain ⟨tokens, searched, -⟩ :=
    Tokens.withDueModifier_eq_ok answers (Tokens.ofTitle [delimiter] title)
  have cleanFound := clean.withDueModifier searched
  exact ⟨tokens, searched, cleanFound, cleanFound.isSettled⟩

/-- Delimiters in a word, five of them in a row, one at the end, and a date among the modifiers. -/
theorem Tokens.isClean_and_settled_long_mark :
    ∃ tokens, (Tokens.ofTitle ['/'] " Fly//on  /////my /day/").withDueModifier
        (fun word => .ok (word == "day".toList) : Text → Except Empty Bool) = .ok tokens ∧
      tokens = { description := "Fly//on", dueDate := some "day", recurrence := some [],
                 modifiers := ["my"] } ∧
      tokens.IsClean '/' ∧ tokens.IsSettled '/' := by
  obtain ⟨-, dated⟩ := Tokens.isClean_and_settled '/' " Fly//on  /////my /day/"
  obtain ⟨tokens, searched, clean, settled⟩ :=
    dated (fun word => .ok (word == "day".toList) : Text → Except Empty Bool)
      fun word => ⟨word == "day".toList, rfl⟩
  refine ⟨tokens, searched, ?_, clean, settled⟩
  rw [← Except.ok.inj searched]
  rfl

end TaskTitles.Title
