import TaskTitles.Proofs.Text.Pieces
import TaskTitles.Proofs.Title.Descriptions

/-!
# What taking a title apart keeps

Every character of a title that is neither blank nor the delimiter is in the tokens, as often as it
is in the title.  So it is when the title is cut into its values, and a modifier that becomes the due
date only moves (`Tokens.count_text`).
-/

namespace TaskTitles.Title

open Text

/-- All that the tokens of a title hold. -/
def Tokens.text (tokens : Tokens) : Text :=
  tokens.description ++ tokens.dueDate.getD [] ++ tokens.startDate.getD []
    ++ tokens.recurrence.getD [] ++ tokens.modifiers.flatten

/-! ## Cutting a title -/

theorem count_blank {c : Char} (visible : isBlank c = false) : (" " : Text).count c = 0 := by
  apply List.count_eq_zero_of_not_mem
  exact fun member => ne_space_of_visible visible (List.mem_singleton.1 member)

section Counts

variable {mark c : Char} (visible : isBlank c = false) (other : c ≠ mark)

include visible other

/-- What a region loses is in the value that is cut out of it. -/
theorem count_extract (n : Nat) (region : Text) :
    (extract (times n [mark]) [mark] region).1.count c +
      ((extract (times n [mark]) [mark] region).2.getD []).count c = region.count c := by
  have noMark : [mark].count c = 0 := List.count_eq_zero_of_not_mem (by simpa using other)
  rw [extract]
  cases cut : cut? (times n [mark]) region with
  | none => simp
  | some sides =>
    obtain ⟨before, after⟩ := sides
    have whole := congrArg (List.count c) (eq_of_cut? cut)
    simp only [List.count_append, List.count_eq_zero_of_not_mem (not_mem_times other n)] at whole
    -- The value reaches to the next delimiter, or to the end of the region.
    cases next : cut? [mark] after with
    | none => simp [next, count_strip visible, whole]
    | some sides =>
      obtain ⟨value, rest⟩ := sides
      have behind := congrArg (List.count c) (eq_of_cut? next)
      simp only [List.count_append, noMark] at behind
      simp only [next, Option.getD_some, List.count_append, count_strip visible,
        count_blank visible, noMark]
      omega

theorem count_modifiersOf (region : Text) :
    (modifiersOf [mark] region).flatten.count c = region.count c := by
  have kept : List.count c ∘ strip = List.count c := funext (count_strip visible)
  rw [modifiersOf, List.flatten_filter_ne_nil, List.count_flatten, List.map_map, kept,
    ← List.count_flatten, count_splitOn (List.cons_ne_nil mark []) (by simpa using other)]

theorem Tokens.count_ofRegion (description region : Text) :
    (Tokens.ofRegion [mark] description region).text.count c =
      description.count c + region.count c := by
  -- Each extraction hands on the region that it leaves to the next one.
  have first := count_extract visible other recurrenceMark region
  have second := count_extract visible other startMark
    (extract (times recurrenceMark [mark]) [mark] region).1
  have third := count_extract visible other dueMark
    (extract (times startMark [mark]) [mark]
      (extract (times recurrenceMark [mark]) [mark] region).1).1
  simp only [Tokens.text, Tokens.ofRegion, List.count_append, count_modifiersOf visible other]
  omega

theorem Tokens.count_ofTitle (title : Text) :
    (Tokens.ofTitle [mark] title).text.count c = title.count c := by
  have noMark : [mark].count c = 0 := List.count_eq_zero_of_not_mem (by simpa using other)
  rw [Tokens.ofTitle]
  cases cut : cut? (" " ++ [mark]) title with
  | none => simp [Tokens.text, count_strip visible]
  | some sides =>
    obtain ⟨before, after⟩ := sides
    have whole := congrArg (List.count c) (eq_of_cut? cut)
    simp only [List.count_append, count_blank visible, noMark] at whole
    dsimp only
    rw [Tokens.count_ofRegion visible other, count_strip visible, count_strip visible,
      List.count_append, noMark]
    omega

end Counts

/-! ## Finding a date among the modifiers -/

section Dates

variable {ε : Type} {isDate : Text → Except ε Bool}

/-- A modifier that becomes the due date is no modifier any more. -/
theorem Tokens.perm_withDueModifier {tokens dated : Tokens}
    (found : tokens.withDueModifier isDate = .ok dated) : dated.text.Perm tokens.text := by
  rcases Tokens.withDueModifier_cases found with rfl | ⟨front, word, back, due, split, rfl⟩
  · exact List.Perm.refl _
  · rw [List.perm_iff_count]
    intro c
    simp only [Tokens.text, due, split, List.count_append, List.flatten_append,
      List.flatten_cons, Option.getD_some, Option.getD_none, List.count_nil]
    omega

end Dates

/-- No visible character of a title is lost or repeated, whatever counts as a date. -/
theorem Tokens.count_text {mark c : Char} (visible : isBlank c = false) (other : c ≠ mark)
    (title : Text) :
    (Tokens.ofTitle [mark] title).text.count c = title.count c ∧
      ∀ {ε : Type} (isDate : Text → Except ε Bool), (∀ word, ∃ answer, isDate word = .ok answer) →
        ∃ tokens, (Tokens.ofTitle [mark] title).withDueModifier isDate = .ok tokens ∧
          tokens.text.count c = title.count c := by
  have kept := Tokens.count_ofTitle visible other title
  refine ⟨kept, fun isDate answers => ?_⟩
  obtain ⟨tokens, found, -⟩ :=
    Tokens.withDueModifier_eq_ok answers (Tokens.ofTitle [mark] title)
  exact ⟨tokens, found, ((Tokens.perm_withDueModifier found).count_eq c).trans kept⟩

/-- A title with marks of five delimiters, a mark made twice, and a date among its modifiers. -/
theorem Tokens.count_text_long_marks :
    (Tokens.ofTitle ['/'] "Fly /////my //by /////day //yes").text.count 'y' = 5 ∧
      ∃ tokens, (Tokens.ofTitle ['/'] "Fly /my /day").withDueModifier
          (fun word => .ok (word == "day".toList) : Text → Except Empty Bool) = .ok tokens ∧
        tokens.dueDate = some "day".toList ∧ tokens.text.count 'y' = 3 := by
  obtain ⟨long, -⟩ := @Tokens.count_text '/' 'y' (by decide) (by decide)
    "Fly /////my //by /////day //yes"
  obtain ⟨-, dated⟩ := @Tokens.count_text '/' 'y' (by decide) (by decide) "Fly /my /day"
  obtain ⟨tokens, found, kept⟩ :=
    dated (fun word => .ok (word == "day".toList) : Text → Except Empty Bool)
      fun word => ⟨word == "day".toList, rfl⟩
  refine ⟨long.trans (by decide), tokens, found, ?_, kept.trans (by decide)⟩
  rw [← Except.ok.inj found]
  rfl

end TaskTitles.Title
