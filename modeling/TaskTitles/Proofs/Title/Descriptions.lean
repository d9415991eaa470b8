import TaskTitles.Proofs.Results
import TaskTitles.Proofs.Text.Strip
import TaskTitles.Title.Tokens

/-!
# Descriptions

The description of a title is a stripped piece of it that holds no mark
(`Tokens.description_ofTitle`).  So a description taken apart again is its own description, with no
values beside it (`Tokens.ofTitle_unmarked`).
-/

namespace TaskTitles.Title

open Text

def opening (delimiter : Text) : Text := " " ++ delimiter

theorem opening_ne_nil (delimiter : Text) : opening delimiter ≠ [] := List.cons_ne_nil ' ' delimiter

/-- What every description is: stripped, and without a mark. -/
structure IsDescription (delimiter description : Text) : Prop where
  stripped : strip description = description
  unmarked : ¬ opening delimiter <:+: description

theorem Tokens.ofTitle_unmarked {delimiter title : Text}
    (unmarked : ¬ opening delimiter <:+: title) :
    Tokens.ofTitle delimiter title = { description := strip title } := by
  have uncut : cut? (" " ++ delimiter) title = none := cut?_eq_none_iff.2 unmarked
  rw [Tokens.ofTitle, uncut]

theorem Tokens.description_ofTitle (delimiter title : Text) :
    IsDescription delimiter (Tokens.ofTitle delimiter title).description ∧
      (Tokens.ofTitle delimiter title).description <:+: title := by
  rw [Tokens.ofTitle]
  -- Without a mark the whole title is the description, else what stands before the first one.
  cases cut : cut? (" " ++ delimiter) title with
  | none =>
    have unmarked := cut?_eq_none_iff.1 cut
    exact ⟨⟨strip_strip title, fun occurs => unmarked (occurs.trans (strip_isInfix title))⟩,
      strip_isInfix title⟩
  | some sides =>
    obtain ⟨before, after⟩ := sides
    have unmarked := not_infix_of_cut? (opening_ne_nil delimiter) cut
    have front : before <:+: title := by
      rw [eq_of_cut? cut, List.append_assoc]
      exact List.infix_append_left
    exact ⟨⟨strip_strip before, fun occurs => unmarked (occurs.trans (strip_isInfix before))⟩,
      (strip_isInfix before).trans front⟩

/-! ## Dates among the modifiers -/

section Dates

variable {ε : Type} {isDate : Text → Except ε Bool}

theorem takeFirstM_eq_ok {α : Type} {accept : Text → Except ε (Option α)}
    (answers : ∀ word, ∃ found, accept word = .ok found) (words : List Text) :
    ∃ taken, takeFirstM accept words = .ok taken := by
  induction words with
  | nil => exact ⟨_, rfl⟩
  | cons word words ih =>
    obtain ⟨found, accepted⟩ := answers word
    obtain ⟨later, taken⟩ := ih
    rw [takeFirstM, accepted]
    cases found with
    | some value => exact ⟨_, rfl⟩
    | none => exact ⟨(later.1, word :: later.2), by rw [taken]; rfl⟩

/-- A search takes one word out of the list, or none where it accepts none. -/
theorem takeFirstM_cases {α : Type} {accept : Text → Except ε (Option α)} {words : List Text}
    {taken : Option α × List Text} (search : takeFirstM accept words = .ok taken) :
    taken = (none, words) ∨
      ∃ front word back value, words = front ++ word :: back ∧ accept word = .ok (some value) ∧
        taken = (some value, front ++ back) := by
  induction words generalizing taken with
  | nil =>
    cases search
    exact .inl rfl
  | cons word words ih =>
    obtain ⟨accepted, asked, search⟩ := exists_of_bind_eq_ok search
    cases accepted with
    | some value =>
      cases search
      exact .inr ⟨[], word, words, value, rfl, asked, rfl⟩
    | none =>
      obtain ⟨later, searchLater, same⟩ := exists_of_bind_eq_ok search
      cases same
      rcases ih searchLater with rfl | ⟨front, found, back, value, rfl, acceptedLater, rfl⟩
      · exact .inl rfl
      · exact .inr ⟨word :: front, found, back, value, rfl, acceptedLater, rfl⟩

/-- Where every text is or is not a date, the modifiers are searched and the description is kept. -/
theorem Tokens.withDueModifier_eq_ok (answers : ∀ word, ∃ answer, isDate word = .ok answer)
    (tokens : Tokens) :
    ∃ found, tokens.withDueModifier isDate = .ok found ∧ found.description = tokens.description := by
  rw [Tokens.withDueModifier]
  cases tokens.dueDate with
  | some due => exact ⟨tokens, rfl, rfl⟩
  | none =>
    -- Asking a word for a date comes to an answer, so the search does, too.
    have accepts (word : Text) : ∃ found, (do
        return if ← isDate word then some word else none : Except ε (Option Text)) = .ok found := by
      obtain ⟨answer, asked⟩ := answers word
      exact ⟨if answer then some word else none, by rw [asked]; rfl⟩
    obtain ⟨⟨due, modifiers⟩, taken⟩ := takeFirstM_eq_ok accepts tokens.modifiers
    refine ⟨{ tokens with dueDate := due, modifiers }, ?_, rfl⟩
    dsimp only
    rw [taken]
    rfl

/-- The search for a date leaves the tokens as they are, or one of the modifiers becomes the due
    date that they do not have. -/
theorem Tokens.withDueModifier_cases {tokens found : Tokens}
    (searched : tokens.withDueModifier isDate = .ok found) :
    found = tokens ∨
      ∃ front word back, tokens.dueDate = none ∧ tokens.modifiers = front ++ word :: back ∧
        found = { tokens with dueDate := some word, modifiers := front ++ back } := by
  rw [Tokens.withDueModifier] at searched
  cases due : tokens.dueDate with
  | some value =>
    rw [due] at searched
    exact .inl (Except.ok.inj searched).symm
  | none =>
    rw [due] at searched
    obtain ⟨taken, search, same⟩ := exists_of_bind_eq_ok searched
    cases same
    rcases takeFirstM_cases search with rfl | ⟨front, word, back, value, split, accepted, rfl⟩
    · exact .inl (by rw [← due])
    · -- A word is accepted as nothing but itself.
      obtain ⟨answer, -, accepted⟩ := exists_of_bind_eq_ok accepted
      have itself : value = word := by
        cases answer with
        | false => cases accepted
        | true => exact (Option.some.inj (Except.ok.inj accepted)).symm
      exact .inr ⟨front, word, back, rfl, split, by rw [itself]⟩

theorem Tokens.description_withDueModifier {tokens found : Tokens}
    (searched : tokens.withDueModifier isDate = .ok found) :
    found.description = tokens.description := by
  rcases Tokens.withDueModifier_cases searched with rfl | ⟨front, word, back, -, -, rfl⟩ <;> rfl

theorem Tokens.withDueModifier_nil {tokens : Tokens} (due : tokens.dueDate = none)
    (modifiers : tokens.modifiers = []) : tokens.withDueModifier isDate = .ok tokens := by
  obtain ⟨description, dueDate, startDate, recurrence, words⟩ := tokens
  subst due modifiers
  rfl

end Dates

end TaskTitles.Title
