import TaskTitles.Text.Basic

/-!
# Control sequences of terminals

A control sequence tells a terminal what to do instead of what to show: an escape and an opening
bracket, parameters, and one final character.  Text for a reader is shown without them
(`dropSequences`).
-/

namespace TaskTitles.Text

def escape : Char := '\x1b'

/-- The rest of a text after one character of a range, if it starts with one. -/
def afterOne? (first last : Char) : Text → Option Text
  | c :: rest => if first ≤ c ∧ c ≤ last then some rest else none
  | [] => none

def afterMany (first last : Char) (t : Text) : Text := t.dropWhile fun c => first ≤ c && c ≤ last

def afterSequence? (t : Text) : Option Text := do
  let t ← dropLead? [escape, '['] t
  afterOne? '@' '~' (afterMany ' ' '/' (afterMany '0' '?' t))

/-- Drops the given number of characters, and then every control sequence. -/
def dropSequencesAfter : (skipped : Nat) → Text → Text
  | _, [] => []
  | n + 1, _ :: rest => dropSequencesAfter n rest
  | 0, c :: rest =>
    match afterSequence? (c :: rest) with
    | some after => dropSequencesAfter (rest.length - after.length) rest
    | none => c :: dropSequencesAfter 0 rest

def dropSequences (t : Text) : Text := dropSequencesAfter 0 t

/-- A text without escapes stays as it is. -/
theorem dropSequences_eq_self {t : Text} (h : escape ∉ t) : dropSequences t = t := by
  induction t with
  | nil => rfl
  | cons c rest ih =>
    simp only [List.mem_cons, not_or] at h
    have none : afterSequence? (c :: rest) = none := by
      simp [afterSequence?, dropLead?, h.1]
    simp only [dropSequences, dropSequencesAfter, none]
    exact congrArg (c :: ·) (ih h.2)

end TaskTitles.Text
