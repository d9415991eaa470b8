import TaskTitles.Text.Basic
import TaskTitles.Text.Ranges

/-!
# White space and line breaks

`strip` removes white space at both ends, `lines` breaks a text into its lines.  Both classes go
beyond ASCII: they hold the separators of Unicode and the four information separators, but neither
the zero-width space nor the byte order mark.  The main statement is that stripping twice is
stripping once (`strip_strip`).
-/

namespace TaskTitles.Text

/-- The code points that count as white space. -/
def blankRanges : Ranges :=
  [(0x09, 0x0D), (0x1C, 0x20), (0x85, 0x85), (0xA0, 0xA0), (0x1680, 0x1680), (0x2000, 0x200A),
   (0x2028, 0x2029), (0x202F, 0x202F), (0x205F, 0x205F), (0x3000, 0x3000)]

def isBlank (c : Char) : Bool := blankRanges.holds c

/-- The code points that end a line. -/
def breakRanges : Ranges :=
  [(0x0A, 0x0D), (0x1C, 0x1E), (0x85, 0x85), (0x2028, 0x2029)]

def isBreak (c : Char) : Bool := breakRanges.holds c

/-! ## Stripping -/

def stripStart (t : Text) : Text := t.dropWhile isBlank

def stripEnd : Text → Text
  | [] => []
  | c :: cs =>
    match stripEnd cs with
    | [] => if isBlank c then [] else [c]
    | rest => c :: rest

def strip (t : Text) : Text := stripEnd (stripStart t)

def allBlank (t : Text) : Bool := t.all isBlank

@[simp] theorem stripStart_nil : stripStart [] = [] := rfl

@[simp] theorem stripEnd_nil : stripEnd [] = [] := rfl

@[simp] theorem strip_nil : strip [] = [] := rfl

theorem stripEnd_cons_of_ne_nil (c : Char) {cs : Text} (h : stripEnd cs ≠ []) :
    stripEnd (c :: cs) = c :: stripEnd cs := by
  rw [stripEnd]
  split
  · contradiction
  · rfl

theorem stripEnd_cons_of_not_blank {c : Char} (h : isBlank c = false) (cs : Text) :
    stripEnd (c :: cs) = c :: stripEnd cs := by
  rw [stripEnd]
  split
  · rename_i hnil
    simp [h, hnil]
  · rfl

theorem stripEnd_stripEnd (t : Text) : stripEnd (stripEnd t) = stripEnd t := by
  induction t with
  | nil => rfl
  | cons c cs ih =>
    by_cases hcs : stripEnd cs = []
    · by_cases hc : isBlank c = true
      · simp [stripEnd, hcs, hc]
      · simp [stripEnd, hcs, hc]
    · rw [stripEnd_cons_of_ne_nil c hcs, stripEnd_cons_of_ne_nil c (by rwa [ih]), ih]

theorem stripStart_of_not_blank {c : Char} (h : isBlank c = false) (cs : Text) :
    stripStart (c :: cs) = c :: cs := by
  simp [stripStart, h]

theorem stripStart_cases (t : Text) :
    stripStart t = [] ∨ ∃ c cs, stripStart t = c :: cs ∧ isBlank c = false := by
  induction t with
  | nil => exact .inl rfl
  | cons c cs ih =>
    by_cases hc : isBlank c = true
    · simpa [stripStart, hc] using ih
    · simp only [Bool.not_eq_true] at hc
      exact .inr ⟨c, cs, stripStart_of_not_blank hc cs, hc⟩

@[simp] theorem strip_strip (t : Text) : strip (strip t) = strip t := by
  unfold strip
  rcases stripStart_cases t with h | ⟨c, cs, h, hc⟩
  · simp [h]
  · rw [h, stripEnd_cons_of_not_blank hc, stripStart_of_not_blank hc,
      stripEnd_cons_of_not_blank hc, stripEnd_stripEnd]

/-! ## Lines -/

/-- The lines of a text.  A carriage return and a line feed together end one line, and a break at
    the very end opens no further line. -/
def lines : Text → List Text
  | [] => []
  | '\r' :: '\n' :: cs => [] :: lines cs
  | c :: cs => if isBreak c then [] :: lines cs else consFirst c (lines cs)

@[simp] theorem lines_nil : lines [] = [] := rfl

end TaskTitles.Text
