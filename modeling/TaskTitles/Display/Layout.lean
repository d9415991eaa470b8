import TaskTitles.Display.Cells
import TaskTitles.Text.Blank

/-!
# Laying out lines

A paragraph is laid out for a width in cells.  Line feeds break it, tabs are expanded, and a line
that is too long is broken before a word.  A word carries the blanks that follow it, which may
stand outside the width; a word that is too long for any line is cut, where the layout says so.
The main statement is that breaking a line into words loses nothing (`flatten_words`).
-/

namespace TaskTitles.Display

open Text

/-! ## Characters -/

/-- Whether the character is dropped: bell, backspace, vertical tab, form feed, carriage return. -/
def isDropped (c : Char) : Bool := c ∈ ['\x07', '\x08', '\x0b', '\x0c', '\r']

def withoutDropped (t : Text) : Text := t.filter (!isDropped ·)

def tabStop : Nat := 8

/-- The parts of a line, which tabs divide, from a column on.  A tab becomes a blank, and then the
    line is filled up to the next stop. -/
def expandParts : (column : Nat) → List Text → Text
  | _, [] => []
  | _, [last] => last
  | column, part :: rest =>
    let reached := column + cells (part ++ [' '])
    let stop := (reached + tabStop - 1) / tabStop * tabStop
    part ++ [' '] ++ List.replicate (stop - reached) ' ' ++ expandParts stop rest

def expandTabs (line : Text) : Text := expandParts 0 (splitOn "\t" line)

/-! ## Words -/

/-- The pieces of a text, where a new one starts with each visible character after a blank. -/
def pieces : Text → List Text
  | [] => []
  | c :: cs =>
    match pieces cs with
    | (d :: piece) :: rest =>
      if isBlank c && !isBlank d then [c] :: (d :: piece) :: rest else (c :: d :: piece) :: rest
    | rest => [c] :: rest

def words (line : Text) : List Text :=
  match pieces line with
  | first :: second :: rest =>
    if allBlank first then (first ++ second) :: rest else first :: second :: rest
  | short => short

theorem flatten_pieces (line : Text) : (pieces line).flatten = line := by
  induction line with
  | nil => rfl
  | cons c cs ih =>
    unfold pieces
    split
    · rename_i d piece rest heq
      rw [heq] at ih
      split <;> simpa using ih
    · simpa using ih

theorem flatten_words (line : Text) : (words line).flatten = line := by
  have h := flatten_pieces line
  unfold words
  split
  · rename_i first second rest heq
    rw [heq] at h
    split <;> simpa using h
  · exact h

/-! ## Breaking lines -/

/-- What happens to a word that is too long for any line. -/
inductive Overlong where
  | cut
  /-- It stays as long as it is, and its line is abridged. -/
  | abridge
  deriving Repr, DecidableEq

/-- Cuts off a line whenever the next grapheme does not fit any more.  The first argument is the
    line so far, whose cells are `used`. -/
def chop (width : Nat) : (line : Text) → (used : Nat) → List Grapheme → List Text
  | line, _, [] => [line]
  | line, used, g :: rest =>
    if width < used + g.cells then line :: chop width g.text g.cells rest
    else chop width (line ++ g.text) (used + g.cells) rest

/-- Distributes words over lines.  The first argument is the line so far, whose cells are `used`. -/
def fill (width : Nat) (overlong : Overlong) : (line : Text) → (used : Nat) → List Text → List Text
  | line, _, [] => [line]
  | line, used, word :: rest =>
    let needed := cells (stripEnd word)
    if used + needed ≤ width then
      fill width overlong (line ++ word) (used + cells word) rest
    else
      let parts :=
        if overlong = .cut ∧ width < needed then chop width [] 0 (graphemes word) else [word]
      let last := parts.getLast?.getD []
      (if line = [] then [] else [line]) ++ parts.dropLast
        ++ fill width overlong last (cells last) rest

/-- Takes blanks off the end of a line that has more characters than the width, as far as needed. -/
def trimEnd (width : Nat) (line : Text) : Text :=
  line.take (max width (stripEnd line).length)

def wrap (width : Nat) (overlong : Overlong) (line : Text) : List Text :=
  match overlong with
  | .cut => (fill width .cut [] 0 (words line)).map fun l => crop width (trimEnd width l)
  | .abridge => (fill width .abridge [] 0 (words line)).map fun l => abridge width (trimEnd width l)

def rawLines (t : Text) : List Text :=
  (splitOn "\n" (withoutDropped t)).map expandTabs

def layout (width : Nat) (overlong : Overlong) (t : Text) : List Text :=
  (rawLines t).flatMap (wrap width overlong)

end TaskTitles.Display
