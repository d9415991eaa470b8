import TaskTitles.Display.Cells.Table
import TaskTitles.Text.Basic

/-!
# Cells

A line of a terminal consists of cells.  Most characters take one, ideographs and emoji two, and
marks and controls none.  A joiner puts the next character onto the one before it, and an emoji mark
widens some characters.

What is shown in one place is a grapheme: a character with all that is put onto it.  Texts are cut
between graphemes only, and the graphemes of a text make up the text (`flatMap_graphemes`).
-/

namespace TaskTitles.Display

open Text

/-! ## Widths -/

def charCells (c : Char) : Nat :=
  if flatRanges.holds c then 0 else if wideRanges.holds c then 2 else 1

/-- Puts the next character onto the one before. -/
def joiner : Char := '\u200d'

/-- Shows the character before as an emoji. -/
def emojiMark : Char := '\ufe0f'

/-- The cells that an emoji mark adds to the last character that has a width. -/
def widening (last : Option Char) : Nat := if last.any emojiRanges.holds then 1 else 0

def lastVisible (last : Option Char) (c : Char) : Option Char :=
  if charCells c = 0 then last else some c

/-- The number of cells that a text takes after the given character. -/
def cellsAfter (last : Option Char) : Text → Nat
  | [] => 0
  | c :: cs =>
    if c = joiner then
      match cs with
      | [] => 0
      | _ :: rest => cellsAfter last rest
    else if c = emojiMark then widening last + cellsAfter none cs
    else charCells c + cellsAfter (lastVisible last c) cs

def cells (t : Text) : Nat := cellsAfter none t

@[simp] theorem cells_nil : cells [] = 0 := rfl

/-- Where nothing is joined or marked, every character takes its own cells. -/
theorem cellsAfter_eq_foldr {t : Text} (joined : joiner ∉ t) (marked : emojiMark ∉ t)
    (last : Option Char) : cellsAfter last t = t.foldr (fun c n => charCells c + n) 0 := by
  induction t generalizing last with
  | nil => rfl
  | cons c cs ih =>
    simp only [List.mem_cons, not_or] at joined marked
    unfold cellsAfter
    rw [if_neg (Ne.symm joined.1), if_neg (Ne.symm marked.1), ih joined.2 marked.2,
      List.foldr_cons]

/-! ## Graphemes -/

/-- A character with all that is put onto it, and the cells that it takes. -/
structure Grapheme where
  text : Text
  cells : Nat
  deriving Repr, DecidableEq

def Grapheme.join (g : Grapheme) (t : Text) (more : Nat := 0) : Grapheme :=
  ⟨g.text ++ t, g.cells + more⟩

/-- The graphemes of a text that goes on after an unfinished one, and after the given character. -/
def graphemesAfter (g : Grapheme) (last : Option Char) : Text → List Grapheme
  | [] => [g]
  | c :: cs =>
    if c = joiner then
      match cs with
      | [] => [g.join [c]]
      | d :: rest => graphemesAfter (g.join [c, d]) last rest
    else if c = emojiMark then graphemesAfter (g.join [c] (widening last)) none cs
    else if charCells c = 0 then graphemesAfter (g.join [c]) last cs
    else g :: graphemesAfter ⟨[c], charCells c⟩ (some c) cs

/-- The graphemes of a text.  The first character always starts one. -/
def graphemes : Text → List Grapheme
  | [] => []
  | c :: cs => graphemesAfter ⟨[c], charCells c⟩ (lastVisible none c) cs

theorem flatMap_graphemesAfter (g : Grapheme) (last : Option Char) (t : Text) :
    (graphemesAfter g last t).flatMap Grapheme.text = g.text ++ t := by
  fun_induction graphemesAfter g last t <;> simp_all [Grapheme.join]

theorem flatMap_graphemes (t : Text) : (graphemes t).flatMap Grapheme.text = t := by
  cases t with
  | nil => rfl
  | cons c cs => exact flatMap_graphemesAfter ⟨[c], charCells c⟩ (lastVisible none c) cs

/-! ## Fitting -/

/-- The graphemes that fit into the given number of cells.  A wide one that would stand half
    outside becomes a blank. -/
def cropGraphemes : (width : Nat) → List Grapheme → Text
  | _, [] => []
  | width, g :: rest =>
    if g.cells ≤ width then g.text ++ cropGraphemes (width - g.cells) rest
    else List.replicate width ' '

def crop (width : Nat) (t : Text) : Text :=
  if cells t ≤ width then t else if width = 0 then [] else cropGraphemes width (graphemes t)

def ellipsis : Char := '…'

/-- The text in at most the given number of cells, with a sign if something is left out. -/
def abridge (width : Nat) (t : Text) : Text :=
  if cells t ≤ width then t else crop (width - 1) t ++ [ellipsis]

def padRight (width : Nat) (t : Text) : Text := t ++ List.replicate (width - cells t) ' '

/-- The text filled with blanks on the right.  Where a joiner at its end takes the first blank,
    there is one more. -/
def fillRight (width : Nat) (t : Text) : Text := padRight width (padRight width t)

def fillLeft (width : Nat) (t : Text) : Text := List.replicate (width - cells t) ' ' ++ t

end TaskTitles.Display
