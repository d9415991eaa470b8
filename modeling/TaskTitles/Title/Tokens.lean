import TaskTitles.Text.Blank

/-!
# The title grammar

A task title is a description followed by marked values, as in

    Buy a newspaper //next tuesday ///next monday ////weekly /top /errand

The values begin at the first delimiter that follows a blank, so a delimiter inside a word of the
description marks nothing.  Two delimiters mark the due date, three the start date, four the
recurrence; a single delimiter marks a modifier.  A value reaches to the next delimiter and may be
empty, which is not the same as absent.
-/

namespace TaskTitles.Title

open Text

/-- A title taken apart.  A value is `none` when its marker is absent. -/
structure Tokens where
  description : Text
  dueDate : Option Text := none
  startDate : Option Text := none
  recurrence : Option Text := none
  modifiers : List Text := []
  deriving Repr, DecidableEq

/-- How many delimiters mark a due date. -/
def dueMark : Nat := 2

def startMark : Nat := 3

def recurrenceMark : Nat := 4

/-- Cuts the first `marker` and the value after it out of the source.  The value reaches to the next
    delimiter, or to the end; without the marker the source stays as it is. -/
def extract (marker delimiter source : Text) : Text × Option Text :=
  match cut? marker source with
  | none => (source, none)
  | some (before, after) =>
    match cut? delimiter after with
    | none => (strip before, some (strip after))
    | some (value, rest) => (strip before ++ " " ++ delimiter ++ rest, some (strip value))

/-- The pieces between delimiters, stripped, without the blank ones. -/
def modifiersOf (delimiter region : Text) : List Text :=
  ((splitOn delimiter region).map strip).filter (· ≠ [])

/-- The tokens of a description and the region of marked values after it.  Longer markers are
    extracted first, because a shorter one is part of them. -/
def Tokens.ofRegion (delimiter description region : Text) : Tokens :=
  let (region, recurrence) := extract (times recurrenceMark delimiter) delimiter region
  let (region, startDate) := extract (times startMark delimiter) delimiter region
  let (region, dueDate) := extract (times dueMark delimiter) delimiter region
  { description, dueDate, startDate, recurrence, modifiers := modifiersOf delimiter region }

def Tokens.ofTitle (delimiter title : Text) : Tokens :=
  match cut? (" " ++ delimiter) title with
  | none => { description := strip title }
  | some (before, after) => .ofRegion delimiter (strip before) (strip (delimiter ++ after))

/-- The tokens of a title under a delimiter of any length.  An empty delimiter cannot take apart a
    title that has a blank. -/
def Tokens.ofTitle? (delimiter title : Text) : Option Tokens :=
  if delimiter = [] ∧ occursIn " " title then none else some (.ofTitle delimiter title)

/-- Finds the first word that `accept` takes and returns it apart from the others. -/
def takeFirstM {ε α : Type} (accept : Text → Except ε (Option α)) :
    List Text → Except ε (Option α × List Text)
  | [] => .ok (none, [])
  | word :: words => do
    match ← accept word with
    | some found => return (some found, words)
    | none =>
      let (found, rest) ← takeFirstM accept words
      return (found, word :: rest)

/-- Without a marked due date, the first modifier that reads as a date becomes the due date. -/
def Tokens.withDueModifier {ε : Type} (isDate : Text → Except ε Bool) (tokens : Tokens) :
    Except ε Tokens :=
  match tokens.dueDate with
  | some _ => .ok tokens
  | none => do
    let asDate (word : Text) : Except ε (Option Text) := do
      return if ← isDate word then some word else none
    let (dueDate, modifiers) ← takeFirstM asDate tokens.modifiers
    return { tokens with dueDate, modifiers }

end TaskTitles.Title
