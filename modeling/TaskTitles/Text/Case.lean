import TaskTitles.Text.Basic
import TaskTitles.Text.Case.Table

/-!
# Upper and lower case

`lower` and `upper` are the full case mappings of Unicode: one character can become several (`İ`
lowers to an `i` and a combining dot, `ß` uppers to `SS`), and a capital sigma at the end of a word
lowers to `ς`.
-/

namespace TaskTitles.Text

/-- Whether a capital sigma between the reversed text `before` and `after` ends a word: a letter
    with case stands before it and none after it, ignorable characters aside. -/
def endsWord (before after : Text) : Bool :=
  let next (t : Text) : Bool :=
    ((t.dropWhile caseIgnorableRanges.holds).head?.map casedRanges.holds).getD false
  next before && !next after

def lowerChar (c : Char) : Text :=
  if c = 'İ' then ['i', '\u0307']
  else [((lowerRuns.image? c.toNat).map Char.ofNat).getD c]

/-- The lower-case form of what follows the reversed text `before`. -/
def lowerAfter (before : Text) : Text → Text
  | [] => []
  | c :: cs =>
    (if c = 'Σ' then [if endsWord before cs then 'ς' else 'σ'] else lowerChar c)
      ++ lowerAfter (c :: before) cs

def lower (t : Text) : Text := lowerAfter [] t

def upperChar (c : Char) : Text :=
  match upperExpansions.find? (·.1 == c.toNat) with
  | some (_, image) => image.map Char.ofNat
  | none => [((upperRuns.image? c.toNat).map Char.ofNat).getD c]

def upper (t : Text) : Text := t.flatMap upperChar

@[simp] theorem lower_nil : lower [] = [] := rfl

end TaskTitles.Text
