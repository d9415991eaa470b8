import TaskTitles.Text.Digit

/-!
# Flaws of documents

Why a text is no document: it breaks the rules of the format, or it goes beyond a limit.  The limit on
the digits of an integer holds where integers are written, too.
-/

namespace TaskTitles

inductive Flaw where
  | malformed
  /-- An integer has more digits than can be read. -/
  | tooManyDigits (digits : Nat)
  | tooDeep
  deriving Repr, DecidableEq

namespace Flaw

/-- The value of an option; without one the text is malformed. -/
def require {α : Type} : Option α → Except Flaw α
  | some a => .ok a
  | none => .error .malformed

/-- The most digits of an integer that is read or written digit by digit. -/
def maxDigits : Nat := 4300

/-- What is said of an integer with more digits. -/
def limitText : Text :=
  "Exceeds the limit (" ++ Text.ofNat maxDigits ++ " digits) for integer string conversion"

end Flaw

/-- The numeral of an integer, unless it has too many digits.  A sign is no digit. -/
def Text.ofInt? (n : Int) : Option Text :=
  if (ofNat n.natAbs).length ≤ Flaw.maxDigits then some (ofInt n) else none

end TaskTitles
