import TaskTitles.Text.Basic
import TaskTitles.Text.Digit
import TaskTitles.Text.Quoted.Table

/-!
# Quoted texts

A message quotes a text between single quotes, or between double quotes when it holds single quotes
only.  The backslash, the quote in use, line feed, carriage return and tab are written with a
backslash, and a character that cannot be shown by its code point.
-/

namespace TaskTitles.Text

def quoteFor (t : Text) : Char :=
  if t.contains '\'' && !t.contains '"' then '"' else '\''

def escapeChar (quote c : Char) : Text :=
  if c = quote || c = '\\' then ['\\', c]
  else if c = '\n' then "\\n"
  else if c = '\r' then "\\r"
  else if c = '\t' then "\\t"
  else if hiddenRanges.holds c then
    if c.toNat < 0x100 then "\\x" ++ hexPadded 2 c.toNat
    else if c.toNat < 0x10000 then "\\u" ++ hexPadded 4 c.toNat
    else "\\U" ++ hexPadded 8 c.toNat
  else [c]

/-- The text as a message quotes it. -/
def quoted (t : Text) : Text :=
  let quote := quoteFor t
  quote :: t.flatMap (escapeChar quote) ++ [quote]

end TaskTitles.Text
