import TaskTitles.Text.Digit
import TaskTitles.Value.Basic
import TaskTitles.Value.Flaw

/-!
# Writing JSON

A value is written in a style: over several lines with an indent, or on one line; with characters
beyond ASCII as they are, or escaped by their UTF-16 units.
-/

namespace TaskTitles.Json

structure Style where
  /-- The number of blanks per level, or everything on one line. -/
  indent : Option Nat := none
  itemSeparator : Text := ","
  keySeparator : Text := ":"
  /-- Whether everything but printable ASCII is escaped. -/
  asciiOnly : Bool := false
  form : Decimal.Form := .plain

namespace Style

def compactAscii : Style := { asciiOnly := true }

def spacedAscii : Style := { itemSeparator := ", ", keySeparator := ": ", asciiOnly := true }

/-- Two blanks per level, for programs that read reports. -/
def indented : Style := { indent := some 2, keySeparator := ": ", form := .report }

def indentedAscii : Style := { indent := some 2, keySeparator := ": ", asciiOnly := true }

end Style

def escapeUnit (n : Nat) : Text := "\\u" ++ Text.hexPadded 4 n

def escapeUnits (c : Char) : Text :=
  let n := c.toNat
  if n < 0x10000 then escapeUnit n
  else escapeUnit (0xD800 + (n - 0x10000) / 0x400) ++ escapeUnit (0xDC00 + (n - 0x10000) % 0x400)

def escapeChar (asciiOnly : Bool) (c : Char) : Text :=
  if c = '"' then "\\\""
  else if c = '\\' then "\\\\"
  else if c = '\n' then "\\n"
  else if c = '\r' then "\\r"
  else if c = '\t' then "\\t"
  else if c = '\x08' then "\\b"
  else if c = '\x0c' then "\\f"
  else if c.toNat < 0x20 || (asciiOnly && 0x7E < c.toNat) then escapeUnits c
  else [c]

def writeText (style : Style) (t : Text) : Text :=
  "\"" ++ t.flatMap (escapeChar style.asciiOnly) ++ "\""

/-- A line break with the indent of a level, if the style has one. -/
def breakLine (style : Style) (level : Nat) : Text :=
  match style.indent with
  | none => []
  | some width => '\n' :: List.replicate (width * level) ' '

/-- Members between brackets, each on its line if the style indents. -/
def bracket (style : Style) (level : Nat) (opening closing : Char) (members : List Text) : Text :=
  if members = [] then [opening, closing]
  else
    [opening] ++ breakLine style (level + 1)
      ++ Text.joinWith (style.itemSeparator ++ breakLine style (level + 1)) members
      ++ breakLine style level ++ [closing]

mutual

def writeAt (style : Style) (level : Nat) : Value → Text
  | .null => "null"
  | .bool b => if b then "true" else "false"
  | .int n => Text.ofInt n
  | .real x => x.toText style.form
  | .notFinite name => name
  | .text t => writeText style t
  | .list items => bracket style level '[' ']' (writeItems style (level + 1) items)
  | .table fields => bracket style level '{' '}' (writeFields style (level + 1) fields)
  | .date d => writeText style d.isoText
  | .dateTime d _ => writeText style d.isoText
  | .time _ => "null"

def writeItems (style : Style) (level : Nat) : List Value → List Text
  | [] => []
  | item :: rest => writeAt style level item :: writeItems style level rest

def writeFields (style : Style) (level : Nat) : List (Text × Value) → List Text
  | [] => []
  | (key, value) :: rest =>
    (writeText style key ++ style.keySeparator ++ writeAt style level value)
      :: writeFields style level rest

end

def write (style : Style) (value : Value) : Text := writeAt style 0 value

/-- The text of a value, unless one of its integers has too many digits. -/
def write? (style : Style) (value : Value) : Option Text :=
  if value.integers.all fun n => (Text.ofInt? n).isSome then some (write style value) else none

end TaskTitles.Json
