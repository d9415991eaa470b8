import TaskTitles.Json.Reader

/-!
# The words of TOML

Blanks, comments, strings and keys.  Every reader takes a text and answers what it read with the
rest, or nothing where the text does not go on as it must.
-/

namespace TaskTitles.Toml

open Text

/-! ## Characters -/

def isGap (c : Char) : Bool := c == ' ' || c == '\t'

def isGapOrBreak (c : Char) : Bool := isGap c || c == '\n'

/-- Control characters, except for the tab. -/
def isControl (c : Char) : Bool := (c.toNat < 0x20 || c.toNat == 0x7F) && c != '\t'

def isKeyChar (c : Char) : Bool := c.isAlphanum || c == '-' || c == '_'

def skipGap (t : Text) : Text := t.dropWhile isGap

/-! ## Comments -/

/-- The text after a comment, if it starts with one.  A comment ends before the line feed. -/
def skipComment? : Text → Option Text
  | '#' :: rest =>
    let comment := rest.takeWhile (· ≠ '\n')
    if comment.any isControl then none else some (rest.dropWhile (· ≠ '\n'))
  | t => some t

/-- The text after blanks, line feeds and comments; at most `fuel` comments are skipped. -/
def skipLines? : (fuel : Nat) → Text → Option Text
  | 0, t => some (t.dropWhile isGapOrBreak)
  | fuel + 1, t =>
    match t.dropWhile isGapOrBreak with
    | '#' :: rest => (skipComment? ('#' :: rest)).bind (skipLines? fuel)
    | rest => some rest

/-! ## Strings -/

/-- Where the reader is in a string over several lines: in its text, after a backslash that ends a
    line but before the line feed, or behind that line feed. -/
inductive StringMode where
  | inside
  | beforeBreak
  | afterBreak
  deriving Repr, DecidableEq

def escapeOf? : Char → Option Char
  | '"' => some '"'
  | '\\' => some '\\'
  | 'b' => some '\x08'
  | 'f' => some '\x0c'
  | 'n' => some '\n'
  | 'r' => some '\r'
  | 't' => some '\t'
  | _ => none

/-- The character of a hexadecimal numeral, unless it is half of a pair or too large. -/
def scalar? (digits : Text) : Option Char := do
  let n ← Json.hexNumber? digits
  if n.isValidChar then return Char.ofNat n else none

/-- Reads the rest of a string between double quotes on one line. -/
def readBasic? : Text → Option (Text × Text)
  | [] => none
  | '"' :: rest => some ([], rest)
  | '\\' :: 'u' :: a :: b :: c :: d :: rest => do
    let char ← scalar? [a, b, c, d]
    let (t, rest) ← readBasic? rest
    return (char :: t, rest)
  | '\\' :: 'U' :: a :: b :: c :: d :: e :: f :: g :: h :: rest => do
    let char ← scalar? [a, b, c, d, e, f, g, h]
    let (t, rest) ← readBasic? rest
    return (char :: t, rest)
  | '\\' :: letter :: rest => do
    let char ← escapeOf? letter
    let (t, rest) ← readBasic? rest
    return (char :: t, rest)
  | c :: rest =>
    if isControl c || c == '\\' then none
    else (readBasic? rest).map fun (t, rest) => (c :: t, rest)

def readBasicLines? : StringMode → Text → Option (Text × Text)
  | _, [] => none
  | .beforeBreak, c :: rest =>
    if isGap c then readBasicLines? .beforeBreak rest
    else if c = '\n' then readBasicLines? .afterBreak rest
    else none
  | .inside, '"' :: '"' :: '"' :: rest => some ([], rest)
  | .afterBreak, '"' :: '"' :: '"' :: rest => some ([], rest)
  | .inside, '\\' :: 'u' :: a :: b :: c :: d :: rest => do
    let char ← scalar? [a, b, c, d]
    let (t, rest) ← readBasicLines? .inside rest
    return (char :: t, rest)
  | .afterBreak, '\\' :: 'u' :: a :: b :: c :: d :: rest => do
    let char ← scalar? [a, b, c, d]
    let (t, rest) ← readBasicLines? .inside rest
    return (char :: t, rest)
  | .inside, '\\' :: 'U' :: a :: b :: c :: d :: e :: f :: g :: h :: rest => do
    let char ← scalar? [a, b, c, d, e, f, g, h]
    let (t, rest) ← readBasicLines? .inside rest
    return (char :: t, rest)
  | .afterBreak, '\\' :: 'U' :: a :: b :: c :: d :: e :: f :: g :: h :: rest => do
    let char ← scalar? [a, b, c, d, e, f, g, h]
    let (t, rest) ← readBasicLines? .inside rest
    return (char :: t, rest)
  | _, '\\' :: letter :: rest => do
    if letter = '\n' then readBasicLines? .afterBreak rest
    else if isGap letter then readBasicLines? .beforeBreak rest
    else
      let char ← escapeOf? letter
      let (t, rest) ← readBasicLines? .inside rest
      return (char :: t, rest)
  | mode, c :: rest =>
    if mode = .afterBreak ∧ isGapOrBreak c then readBasicLines? .afterBreak rest
    else if (isControl c && c != '\n') || c == '\\' then none
    else (readBasicLines? .inside rest).map fun (t, rest) => (c :: t, rest)

/-- Reads the rest of a string between single quotes on one line. -/
def readLiteral? : Text → Option (Text × Text)
  | [] => none
  | '\'' :: rest => some ([], rest)
  | c :: rest =>
    if isControl c then none else (readLiteral? rest).map fun (t, rest) => (c :: t, rest)

def readLiteralLines? : Text → Option (Text × Text)
  | [] => none
  | '\'' :: '\'' :: '\'' :: rest => some ([], rest)
  | c :: rest =>
    if isControl c && c != '\n' then none
    else (readLiteralLines? rest).map fun (t, rest) => (c :: t, rest)

def dropBreak : Text → Text
  | '\n' :: rest => rest
  | t => t

/-- Up to two quotes right after the closing ones belong to the string. -/
def withExtraQuotes (quote : Char) : Text × Text → Text × Text
  | (t, c :: d :: rest) =>
    if c = quote then
      if d = quote then (t ++ [quote, quote], rest) else (t ++ [quote], d :: rest)
    else (t, c :: d :: rest)
  | (t, [c]) => if c = quote then (t ++ [quote], []) else (t, [c])
  | (t, []) => (t, [])

def readString? : Text → Option (Text × Text)
  | '"' :: '"' :: '"' :: rest =>
    (readBasicLines? .inside (dropBreak rest)).map (withExtraQuotes '"')
  | '"' :: rest => readBasic? rest
  | '\'' :: '\'' :: '\'' :: rest =>
    (readLiteralLines? (dropBreak rest)).map (withExtraQuotes '\'')
  | '\'' :: rest => readLiteral? rest
  | _ => none

/-! ## Keys -/

/-- A key, as the names that its dots separate. -/
abbrev Key := List Text

def readName? : Text → Option (Text × Text)
  | '"' :: rest => readBasic? rest
  | '\'' :: rest => readLiteral? rest
  | t =>
    match t.takeWhile isKeyChar with
    | [] => none
    | name => some (name, t.dropWhile isKeyChar)

/-- Reads a key of at most `fuel` names, and the blanks after it. -/
def readKey? : (fuel : Nat) → Text → Option (Key × Text)
  | 0, _ => none
  | fuel + 1, t => do
    let (name, rest) ← readName? t
    match skipGap rest with
    | '.' :: rest =>
      let (names, rest) ← readKey? fuel (skipGap rest)
      return (name :: names, rest)
    | rest => return ([name], rest)

end TaskTitles.Toml
