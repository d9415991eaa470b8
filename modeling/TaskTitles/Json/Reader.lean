import TaskTitles.Value.Basic
import TaskTitles.Value.Flaw

/-!
# Reading JSON

`read` accepts exactly the JSON texts, and besides the words `NaN`, `Infinity` and `-Infinity`, as
far as they keep within limits: those of a file, or those of an environment variable.  A control
character inside a string is refused.
-/

namespace TaskTitles.Json

open Text

/-! ## Limits -/

structure Limits where
  /-- The most lists and tables with content that may lie inside each other. -/
  depth : Option Nat := none
  /-- Whether a number with that many digits before its point is refused. -/
  refusesDigits : (isNegative isInteger : Bool) → (digits : Nat) → Bool := fun _ _ _ => false
  /-- Whether half of a surrogate pair counts as the replacement character; else it is refused. -/
  replacesHalves : Bool := false

namespace Limits

/-- The limits of a file.  The sign of a number counts as a digit. -/
def file : Limits where
  depth := some 199
  refusesDigits isNegative _ digits := Flaw.maxDigits < digits + isNegative.toNat

/-- The limits of an environment variable.  Numbers with a fraction or an exponent may be of any
    length. -/
def environment : Limits where
  depth := some 950
  refusesDigits _ isInteger digits := isInteger && Flaw.maxDigits < digits
  replacesHalves := true

end Limits

def isSpace (c : Char) : Bool := c == ' ' || c == '\n' || c == '\r' || c == '\t'

def skipSpace (t : Text) : Text := t.dropWhile isSpace

/-! ## Strings -/

def hexValue? (c : Char) : Option Nat :=
  if '0' ≤ c ∧ c ≤ '9' then some (c.toNat - '0'.toNat)
  else if 'a' ≤ c ∧ c ≤ 'f' then some (c.toNat - 'a'.toNat + 10)
  else if 'A' ≤ c ∧ c ≤ 'F' then some (c.toNat - 'A'.toNat + 10)
  else none

def hexNumber? (digits : Text) : Option Nat :=
  digits.foldlM (fun n c => (hexValue? c).map (n * 16 + ·)) 0

def escapeOf? : Char → Option Char
  | '"' => some '"'
  | '\\' => some '\\'
  | '/' => some '/'
  | 'b' => some '\x08'
  | 'f' => some '\x0c'
  | 'n' => some '\n'
  | 'r' => some '\r'
  | 't' => some '\t'
  | _ => none

/-- Whether a UTF-16 unit is the first of a pair. -/
def isHighUnit (n : Nat) : Bool := 0xD800 ≤ n && n < 0xDC00

/-- Whether a UTF-16 unit is the second of a pair. -/
def isLowUnit (n : Nat) : Bool := 0xDC00 ≤ n && n < 0xE000

/-- The character of a UTF-16 unit that belongs to no pair. -/
def charOfUnit? (limits : Limits) (unit : Nat) : Option Char :=
  if isHighUnit unit || isLowUnit unit then if limits.replacesHalves then some '\uFFFD' else none
  else some (Char.ofNat unit)

def charOfPair? (high low : Nat) : Option Char :=
  if isHighUnit high && isLowUnit low then
    some (Char.ofNat (0x10000 + (high - 0xD800) * 0x400 + (low - 0xDC00)))
  else none

/-- Reads the rest of a string after its opening quote; returns what follows the closing quote. -/
def readString? (limits : Limits) : Text → Option (Text × Text)
  | [] => none
  | '"' :: rest => some ([], rest)
  | '\\' :: 'u' :: a :: b :: c :: d :: '\\' :: 'u' :: e :: f :: g :: h :: rest => do
    let unit ← hexNumber? [a, b, c, d]
    match (hexNumber? [e, f, g, h]).bind (charOfPair? unit) with
    | some char =>
      let (t, rest) ← readString? limits rest
      return (char :: t, rest)
    | none =>
      let char ← charOfUnit? limits unit
      let (t, rest) ← readString? limits ('\\' :: 'u' :: e :: f :: g :: h :: rest)
      return (char :: t, rest)
  | '\\' :: 'u' :: a :: b :: c :: d :: rest => do
    let char ← charOfUnit? limits (← hexNumber? [a, b, c, d])
    let (t, rest) ← readString? limits rest
    return (char :: t, rest)
  | '\\' :: letter :: rest => do
    let char ← escapeOf? letter
    let (t, rest) ← readString? limits rest
    return (char :: t, rest)
  | c :: rest =>
    if c.toNat < 0x20 ∨ c = '\\' then none
    else (readString? limits rest).map fun (t, rest) => (c :: t, rest)

/-! ## Numbers -/

def takeDigits (t : Text) : Text × Text := (t.takeWhile Char.isDigit, t.dropWhile Char.isDigit)

/-- Reads the exponent of a number, 0 where there is none; also says whether there was one. -/
def readExponent? (t : Text) : Option (Int × Bool × Text) :=
  let signed (sign : Int) (t : Text) : Option (Int × Bool × Text) :=
    match takeDigits t with
    | ([], _) => none
    | (digits, rest) => some (sign * digitsValue digits, true, rest)
  match t with
  | 'e' :: '+' :: t => signed 1 t
  | 'e' :: '-' :: t => signed (-1) t
  | 'e' :: t => signed 1 t
  | 'E' :: '+' :: t => signed 1 t
  | 'E' :: '-' :: t => signed (-1) t
  | 'E' :: t => signed 1 t
  | t => some (0, false, t)

/-- Reads an unsigned number: an integer unless it has a fraction or an exponent. -/
def readUnsigned (limits : Limits) (isNegative : Bool) (t : Text) : Except Flaw (Value × Text) := do
  let (whole, rest) := takeDigits t
  if whole = [] ∨ (1 < whole.length ∧ whole.head? = some '0') then throw .malformed
  let (fraction, rest) ← match rest with
    | '.' :: rest =>
      match takeDigits rest with
      | ([], _) => throw .malformed
      | (fraction, rest) => pure (some fraction, rest)
    | rest => pure (none, rest)
  let (exponent, hasExponent, rest) ← Flaw.require (readExponent? rest)
  let isInteger := fraction.isNone && !hasExponent
  if limits.refusesDigits isNegative isInteger whole.length then
    throw (.tooManyDigits whole.length)
  let places := fraction.getD []
  let digits := digitsValue (whole ++ places)
  if isInteger then return (.int (if isNegative then -digits else digits), rest)
  return (.ofScientific isNegative digits (exponent - places.length), rest)

def readNumber (limits : Limits) : Text → Except Flaw (Value × Text)
  | '-' :: t => readUnsigned limits true t
  | t => readUnsigned limits false t

/-! ## Values -/

def words : List (Text × Value) :=
  [("null", .null), ("true", .bool true), ("false", .bool false), ("NaN", .notFinite "nan"),
   ("Infinity", .notFinite "inf"), ("-Infinity", .notFinite "-inf")]

def readWord? (t : Text) : Option (Value × Text) :=
  words.findSome? fun (word, value) => (dropLead? word t).map (value, ·)

def checkDepth (limits : Limits) (depth : Nat) : Except Flaw Unit :=
  if limits.depth.any (· ≤ depth) then throw .tooDeep else pure ()

mutual

/-- Reads a value at the start of a text, inside `depth` lists and tables.  The fuel bounds the
    recursion. -/
def readValue (limits : Limits) : (fuel depth : Nat) → Text → Except Flaw (Value × Text)
  | 0, _, _ => throw .malformed
  | fuel + 1, depth, t =>
    match t with
    | '"' :: rest => do
      let (t, rest) ← Flaw.require (readString? limits rest)
      return (.text t, rest)
    | '[' :: rest =>
      match skipSpace rest with
      | ']' :: rest => return (.list [], rest)
      | rest => do
        checkDepth limits depth
        let (items, rest) ← readItems limits fuel (depth + 1) rest
        return (.list items, rest)
    | '{' :: rest =>
      match skipSpace rest with
      | '}' :: rest => return (.table [], rest)
      | rest => do
        checkDepth limits depth
        let (fields, rest) ← readFields limits fuel (depth + 1) rest
        return (.table (Value.Fields.ofPairs fields), rest)
    | t =>
      match readWord? t with
      | some found => return found
      | none => readNumber limits t

def readItems (limits : Limits) : (fuel depth : Nat) → Text → Except Flaw (List Value × Text)
  | 0, _, _ => throw .malformed
  | fuel + 1, depth, t => do
    let (item, rest) ← readValue limits fuel depth (skipSpace t)
    match skipSpace rest with
    | ']' :: rest => return ([item], rest)
    | ',' :: rest =>
      let (items, rest) ← readItems limits fuel depth rest
      return (item :: items, rest)
    | _ => throw .malformed

def readFields (limits : Limits) :
    (fuel depth : Nat) → Text → Except Flaw (List (Text × Value) × Text)
  | 0, _, _ => throw .malformed
  | fuel + 1, depth, t =>
    match skipSpace t with
    | '"' :: rest => do
      let (key, rest) ← Flaw.require (readString? limits rest)
      match skipSpace rest with
      | ':' :: rest =>
        let (value, rest) ← readValue limits fuel depth (skipSpace rest)
        match skipSpace rest with
        | '}' :: rest => return ([(key, value)], rest)
        | ',' :: rest =>
          let (fields, rest) ← readFields limits fuel depth rest
          return ((key, value) :: fields, rest)
        | _ => throw .malformed
      | _ => throw .malformed
    | _ => throw .malformed

end

def read (limits : Limits) (t : Text) : Except Flaw Value := do
  let (value, rest) ← readValue limits (t.length + 1) 0 (skipSpace t)
  if skipSpace rest = [] then return value else throw .malformed

end TaskTitles.Json
