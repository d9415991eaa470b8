import TaskTitles.Toml.Document
import TaskTitles.Toml.Scalar

/-!
# Reading TOML

`read` answers the fields of a TOML document, or why the text is none.  Values that lie inside each
other may only go to a certain depth, to which a list adds less than an inline table.
-/

namespace TaskTitles.Toml

/-! ## Depth -/

/-- What a list adds to the depth. -/
def listDepth : Nat := 2

/-- What an inline table adds to the depth. -/
def inlineDepth : Nat := 3

def maxDepth : Nat := 960

def checkDepth (depth : Nat) : Except Flaw Unit :=
  if maxDepth < depth then throw .tooDeep else pure ()

/-! ## Values -/

mutual

/-- Reads a value at a depth.  The fuel bounds the recursion. -/
def readValue : (fuel depth : Nat) → Text → Except Flaw (Value × Text)
  | 0, _, _ => throw .malformed
  | fuel + 1, depth, t =>
    match t with
    | '[' :: rest => do
      checkDepth (depth + listDepth)
      let (items, rest) ← readItems fuel (depth + listDepth) rest
      return (.list items, rest)
    | '{' :: rest => do
      checkDepth (depth + inlineDepth)
      match skipGap rest with
      | '}' :: rest => return (.table [], rest)
      | rest =>
        let (fields, rest) ← readInline fuel (depth + inlineDepth) {} rest
        return (.table fields, rest)
    | '"' :: rest => do
      let (t, rest) ← Flaw.require (readString? ('"' :: rest))
      return (.text t, rest)
    | '\'' :: rest => do
      let (t, rest) ← Flaw.require (readString? ('\'' :: rest))
      return (.text t, rest)
    | t => readScalar t

/-- Reads the items of a list up to the closing bracket, before which a comma may stand. -/
def readItems : (fuel depth : Nat) → Text → Except Flaw (List Value × Text)
  | 0, _, _ => throw .malformed
  | fuel + 1, depth, t => do
    match ← Flaw.require (skipLines? t.length t) with
    | ']' :: rest => return ([], rest)
    | t =>
      let (item, rest) ← readValue fuel depth t
      match ← Flaw.require (skipLines? rest.length rest) with
      | ']' :: rest => return ([item], rest)
      | ',' :: rest =>
        let (items, rest) ← readItems fuel depth rest
        return (item :: items, rest)
      | _ => throw .malformed

def readPair : (fuel depth : Nat) → Text → Except Flaw (Key × Value × Text)
  | 0, _, _ => throw .malformed
  | fuel + 1, depth, t => do
    let (key, rest) ← Flaw.require (readKey? (t.length + 1) t)
    match rest with
    | '=' :: rest =>
      let (value, rest) ← readValue fuel depth (skipGap rest)
      return (key, value, rest)
    | _ => throw .malformed

def readInline : (fuel depth : Nat) → Inline → Text → Except Flaw (Value.Fields × Text)
  | 0, _, _, _ => throw .malformed
  | fuel + 1, depth, inline, t => do
    let (key, value, rest) ← readPair fuel depth t
    let inline ← Flaw.require (inline.addValue? key value)
    match skipGap rest with
    | '}' :: rest => return (inline.fields, rest)
    | ',' :: rest => readInline fuel depth inline (skipGap rest)
    | _ => throw .malformed

end

/-! ## Statements -/

/-- Reads a header up to its closing brackets: the document with it, its key and the rest. -/
def readHeader? (document : Document) : Text → Option (Document × Key × Text)
  | '[' :: '[' :: rest => do
    let (key, rest) ← readKey? (rest.length + 1) (skipGap rest)
    let document ← document.settle.declareItem? key
    match rest with
    | ']' :: ']' :: rest => return (document, key, rest)
    | _ => none
  | '[' :: rest => do
    let (key, rest) ← readKey? (rest.length + 1) (skipGap rest)
    let document ← document.settle.declareTable? key
    match rest with
    | ']' :: rest => return (document, key, rest)
    | _ => none
  | _ => none

/-- Reads a statement: nothing, a header, or a pair under the current header. -/
def readStatement (document : Document) (header : Key) (t : Text) :
    Except Flaw (Document × Key × Text) :=
  match t with
  | [] => .ok (document, header, [])
  | '\n' :: _ => .ok (document, header, t)
  | '#' :: _ => .ok (document, header, t)
  | '[' :: _ => Flaw.require (readHeader? document t)
  | t => do
    let (key, value, rest) ← readPair (t.length + 2) 0 t
    return (← Flaw.require (document.addValue? header key value), header, rest)

/-- Reads the statements from a line on, each on a line of its own. -/
def readStatements : (fuel : Nat) → Document → Key → Text → Except Flaw Value.Fields
  | 0, _, _, _ => throw .malformed
  | fuel + 1, document, header, t => do
    let (document, header, rest) ← readStatement document header (skipGap t)
    match ← Flaw.require (skipComment? (skipGap rest)) with
    | [] => return document.fields
    | '\n' :: rest => readStatements fuel document header rest
    | _ => throw .malformed

def read (t : Text) : Except Flaw Value.Fields := readStatements (t.length + 1) {} [] t

end TaskTitles.Toml
