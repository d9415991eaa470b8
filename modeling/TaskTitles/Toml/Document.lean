import TaskTitles.Toml.Lexical

/-!
# Building a TOML document

A document is built up statement by statement.  No value is ever overwritten: a list or table that
was written as a value is closed for good, and a table is declared once, be it by its header or by
the dotted keys of one block.  Only lists of tables go on growing.
-/

namespace TaskTitles.Toml

structure Document where
  fields : Value.Fields := []
  /-- The keys of lists and tables that were written as values. -/
  closed : List Key := []
  /-- The keys of tables that must not be declared again. -/
  declared : List Key := []
  /-- The keys that dotted keys have declared since the last header. -/
  opened : List Key := []

/-- Changes the table behind a key, which is made if it is not there yet.  Behind a list of tables
    stands its last one, if `intoLists` says so. -/
def changeAt (intoLists : Bool) (change : Value.Fields → Option Value.Fields) :
    Key → Value.Fields → Option Value.Fields
  | [], fields => change fields
  | name :: names, fields =>
    match fields.get? name with
    | none => do
      let below ← changeAt intoLists change names []
      return Value.Fields.set name (.table below) fields
    | some (.table below) => do
      let below ← changeAt intoLists change names below
      return Value.Fields.set name (.table below) fields
    | some (.list items) =>
      match intoLists, items.getLast? with
      | true, some (.table below) => do
        let below ← changeAt intoLists change names below
        return Value.Fields.set name (.list (items.dropLast ++ [.table below])) fields
      | _, _ => none
    | some _ => none

def addField (name : Text) (value : Value) (fields : Value.Fields) : Option Value.Fields :=
  if (fields.get? name).isSome then none else some (fields ++ [(name, value)])

/-- Adds an empty table to a list of tables, which is made if it is not there yet. -/
def addToList (name : Text) (fields : Value.Fields) : Option Value.Fields :=
  match fields.get? name with
  | none => some (fields ++ [(name, .list [.table []])])
  | some (.list items) => some (Value.Fields.set name (.list (items ++ [.table []])) fields)
  | some _ => none

def isContainer : Value → Bool
  | .list _ | .table _ => true
  | _ => false

/-- The beginnings of a key, without the empty one and the key itself. -/
def properPrefixes (key : Key) : List Key :=
  (List.range (key.length - 1)).map fun n => key.take (n + 1)

namespace Document

/-- Whether the key is, or lies inside of, something that was written as a value. -/
def isClosed (document : Document) (key : Key) : Bool :=
  document.closed.any fun k => k.isPrefixOf key

/-- The document before the next header. -/
def settle (document : Document) : Document :=
  { document with declared := document.opened ++ document.declared, opened := [] }

def declareTable? (document : Document) (key : Key) : Option Document :=
  if key ∈ document.declared ∨ document.isClosed key then none
  else do
    let fields ← changeAt true some key document.fields
    return { document with fields, declared := key :: document.declared }

/-- Starts a further table of a list by its header.  What was declared inside the table before it
    may be declared anew. -/
def declareItem? (document : Document) (key : Key) : Option Document :=
  if document.isClosed key then none
  else do
    let fields ← changeAt true (addToList (key.getLast?.getD [])) key.dropLast document.fields
    let isOther (k : Key) : Bool := !key.isPrefixOf k
    return { document with
      fields
      closed := document.closed.filter isOther
      declared := key :: document.declared.filter isOther }

def addValue? (document : Document) (header key : Key) (value : Value) : Option Document :=
  let parents := (properPrefixes key).map (header ++ ·)
  let parent := header ++ key.dropLast
  if parents.any (· ∈ document.declared) ∨ document.isClosed parent then none
  else do
    let fields ← changeAt true (addField (key.getLast?.getD []) value) parent document.fields
    return { document with
      fields
      opened := parents ++ document.opened
      closed := if isContainer value then (header ++ key) :: document.closed
        else document.closed }

end Document

/-- An inline table under construction: its fields, and the keys of the lists and tables in it. -/
structure Inline where
  fields : Value.Fields := []
  closed : List Key := []

def Inline.addValue? (inline : Inline) (key : Key) (value : Value) : Option Inline :=
  if inline.closed.any fun k => k.isPrefixOf key then none
  else do
    let fields ← changeAt false (addField (key.getLast?.getD []) value) key.dropLast inline.fields
    return { fields, closed := if isContainer value then key :: inline.closed else inline.closed }

end TaskTitles.Toml
