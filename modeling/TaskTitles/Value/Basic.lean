import TaskTitles.Calendar.Date
import TaskTitles.Text.Quoted
import TaskTitles.Value.Decimal

/-!
# Values of documents

The values that documents hold before they are checked: those of JSON and of configuration files,
and the payloads of results.  Tables remember the order in which their keys came; of two entries
with one key the later one counts, in the place of the earlier.
-/

namespace TaskTitles

open Calendar

structure TimeOfDay where
  hour : Nat
  minute : Nat
  second : Nat
  microsecond : Nat
  deriving Repr, DecidableEq

def TimeOfDay.midnight : TimeOfDay := ⟨0, 0, 0, 0⟩

/-- A value of a document. -/
inductive Value where
  | null
  | bool (b : Bool)
  | int (n : Int)
  | real (x : Double)
  /-- Not a number, and the two infinities. -/
  | notFinite (name : Text)
  | text (t : Text)
  | list (items : List Value)
  | table (fields : List (Text × Value))
  | date (d : Date)
  | dateTime (d : Date) (time : TimeOfDay)
  | time (time : TimeOfDay)

namespace Value

/-- The number `digits * 10 ^ exponent` or its negative, in double precision. -/
def ofScientific (isNegative : Bool) (digits : Nat) (exponent : Int) : Value :=
  match Double.ofDecimal? isNegative ⟨digits, exponent⟩ with
  | some x => .real x
  | none => .notFinite (if isNegative then "-inf" else "inf")

abbrev Fields := List (Text × Value)

/-- Sets a field: in its place if the key is there, else at the end. -/
def Fields.set (key : Text) (value : Value) : Fields → Fields
  | [] => [(key, value)]
  | (k, v) :: rest => if k = key then (k, value) :: rest else (k, v) :: Fields.set key value rest

/-- The fields in their order of arrival, each key once. -/
def Fields.ofPairs (pairs : Fields) : Fields :=
  pairs.foldl (fun fields (key, value) => Fields.set key value fields) []

def Fields.get? (fields : Fields) (key : Text) : Option Value :=
  (fields.find? fun entry => entry.1 == key).map (·.2)

def field? (key : Text) : Value → Option Value
  | table fields => Fields.get? fields key
  | _ => none

def ofText? : Option Text → Value
  | some t => text t
  | none => null

def ofTexts (ts : List Text) : Value := list (ts.map text)

def boolText (b : Bool) : Text := if b then "True" else "False"

mutual

/-- A value inside a list or a table, as plain text shows it. -/
def nested : Value → Text
  | null => "None"
  | bool b => boolText b
  | int n => Text.ofInt n
  | real x => x.toText .plain
  | notFinite name => name
  | text t => Text.quoted t
  | list items => "[" ++ Text.joinWith ", " (nestedItems items) ++ "]"
  | table fields => '{' :: Text.joinWith ", " (nestedFields fields) ++ ['}']
  | date d => d.isoText
  | dateTime d _ => d.isoText
  | time _ => []

def nestedItems : List Value → List Text
  | [] => []
  | item :: rest => nested item :: nestedItems rest

def nestedFields : List (Text × Value) → List Text
  | [] => []
  | (key, value) :: rest => (Text.quoted key ++ ": " ++ nested value) :: nestedFields rest

end

/-- A value as plain text: a text stands for itself, other values as inside a list. -/
def plain : Value → Text
  | text t => t
  | value => nested value

mutual

/-- The integers in a value, from left to right. -/
def integers : Value → List Int
  | int n => [n]
  | list items => itemIntegers items
  | table fields => fieldIntegers fields
  | _ => []

def itemIntegers : List Value → List Int
  | [] => []
  | item :: rest => integers item ++ itemIntegers rest

def fieldIntegers : List (Text × Value) → List Int
  | [] => []
  | (_, value) :: rest => integers value ++ fieldIntegers rest

end

/-- Whether a value counts as true: neither nothing, false, zero nor empty. -/
def isTruthy : Value → Bool
  | null => false
  | bool b => b
  | int n => n != 0
  | real x => x.significand != 0
  | text t => !t.isEmpty
  | list items => !items.isEmpty
  | table fields => !fields.isEmpty
  | _ => true

end Value

end TaskTitles
