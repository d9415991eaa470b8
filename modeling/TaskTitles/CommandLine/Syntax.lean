import TaskTitles.Text.Likeness
import TaskTitles.Text.Quoted

/-!
# The syntax of command lines

A command takes options and words.  An option starts with a hyphen; a single hyphen may be
followed by the letters of several flags, and a value follows its option as the next word or
directly.  Two hyphens alone end the options.
-/

namespace TaskTitles.CommandLine

open Text

structure Switch where
  /-- The ways to write it, short ones first. -/
  names : List Text
  /-- What a help page shows for its value; a flag has none. -/
  value : Option Text := none
  help : Text
  deriving Repr, DecidableEq

namespace Switch

/-- The name that identifies the option: the last one. -/
def key (switch : Switch) : Text := switch.names.getLast?.getD []

def takesValue (switch : Switch) : Bool := switch.value.isSome

end Switch

structure Given where
  switch : Switch
  value : Option Text := none
  deriving Repr, DecidableEq

/-- Why a command line cannot be understood.  An unknown name comes with the known ones that are
    like it. -/
inductive UsageError where
  | noSuchOption (name : Text) (similar : List Text)
  | missingValue (name : Text)
  | unwantedValue (name : Text)
  | invalidValue (name message : Text)
  | missingArgument (name : Text)
  | extraArguments (words : List Text)
  | noSuchCommand (name : Text) (similar : List Text)
  deriving Repr, DecidableEq

def suggestion : List Text → Text
  | [] => []
  | [name] => " Did you mean " ++ quoted name ++ "?"
  | names => " (Did you mean one of: " ++ joinWith ", " (names.map quoted) ++ "?)"

def UsageError.message : UsageError → Text
  | noSuchOption name similar => "No such option " ++ quoted name ++ "." ++ suggestion similar
  | missingValue name => "Option " ++ quoted name ++ " requires an argument."
  | unwantedValue name => "Option " ++ quoted name ++ " does not take a value."
  | invalidValue name message => "Invalid value for " ++ name ++ ": " ++ message
  | missingArgument name => "Missing argument '" ++ name ++ "'."
  | extraArguments words =>
    "Got unexpected extra argument" ++ (if words.length = 1 then [] else ['s'])
      ++ " (" ++ joinWith " " words ++ ")"
  | noSuchCommand name similar => "No such command " ++ quoted name ++ "." ++ suggestion similar

/-- Whether the error is shown below the usage of the command. -/
def UsageError.showsUsage : UsageError → Bool
  | missingValue _ | unwantedValue _ => false
  | _ => true

/-! ## Options -/

/-- Whether a word starts an option: a hyphen and something after it. -/
def isOption (word : Text) : Bool :=
  match word with
  | '-' :: _ :: _ => true
  | _ => false

def find? (switches : List Switch) (name : Text) : Option Switch :=
  switches.find? fun switch => name ∈ switch.names

/-- A word with options is complete, or its last option waits for a value in the next word. -/
inductive Read where
  | complete (given : List Given)
  | waiting (given : List Given) (switch : Switch) (name : Text)

def readLetters (switches : List Switch) : Text → Except UsageError Read
  | [] => .ok (.complete [])
  | letter :: rest =>
    let name : Text := ['-', letter]
    match find? switches name with
    | none => .error (.noSuchOption name [])
    | some switch =>
      if switch.takesValue then
        match rest with
        | [] => .ok (.waiting [] switch name)
        | value => .ok (.complete [⟨switch, some value⟩])
      else
        match readLetters switches rest with
        | .error e => .error e
        | .ok (.complete given) => .ok (.complete (⟨switch, none⟩ :: given))
        | .ok (.waiting given last name) => .ok (.waiting (⟨switch, none⟩ :: given) last name)

def isLong (word : Text) : Bool := startsWith "--" word

def longNames (switches : List Switch) : List Text := (switches.flatMap (·.names)).filter isLong

def splitValue (word : Text) : Text × Option Text :=
  match cut? "=" word with
  | some (name, value) => (name, some value)
  | none => (word, none)

def readOption (switches : List Switch) (word : Text) : Except UsageError Read :=
  let (name, value) := splitValue word
  match if isLong name then find? switches name else none with
  | some switch =>
    match switch.takesValue, value with
    | true, some value => .ok (.complete [⟨switch, some value⟩])
    | true, none => .ok (.waiting [] switch name)
    | false, some _ => .error (.unwantedValue name)
    | false, none => .ok (.complete [⟨switch, none⟩])
  | none =>
    if isLong word then .error (.noSuchOption name (mostLike name (longNames switches)))
    else readLetters switches (word.drop 1)

/-! ## Command lines -/

/-- A command line taken apart: the options in their order, and the other words. -/
structure Parsed where
  given : List Given := []
  words : List Text := []
  deriving Repr, DecidableEq

def Parsed.withGiven (given : List Given) (parsed : Parsed) : Parsed :=
  { parsed with given := given ++ parsed.given }

/-- Takes a command line apart.  Options may stand between the words if `mixed` says so; otherwise
    the first word ends them. -/
def parse (switches : List Switch) (mixed : Bool) : List Text → Except UsageError Parsed
  | [] => .ok {}
  | word :: rest =>
    if word = ['-', '-'] then .ok { words := rest }
    else if isOption word then
      match readOption switches word with
      | .error e => .error e
      | .ok (.complete given) => (parse switches mixed rest).map (·.withGiven given)
      | .ok (.waiting given switch name) =>
        match rest with
        | [] => .error (.missingValue name)
        | value :: rest =>
          (parse switches mixed rest).map (·.withGiven (given ++ [⟨switch, some value⟩]))
    else if mixed then
      (parse switches mixed rest).map fun parsed => { parsed with words := word :: parsed.words }
    else .ok { words := word :: rest }

namespace Parsed

def has (parsed : Parsed) (key : Text) : Bool := parsed.given.any (·.switch.key == key)

/-- The last value that is given for an option. -/
def value? (parsed : Parsed) (key : Text) : Option Text :=
  ((parsed.given.filter (·.switch.key == key)).getLast?).bind (·.value)

end Parsed

end TaskTitles.CommandLine
