import TaskTitles.Calendar.Format
import TaskTitles.CommandLine.Help
import TaskTitles.Files.Path
import TaskTitles.Files.Place
import TaskTitles.Report.Titles
import TaskTitles.Validation.Numeral

/-!
# Requests

What a command line asks for: the options in front of the command, and the command with its values.
A command line that asks for a help page, for examples or for the version is answered with that page
and nothing else.
-/

namespace TaskTitles.CommandLine

open Text Files Calendar

/-- Why a command line leads to no request. -/
inductive Stop where
  | page (t : Text)
  | usage (command : Command) (e : UsageError)
  /-- A word that should be a path is none. -/
  | file (cause : FileError)
  deriving DecidableEq

/-- Marks an error with the command whose line it is in. -/
def refuse {α : Type} (command : Command) (e : UsageError) : Except Stop α :=
  .error (.usage command e)

def pageOf? (command : Command) (given : Given) : Option Text :=
  if given.switch = helpSwitch then some command.helpPage
  else if given.switch = examplesSwitch then some command.examplesPage
  else if given.switch = versionSwitch then some versionPage
  else none

/-- Takes the line of a command apart, unless it asks for a page. -/
def read (command : Command) (mixed : Bool) (words : List Text) : Except Stop Parsed :=
  match parse command.switches mixed words with
  | .error e => refuse command e
  | .ok parsed =>
    match parsed.given.findSome? (pageOf? command) with
    | some page => .error (.page page)
    | none => .ok parsed

/-! ## Values -/

def dayValue (command : Command) (name t : Text) : Except Stop Date :=
  let format : Text := "%Y-%m-%d"
  match readDate? format t with
  | .ok (some d) => .ok d
  | _ =>
    refuse command (.invalidValue (quoted name)
      (quoted t ++ " does not match the format " ++ quoted format ++ "."))

/-- The digits of a numeral, in which single underscores may stand between digits of any script. -/
def numeralDigits? : Text → Option Text
  | [] => none
  | [c] => if isDecimalDigit c then some [c] else none
  | c :: '_' :: d :: rest =>
    if isDecimalDigit c then (numeralDigits? (d :: rest)).map (c :: ·) else none
  | c :: rest => if isDecimalDigit c then (numeralDigits? rest).map (c :: ·) else none

/-- The integer that a text writes, white space aside.  A numeral with too many digits writes
    none. -/
def integerOfText? (t : Text) : Option Int :=
  let (isNegative, unsigned) := Validation.splitSign (strip t)
  ((numeralDigits? unsigned).filter (·.length ≤ Flaw.maxDigits)).map fun digits =>
    if isNegative then -(digitsValue digits : Int) else digitsValue digits

def timestampValue (command : Command) (name t : Text) : Except Stop Timestamp :=
  match integerOfText? t with
  | none =>
    refuse command (.invalidValue (quoted name) (quoted t ++ " is not a valid integer range."))
  | some v =>
    if Timestamp.isRepresentable v then .ok v
    else refuse command (.invalidValue (quoted name)
      (ofInt v ++ " is not in the range 0<=x<=" ++ ofInt Timestamp.last ++ "."))

/-- The path of a file that may be absent but must be readable if it is there. -/
def fileValue (command : Command) (look : Path → Place) (name t : Text) : Except Stop Path :=
  let path := Path.ofText t
  let refused (what : Text) : Except Stop Path :=
    refuse command (.invalidValue ("'" ++ name ++ "'") ("File " ++ quoted t ++ what))
  if t = [] then .ok path
  else match (look path).entry with
    | .directory => refused " is a directory."
    | .locked .notPermitted => refused " is not readable."
    | .unnameable => .error (.file .nullCharacter)
    | _ => .ok path

/-! ## The options in front of the command -/

structure Globals where
  json : Bool := false
  quiet : Bool := false
  verbose : Bool := false
  logJson : Bool := false
  config : Option Text := none
  today : Option Date := none
  deriving DecidableEq

/-- The options in front of the command, and the words from the command on. -/
def readGlobals (words : List Text) : Except Stop (Globals × List Text) := do
  let parsed ← read root false words
  let today ← (parsed.value? "--today").mapM (dayValue root "--today")
  return ({ json := parsed.has "--json", quiet := parsed.has "--quiet"
            verbose := parsed.has "--verbose", logJson := parsed.has "--log-json"
            config := parsed.value? "--config", today }, parsed.words)

/-- The settings that the options give.  The four flags are always given. -/
def Globals.toFields (globals : Globals) : Value.Fields :=
  let flags : Value.Fields :=
    [("json_output", .bool globals.json), ("quiet", .bool globals.quiet),
     ("verbose", .bool globals.verbose), ("log_json", .bool globals.logJson)]
  match globals.today with
  | some d => ("today", .date d) :: flags
  | none => flags

/-! ## The command -/

/-- The command that a word names.  Where an option stands in its place, the line is read from it on
    once more, so that a page is shown and a mistake is named. -/
def commandOf (word : Text) (rest : List Text) : Except Stop CommandName :=
  match CommandName.ofWord? word with
  | some name => .ok name
  | none => do
    if isOption word then
      let _ ← readGlobals (word :: rest)
    refuse root (.noSuchCommand word (mostLike word (CommandName.all.map (·.word))))

inductive Request where
  | tokens (title : Text)
  | date (t : Text)
  | placeholder (status context : Option Text)
  | normalize (draft : Draft)
  | sync (snapshot : Path) (dryRun : Bool)

def oneWord {α : Type} (command : Command) (name : Text) (words : List Text)
    (value : Text → Except Stop α) : Except Stop α :=
  match words with
  | [] => refuse command (.missingArgument name)
  | word :: extra => do
    let a ← value word
    if extra = [] then return a else refuse command (.extraArguments extra)

def readRequest (look : Path → Place) (name : CommandName) (words : List Text) :
    Except Stop Request := do
  let command := name.command
  let parsed ← read command true words
  match name with
  | .tokens => (oneWord command "TITLE" parsed.words .ok).map .tokens
  | .date => (oneWord command "TEXT" parsed.words .ok).map .date
  | .placeholder =>
    if parsed.words = [] then
      return .placeholder (parsed.value? "--status") (parsed.value? "--context")
    else refuse command (.extraArguments parsed.words)
  | .normalize =>
    let due ← (parsed.value? "--due").mapM (timestampValue command "--due")
    let title ← oneWord command "TITLE" parsed.words .ok
    return .normalize {
      title
      note := (parsed.value? "--note").getD []
      status := parsed.value? "--status"
      dueDate := due.getD Timestamp.blank }
  | .sync =>
    let path ← oneWord command "SNAPSHOT" parsed.words (fileValue command look "SNAPSHOT")
    return .sync path (parsed.has "--dry-run")

end TaskTitles.CommandLine
