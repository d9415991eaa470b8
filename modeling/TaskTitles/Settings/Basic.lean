import TaskTitles.Conventions.Record
import TaskTitles.Files.Place
import TaskTitles.Settings.Environment
import TaskTitles.Toml.Reader
import TaskTitles.Validation.Dates

/-!
# Settings

The settings of one run come from four layers: flags of the command line, the environment, the
configuration file, and the defaults.  A setting has the value of the first layer that gives one,
and the fields of a section are looked up one by one.  The names of settings ignore case in flags as
in the environment.
-/

namespace TaskTitles

open Files Validation Calendar

structure Settings where
  configPath : Option Path := none
  /-- The day that counts as today, if it is pinned. -/
  today : Option Date := none
  jsonOutput : Bool := false
  quiet : Bool := false
  verbose : Bool := false
  logJson : Bool := false
  conventions : Conventions := {}

namespace Settings

inductive Fault where
  /-- The text of the file at the path is no TOML document. -/
  | invalidToml (path : Text)
  /-- The same, as it is shown to the user of a command. -/
  | refusedToml (path : Text)
  | undecodable
  | unreadable (cause : FileError)
  | tooManyDigits (digits : Nat)
  | tooDeep
  /-- A variable for the section had to be JSON. -/
  | environment (sectionName : Text)
  | invalid (faults : List Validation.Fault)
  deriving DecidableEq

/-- This stands in the place of the reason that the reader of the document gives, which is left out
    here. -/
def noToml : Text := "the text is no TOML document"

def Fault.message? : Fault → Option Text
  | invalidToml path | refusedToml path => some ("Invalid TOML in " ++ path ++ ": " ++ noToml)
  | tooManyDigits digits =>
    some (Flaw.limitText ++ ": value has " ++ Text.ofNat digits ++ " digits")
  | environment name =>
    some ("error parsing value for field \"" ++ name ++ "\" from source \"EnvSettingsSource\"")
  | _ => none

def Fault.ofFile (path : Path) : Flaw → Fault
  | .malformed => invalidToml path.toText
  | .tooManyDigits digits => tooManyDigits digits
  | .tooDeep => tooDeep

/-- The fault that a command ends with.  A file that is no TOML document is shown to the user, while
    anything else passes. -/
def Fault.shown : Fault → Fault
  | invalidToml path => refusedToml path
  | fault => fault

def Fault.ofSection (sectionName : Text) : Flaw → Fault
  | .tooDeep => tooDeep
  | _ => environment sectionName

/-! ## The configuration file -/

def readToml (look : Path → Place) (path : Path) : Except Fault Value.Fields :=
  match (look path).read with
  | .error e => .error (.unreadable e)
  | .ok content =>
    match decode? content with
    | none => .error .undecodable
    | some t => (Toml.read t).mapError (.ofFile path)

def isTable : Value → Bool
  | .table _ => true
  | _ => false

/-- The conventions in the sections of a file, and nothing else of it. -/
def conventionsIn (fields : Value.Fields) : Checked Conventions :=
  Conventions.ofFields (fields.filter fun field => isTable field.2)

/-- The conventions of the file at a path, or of the one that is found from a directory; without a
    file, the defaults. -/
def loadConventions (look : Path → Place) (environment : Environment) (path : Option Path)
    (start : Path) : Except Fault Conventions := do
  let found ← match path with
    | some path => .ok (some path)
    | none =>
      (find? (fun p => (look p).isFile) (environment.get? pathVariable) start).mapError .unreadable
  match found with
  | none => return {}
  | some path =>
    match conventionsIn (← readToml look path) with
    | .valid conventions => return conventions
    | .invalid faults => .error (.invalid faults)

/-! ## All layers -/

def configPathName : Text := "config_path"

def names : List Text := configPathName :: plainNames ++ Conventions.sectionNames

def refuseUnknown (fields : Value.Fields) : Checked Unit :=
  match fields.filter fun field => field.1 ∉ names with
  | [] => .valid ()
  | unknown =>
    .invalid (unknown.map fun field => ⟨[.field field.1], Cause.unknownField⟩)

def ofFields (configPath : Option Path) (fields : Value.Fields) : Checked Settings :=
  Checked.valid (fun today json quiet verbose logJson conventions () =>
      { configPath, today, jsonOutput := json, quiet, verbose, logJson, conventions })
    |>.and (fieldOf fields "today" (nullable date) (some none))
    |>.and (fieldOf fields "json_output" bool (some false))
    |>.and (fieldOf fields "quiet" bool (some false))
    |>.and (fieldOf fields "verbose" bool (some false))
    |>.and (fieldOf fields "log_json" bool (some false))
    |>.and (Conventions.ofFields fields)
    |>.and (refuseUnknown fields)

/-- The configuration file of a run: the named one if it exists, else the one that is found.  An
    empty name counts as none. -/
def configFile? (look : Path → Place) (environment : Environment) (named : Option Text)
    (start : Path) : Except FileError (Option Path) :=
  let isFile (p : Path) := (look p).isFile
  match named with
  | some (c :: cs) => fileAt? isFile (.ofText (c :: cs))
  | _ => find? isFile (environment.get? pathVariable) start

/-- The flags by the names of the settings that they set.  Of several flags for one setting the
    first counts, and a flag for none keeps its name. -/
def flagSettings (flags : Value.Fields) : Value.Fields :=
  flags.foldl (fun found (flag, value) =>
    let name := if Text.lower flag ∈ names then Text.lower flag else flag
    if (found.get? name).isSome then found else found ++ [(name, value)]) []

def load (look : Path → Place) (environment : Environment) (start : Path)
    (named : Option Text) (flags : Value.Fields) : Except Fault Settings := do
  let configPath ← (configFile? look environment named start).mapError .unreadable
  let file ← match configPath with
    | some path => (readToml look path).mapError Fault.shown
    | none => .ok []
  let fromEnvironment ← environment.toFields.mapError fun (name, flaw) => .ofSection name flaw
  let merged := Value.overlay (file.filter (·.1 ≠ configPathName))
    (Value.overlay fromEnvironment (flagSettings flags))
  match ofFields configPath merged with
  | .valid settings => return settings
  | .invalid faults => .error (.invalid faults)

end Settings

end TaskTitles
