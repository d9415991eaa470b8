import Std.Time.Format
import TaskTitles.CommandLine.Run

/-!
# The program

The program looks at the files, the variables and the clock that a run may ask for, lets
`CommandLine.run` decide everything, and then prints, writes and exits as the result says.
-/

namespace TaskTitles.CommandLine

open Files Calendar

/-! ## What a run may look at -/

/-- The paths that a word of a command line can name: itself, and the value in an option. -/
def pathsOfWord (word : Text) : List Path :=
  let values := if isOption word then (List.range word.length).map word.drop else []
  (word :: values).map Path.ofText

/-- All paths that a run may look at. -/
def reach (words : List Text) (environment : Settings.Environment) (directory : Path) :
    List Path :=
  words.flatMap pathsOfWord
    ++ ((environment.get? Settings.pathVariable).map Path.ofText).toList
    ++ Settings.candidates directory

/-- The variables in the block of an environment, where each one ends in a null character. -/
def variablesOf (block : Text) : Settings.Environment :=
  (Text.splitOn ['\x00'] block).filterMap (Text.cut? "=")

def momentText (seconds : Int) (microsecond : Nat) : Text :=
  let day := ((Timestamp.date seconds).map Date.isoText).toOption.getD []
  let second := (Timestamp.secondOfDay seconds).toNat
  let two := Text.ofNatPadded 2
  day ++ "T" ++ two (second / 3600) ++ ":" ++ two (second / 60 % 60) ++ ":" ++ two (second % 60)
    ++ "." ++ Text.ofNatPadded 6 microsecond ++ "Z"

/-! ## Looking -/

/-- The platform's number for an attempt to read a directory. -/
def directoryCode : UInt32 := 21

/-- The platform's number for a path that is too long; some calls answer the negative of it. -/
def overlongCode : UInt32 := 36

/-- What stands at a path whose file cannot be read, where `found` says whether something was found
    there. -/
def entryOfError (found : Bool) : IO.Error → Entry
  | .permissionDenied .. => if found then .locked .notPermitted else .hidden .notPermitted
  | .inappropriateType _ code _ =>
    if code = directoryCode then .directory else .barred .notDirectory
  | .invalidArgument _ code _ =>
    if code = overlongCode ∨ code = -overlongCode then .hidden .nameTooLong else .absent
  | e => if found then .locked (.other (toString e).toList) else .absent

def lookAt (path : Path) : IO Place := do
  let name := String.ofList path.toText
  match ← (IO.FS.readBinFile name).toBaseIO with
  | .error e =>
    let found ← ((← IO.currentDir) / name).metadata.toBaseIO
    return { entry := entryOfError found.toOption.isSome e }
  | .ok content =>
    match ← (IO.FS.Handle.mk name .append).toBaseIO with
    | .error _ => return { entry := .file content, obstacle := some .notPermitted }
    | .ok _ => return { entry := .file content }

def currentEnvironment : IO Settings.Environment := do
  match ← (IO.FS.readBinFile "/proc/self/environ").toBaseIO with
  | .ok content => return variablesOf ((decode? content).getD [])
  | .error _ =>
    let value ← IO.getEnv (String.ofList Settings.pathVariable)
    return (value.map fun v => (Settings.pathVariable, v.toList)).toList

def currentDate : IO Date := do
  let now ← Std.Time.PlainDate.now
  match Date.make now.year now.month.val now.day.val with
  | .ok d => return d
  | .error _ => throw (IO.userError "the clock shows no date")

def currentMoment : IO Text := do
  let now := (← Std.Time.Timestamp.now).toNanosecondsSinceUnixEpoch.val
  return momentText (now / 1000000000) (now % 1000000000 / 1000).toNat

def currentWorld (words : List Text) : IO World := do
  let directory := Path.ofText (← IO.currentDir).toString.toList
  let environment ← currentEnvironment
  let places ← (reach words environment directory).eraseDups.mapM fun path => do
    return (path, ← lookAt path)
  return {
    look := fun path => (places.lookup path).getD { entry := .absent }
    directory, environment, today := ← currentDate, time := ← currentMoment }

/-! ## Acting -/

/-- Prints, writes and answers the exit code. -/
def carryOut (result : Result) : IO UInt32 := do
  IO.print (String.ofList result.output)
  IO.eprint (String.ofList result.errors)
  if let some breakdown := result.breakdown then
    IO.eprintln ("Error: " ++ String.ofList breakdown.message)
  if let some (path, content) := result.written then
    IO.FS.writeBinFile (String.ofList path.toText) content
  return UInt32.ofNat result.exitCode

end TaskTitles.CommandLine

def main (args : List String) : IO UInt32 := do
  let words := args.map String.toList
  TaskTitles.CommandLine.carryOut (TaskTitles.CommandLine.run
    (← TaskTitles.CommandLine.currentWorld words) words)
