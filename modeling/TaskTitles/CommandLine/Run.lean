import TaskTitles.CommandLine.Request
import TaskTitles.Cycle
import TaskTitles.Log.Layout
import TaskTitles.Report.Page
import TaskTitles.Settings.Basic
import TaskTitles.Source.SnapshotFile
import TaskTitles.Text.Terminal

/-!
# Running a command line

A run reads the options, loads the settings, carries out the request and shows the report.  It
sees the world as a value and answers with what it prints, its exit code, and the file that it has
written.  Apart from its log it prints no control sequences of terminals.
-/

namespace TaskTitles.CommandLine

open Files Calendar

/-- What a run can see. -/
structure World where
  look : Path → Place
  directory : Path
  environment : Settings.Environment := []
  today : Date
  time : Text

/-- What makes a run end without a report. -/
inductive Breakdown where
  | settings (fault : Settings.Fault)
  | crash (cause : Crash)
  | file (cause : FileError)
  | misfit (misfit : Report.Misfit)
  deriving DecidableEq

def placeText (fault : Validation.Fault) : Text :=
  Text.joinWith "." (fault.path.map fun
    | .field name => name
    | .index n => Text.ofNat n)

def Breakdown.message : Breakdown → Text
  | settings .undecodable => "the configuration file is not UTF-8"
  | settings (.unreadable cause) => "the configuration file cannot be read: " ++ cause.text
  | settings (.invalid faults) =>
    "the settings have wrong values: " ++ Text.joinWith ", " (faults.map placeText)
  | settings .tooDeep => "the settings are nested too deep"
  | settings fault => fault.message?.getD []
  | crash .undecodable => "the snapshot file is not UTF-8"
  | crash (.unknowable cause) => "the snapshot file cannot be looked up: " ++ cause.text
  | crash (.calendar e) => e.message?.getD "a date is out of range"
  | crash .tooManyDigits => Flaw.limitText
  | file cause => "there is no such path: " ++ cause.text
  | misfit _ => "the report cannot be shown in this form"

structure Result where
  exitCode : Nat := 0
  output : Text := []
  errors : Text := []
  breakdown : Option Breakdown := none
  written : Option (Path × ByteArray) := none

namespace Result

def usageCode : Nat := 2

def failureCode : Nat := 1

def ofStop : Stop → Result
  | .page t => { output := t }
  | .usage command e =>
    { exitCode := usageCode, errors := Text.dropSequences (command.errorPage e) }
  | .file cause => { exitCode := failureCode, breakdown := some (.file cause) }

/-- The result of settings that cannot be loaded.  Of a file that is no TOML document only the message
    is shown. -/
def ofFault (fault : Settings.Fault) : Result :=
  match fault with
  | .refusedToml _ =>
    { exitCode := failureCode
      errors := Text.dropSequences (unlines ["Error: " ++ fault.message?.getD []]) }
  | _ => { exitCode := failureCode, breakdown := some (.settings fault) }

end Result

/-- What carrying out a request comes to, before it is shown. -/
structure Execution where
  log : List Notice := []
  outcome : Except Crash Report
  written : Option (Path × ByteArray) := none

def writtenBy (path : Path) (before after : Place) : Option (Path × ByteArray) :=
  match after.entry with
  | .file content => if before.entry = after.entry then none else some (path, content)
  | _ => none

def execute (world : World) (engine : Engine) : Request → Execution
  | .tokens title => { outcome := (engine.tokensReport title).mapError .calendar }
  | .date t => { outcome := (engine.dateReport t).mapError .calendar }
  | .placeholder status context =>
    { outcome := (engine.placeholderReport status context).mapError .calendar }
  | .normalize draft =>
    let logged := engine.taskReport draft
    { log := logged.log, outcome := logged.result }
  | .sync path dryRun =>
    let place := world.look path
    let cycle := engine.runCycle (SnapshotFile.source path.toText) dryRun { place }
    { log := cycle.log, outcome := cycle.outcome
      written := writtenBy path place cycle.state.place }

def formOf (settings : Settings) : Report.Form :=
  { json := settings.jsonOutput, quiet := settings.quiet, verbose := settings.verbose }

def logLines (settings : Settings) (time : Text) (log : List Notice) : List Text :=
  (log.filter (·.isLogged settings.verbose)).map fun notice =>
    if settings.logJson then notice.jsonLine time else notice.humanLine time

/-- The warnings of a report, which JSON output holds already. -/
def warningLines (settings : Settings) (report : Report) : List Text :=
  if settings.jsonOutput then [] else report.warnings.map ("WARNING: " ++ ·)

/-- Shows what carrying out a request has come to.  A failure is shown with the errors. -/
def present (settings : Settings) (time : Text) (execution : Execution) : Result :=
  let log := unlines (logLines settings time execution.log)
  let broken (breakdown : Breakdown) : Result :=
    { exitCode := Result.failureCode, errors := log, breakdown := some breakdown
      written := execution.written }
  match execution.outcome with
  | .error cause => broken (.crash cause)
  | .ok report =>
    match report.inForm (formOf settings) with
    | .error misfit => broken (.misfit misfit)
    | .ok t =>
      let page := Text.dropSequences (unlines [t])
      if report.succeeded then
        let warnings := Text.dropSequences (unlines (warningLines settings report))
        { output := page, errors := log ++ warnings, written := execution.written }
      else
        { exitCode := Result.failureCode, errors := log ++ page, written := execution.written }

def settingsOf (world : World) (globals : Globals) : Except Settings.Fault Settings :=
  Settings.load world.look world.environment world.directory globals.config globals.toFields

def engineOf (world : World) (settings : Settings) : Engine :=
  { conventions := settings.conventions, today := settings.today.getD world.today }

/-- Runs a command: its name comes first, then the settings, then its own line. -/
def runCommand (world : World) (globals : Globals) (word : Text) (rest : List Text) : Result :=
  match commandOf word rest with
  | .error stop => .ofStop stop
  | .ok name =>
    match settingsOf world globals with
    | .error fault => .ofFault fault
    | .ok settings =>
      match readRequest world.look name rest with
      | .error stop => .ofStop stop
      | .ok request =>
        present settings world.time (execute world (engineOf world settings) request)

/-- Runs a command line.  Without a command the help page is shown. -/
def run (world : World) (words : List Text) : Result :=
  match readGlobals words with
  | .error stop => .ofStop stop
  | .ok (globals, []) =>
    match settingsOf world globals with
    | .error fault => .ofFault fault
    | .ok _ => { output := root.helpPage }
  | .ok (globals, word :: rest) => runCommand world globals word rest

end TaskTitles.CommandLine
