import TaskTitles.CommandLine.Syntax

/-!
# The commands

The program and its commands, with what their help pages say.
-/

namespace TaskTitles.CommandLine

open Text

/-- A command, or the program itself. -/
structure Command where
  path : Text
  switches : List Switch
  /-- What its command line looks like after the path. -/
  usage : Text
  argument : Option Text := none
  about : List Text
  /-- What it does, in the list of commands. -/
  summary : Text := []
  examples : List Text
  deriving Repr, DecidableEq

def program : Text := "t2tctl"

def version : Text := "0.1.0"

/-! ## Options that every command has -/

def examplesSwitch : Switch := { names := ["--examples"], help := "Show usage examples." }

def helpSwitch : Switch := { names := ["--help"], help := "Show this message and exit." }

def versionSwitch : Switch := { names := ["--version"], help := "Show the version and exit." }

/-- What a help page shows for any text. -/
def textValue : Option Text := some "TEXT"

/-! ## The program -/

def globalSwitches : List Switch :=
  [versionSwitch,
   { names := ["--json"], help := "Structured JSON output." },
   { names := ["-q", "--quiet"], help := "Minimal output." },
   { names := ["-v", "--verbose"], help := "Detailed output with debug info." },
   { names := ["--log-json"], help := "Structured JSON log output to stderr." },
   { names := ["-c", "--config"], value := textValue, help := "Override config file path." },
   { names := ["--today"], value := some "[%Y-%m-%d]",
     help := "Pretend today is this date (YYYY-MM-DD)." },
   examplesSwitch, helpSwitch]

def root : Command where
  path := program
  switches := globalSwitches
  usage := "[OPTIONS] [COMMAND] [ARGS]..."
  about :=
    ["t2tctl: normalize task titles into structured task fields.", "",
     "Dates are resolved against the local clock unless --today or T2TCTL_TODAY pins", "it."]
  examples :=
    ["t2tctl tokens \"Buy a newspaper //tomorrow /top /errand\"",
     "t2tctl date \"next monday\"",
     "t2tctl --json normalize \"wf Bob /work\"",
     "t2tctl -c ~/t2tctl.toml sync tasks.json --dry-run"]

/-! ## Its commands -/

def tokensCommand : Command where
  path := "t2tctl tokens"
  switches := [examplesSwitch, helpSwitch]
  usage := "[OPTIONS] TITLE"
  argument := some "TITLE"
  about := ["Show how TITLE is split into tokens."]
  summary := "Show how TITLE is split into tokens."
  examples :=
    ["t2tctl tokens \"Buy a newspaper //tomorrow /top /errand\"",
     "t2tctl tokens \"Pay rent ///2026-10-25 ////monthly\"",
     "t2tctl --json tokens 'Call Bob /fri /phone'"]

def dateCommand : Command where
  path := "t2tctl date"
  switches := [examplesSwitch, helpSwitch]
  usage := "[OPTIONS] TEXT"
  argument := some "TEXT"
  about := ["Resolve TEXT (keyword, weekday or short date) to a date."]
  summary := "Resolve TEXT (keyword, weekday or short date) to a date."
  examples :=
    ["t2tctl date tomorrow", "t2tctl date \"next fri\"", "t2tctl date 24/12/26",
     "T2TCTL_TODAY=2026-10-21 t2tctl date mon"]

def placeholderCommand : Command where
  path := "t2tctl pseudo-date"
  switches :=
    [{ names := ["--status"], value := textValue,
       help := "Status name or shortcut (default: next action)." },
     { names := ["--context"], value := textValue,
       help := "Context name (Work and x Notes shift further out)." },
     examplesSwitch, helpSwitch]
  usage := "[OPTIONS]"
  about := ["Show the placeholder due date for a status and context."]
  summary := "Show the placeholder due date for a status and context."
  examples :=
    ["t2tctl pseudo-date", "t2tctl pseudo-date --status waiting",
     "t2tctl pseudo-date --status someday --context Work"]

def normalizeCommand : Command where
  path := "t2tctl normalize"
  switches :=
    [{ names := ["--note"], value := textValue,
       help := "Existing note text (may hold a banner)." },
     { names := ["--status"], value := textValue,
       help := "Existing status name or shortcut." },
     { names := ["--due"], value := some "INTEGER RANGE",
       help := "Existing due date (epoch seconds).  [0<=x<=253370721600]" },
     examplesSwitch, helpSwitch]
  usage := "[OPTIONS] TITLE"
  argument := some "TITLE"
  about :=
    ["Apply every title rule to TITLE and show the resulting task.", "",
     "No context or folder catalog is available here, so context and folder",
     "modifiers are kept as tags."]
  summary := "Apply every title rule to TITLE and show the resulting task."
  examples :=
    ["t2tctl normalize \"Buy a newspaper //tomorrow /top /errand\"",
     "t2tctl normalize \"wf Bob to send the report\"",
     "t2tctl normalize \"Plan trip /nod\" --note \"~~//\" --status next",
     "t2tctl --json normalize 'Renew passport /star /someday'"]

def syncCommand : Command where
  path := "t2tctl sync"
  switches :=
    [{ names := ["--dry-run"], help := "Report changes without writing them back." },
     examplesSwitch, helpSwitch]
  usage := "[OPTIONS] SNAPSHOT"
  argument := some "SNAPSHOT"
  about := ["Normalize every task in SNAPSHOT and write the changed ones back."]
  summary := "Normalize every task in SNAPSHOT and write the changed ones..."
  examples :=
    ["t2tctl sync tasks.json --dry-run", "t2tctl sync tasks.json", "t2tctl -q sync tasks.json"]

inductive CommandName where
  | date
  | normalize
  | placeholder
  | sync
  | tokens
  deriving Repr, DecidableEq

namespace CommandName

/-- All commands, in the order of their words. -/
def all : List CommandName := [date, normalize, placeholder, sync, tokens]

def word : CommandName → Text
  | date => "date"
  | normalize => "normalize"
  | placeholder => "pseudo-date"
  | sync => "sync"
  | tokens => "tokens"

def ofWord? (w : Text) : Option CommandName := all.find? (·.word == w)

def command : CommandName → Command
  | date => dateCommand
  | normalize => normalizeCommand
  | placeholder => placeholderCommand
  | sync => syncCommand
  | tokens => tokensCommand

end CommandName

end TaskTitles.CommandLine
