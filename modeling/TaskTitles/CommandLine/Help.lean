import TaskTitles.CommandLine.Commands

/-!
# Help pages

What a command shows about itself: its help page, its examples, and its usage above an error.
-/

namespace TaskTitles.CommandLine

open Text

/-- Lines, each ended by a line feed. -/
def unlines (lines : List Text) : Text := lines.flatMap (· ++ "\n")

/-- A line indented by two blanks; an empty line stays empty. -/
def indented (line : Text) : Text := if line = [] then [] else "  " ++ line

def Command.usageLine (command : Command) : Text :=
  "Usage: " ++ command.path ++ " " ++ command.usage

def Switch.label (switch : Switch) : Text :=
  joinWith ", " switch.names ++ (switch.value.map (' ' :: ·)).getD []

/-- Two columns, the left one as wide as its longest entry. -/
def columns (rows : List (Text × Text)) : List Text :=
  let width := (rows.map (·.1.length)).foldl max 0
  rows.map fun (left, right) => indented (padRight width left ++ "  " ++ right)

def commandLines (command : Command) : List Text :=
  if command = root then
    ([[], "Commands:"] : List Text)
      ++ columns (CommandName.all.map fun name => (name.word, name.command.summary))
  else []

def Command.helpPage (command : Command) : Text :=
  unlines (([command.usageLine, []] : List Text) ++ command.about.map indented
    ++ ([[], "Options:"] : List Text)
    ++ columns (command.switches.map fun switch => (switch.label, switch.help))
    ++ commandLines command
    ++ ([[], "Run with --examples for sample invocations."] : List Text))

def Command.examplesPage (command : Command) : Text :=
  unlines ((["Examples for '" ++ command.path ++ "':", []] : List Text)
    ++ command.examples.map indented)

def versionPage : Text := unlines [program ++ ", version " ++ version]

def Command.errorPage (command : Command) (e : UsageError) : Text :=
  (if e.showsUsage then
    unlines [command.usageLine, "Try '" ++ command.path ++ " --help' for help.", []] else [])
    ++ unlines ["Error: " ++ e.message]

end TaskTitles.CommandLine
