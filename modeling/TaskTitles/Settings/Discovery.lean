import TaskTitles.Files.Path
import TaskTitles.Files.Place

/-!
# Finding the configuration file

An environment variable names the configuration file, and if it names none that exists there is
none.  Otherwise it is looked for in the starting directory and then in each directory above it;
in every directory a visible file goes before a hidden one.  A path of which cannot be said
whether it is a file ends the search.
-/

namespace TaskTitles.Settings

open Files

/-- An environment: variables with their values, in their order. -/
abbrev Environment := List (Text × Text)

def Environment.get? (environment : Environment) (name : Text) : Option Text :=
  environment.lookup name

def visibleName : Text := "t2tctl.toml"

def hiddenName : Text := ".t2tctl.toml"

def pathVariable : Text := "T2TCTL_CONFIG"

/-- The paths of a configuration file for a directory, in the order in which they are tried. -/
def candidates (start : Path) : List Path :=
  start.settled.selfAndAncestors.flatMap fun directory =>
    [directory.child visibleName, directory.child hiddenName]

def fileAt? (isFile : Path → Except FileError Bool) (path : Path) :
    Except FileError (Option Path) :=
  (isFile path).map fun found => if found then some path else none

/-- The configuration file, where `isFile` says which paths are files and `named` is the value of
    the variable.  An empty value counts as none. -/
def find? (isFile : Path → Except FileError Bool) (named : Option Text) (start : Path) :
    Except FileError (Option Path) :=
  match named with
  | some (c :: cs) => fileAt? isFile (.ofText (c :: cs))
  | _ => (candidates start).findM? isFile

/-- Where it can be said of every path whether it is a file, the first candidate that is one is
    found. -/
theorem find?_none (isFile : Path → Bool) (start : Path) :
    find? (fun path => .ok (isFile path)) none start = .ok ((candidates start).find? isFile) :=
  List.findM?_pure isFile (candidates start)

end TaskTitles.Settings
