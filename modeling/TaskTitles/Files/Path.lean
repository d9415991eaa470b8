import TaskTitles.Text.Basic

/-!
# Paths

A path is a sequence of names below a root, or below the working directory if it has none.
Writing it down drops what does not matter: doubled slashes, single dots and a slash at the end.
-/

namespace TaskTitles.Files

open Text

/-- A path.  The root is empty for a path from the working directory. -/
structure Path where
  root : Text := []
  names : List Text
  deriving Repr, DecidableEq

namespace Path

/-- The root that a text starts with: a slash, or two where there are exactly two. -/
def rootOf : Text → Text
  | '/' :: '/' :: '/' :: _ => "/"
  | '/' :: '/' :: _ => "//"
  | '/' :: _ => "/"
  | _ => []

def ofText (t : Text) : Path where
  root := rootOf t
  names := (splitOn "/" t).filter fun name => name ≠ [] ∧ name ≠ ['.']

def toText (path : Path) : Text :=
  if path.root = [] ∧ path.names = [] then "." else path.root ++ joinWith "/" path.names

def isAbsolute (path : Path) : Bool := path.root ≠ []

/-- What has the given name in the directory. -/
def child (directory : Path) (name : Text) : Path :=
  { directory with names := directory.names ++ [name] }

/-- A path as seen from a directory. -/
def seenFrom (directory path : Path) : Path :=
  if path.isAbsolute then path else { directory with names := directory.names ++ path.names }

/-- The names with every step upwards taken. -/
def settle (names : List Text) : List Text :=
  names.foldl (fun taken name => if name = ['.', '.'] then taken.dropLast else taken ++ [name]) []

def settled (path : Path) : Path := { path with names := settle path.names }

/-- The directory and all directories above it, nearest first. -/
def selfAndAncestors (directory : Path) : List Path :=
  (List.range (directory.names.length + 1)).map fun n =>
    { directory with names := directory.names.take (directory.names.length - n) }

end Path

end TaskTitles.Files
