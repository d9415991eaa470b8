import TaskTitles.Json.Writer
import TaskTitles.Log.Basic

/-!
# Log lines

A notice is logged as a line for people or as a line of JSON, with the time at which it was logged.
-/

namespace TaskTitles.Notice

open Text

def levelWidth : Nat := 9

def messageWidth : Nat := 30

def humanLine (time : Text) (notice : Notice) : Text :=
  time ++ " [" ++ padRight levelWidth notice.level.name ++ "] "
    ++ padRight messageWidth notice.message ++ " [" ++ notice.logger ++ "]"

def jsonLine (time : Text) (notice : Notice) : Text :=
  Json.write .spacedAscii (.table [("event", .text notice.message),
    ("level", .text notice.level.name), ("logger", .text notice.logger), ("timestamp", .text time)])

/-- Whether the notice is logged: all of them in a verbose run, else the warnings. -/
def isLogged (verbose : Bool) (notice : Notice) : Bool := verbose || notice.level = .warning

end TaskTitles.Notice
