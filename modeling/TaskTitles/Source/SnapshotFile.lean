import TaskTitles.Source.Basic

/-!
# Snapshot files

A task source backed by a file.  The file is read at the first need, and what was read is kept; a
push writes the whole file anew.  A push that fails leaves the file and what is kept as they were,
whether the file cannot be written or there is no text to write.
-/

namespace TaskTitles

open Files

/-- A snapshot file with what has been read from it. -/
structure SnapshotFile where
  place : Place
  kept : Option Snapshot := none

namespace SnapshotFile

def readFailure (path : Text) (e : FileError) : Text :=
  "Cannot read snapshot " ++ path ++ ": " ++ e.message path

def writeFailure (path : Text) (e : FileError) : Text :=
  "Cannot write snapshot " ++ path ++ ": " ++ e.message path

def invalidSnapshot (path : Text) (faults : Nat) : Text :=
  "Invalid snapshot " ++ path ++ ": " ++ Text.ofNat faults ++ " validation error(s)"

/-- The snapshot that a place holds. -/
def readPlace (path : Text) (place : Place) : Except Trouble Snapshot :=
  match place.read with
  | .error e => .error (.reported (readFailure path e))
  | .ok content =>
    match decode? content with
    | none => .error .undecodable
    | some t =>
      (Snapshot.ofText t).mapError fun faults => .reported (invalidSnapshot path faults)

/-- Reads the file unless that has been done. -/
def fetch (path : Text) (file : SnapshotFile) : Except Trouble Snapshot × SnapshotFile :=
  match file.kept with
  | some snapshot => (.ok snapshot, file)
  | none =>
    match readPlace path file.place with
    | .error trouble => (.error trouble, file)
    | .ok snapshot => (.ok snapshot, { file with kept := some snapshot })

/-- Writes a snapshot to the file and keeps it. -/
def store (path : Text) (snapshot : Snapshot) (file : SnapshotFile) :
    Except Trouble Unit × SnapshotFile :=
  match snapshot.toText? with
  | none => (.error .tooManyDigits, file)
  | some t =>
    match file.place.write (encode t) with
    | .error e => (.error (.reported (writeFailure path e)), file)
    | .ok place => (.ok (), ⟨place, some snapshot⟩)

def push (path : Text) (changed : List Task) (file : SnapshotFile) :
    Except Trouble Int × SnapshotFile :=
  match fetch path file with
  | (.error trouble, file) => (.error trouble, file)
  | (.ok snapshot, file) =>
    match store path (snapshot.replaceTasks changed) file with
    | (.error trouble, file) => (.error trouble, file)
    | (.ok (), file) => (.ok (snapshot.replacedCount changed), file)

def source (path : Text) : Source SnapshotFile where
  name := path
  isReachable file := file.place.isFile
  fetch := fetch path
  push := push path
  receipt accepted := [.snapshotWritten accepted.toNat path]

end SnapshotFile

end TaskTitles
