import TaskTitles.Text.Blank
import TaskTitles.Text.Quoted

/-!
# What stands at a path

A command sees the file system one path at a time.  A place says what stands at a path, as far as the
platform tells, and whether something can be written there.  Writing replaces the whole content or
fails and changes nothing (`read_write`).
-/

namespace TaskTitles.Files

/-- Why the platform refuses to look for, read or write a file. -/
inductive FileError where
  | notFound
  | notPermitted
  | notDirectory
  | isDirectory
  | nameTooLong
  /-- No name holds a null character. -/
  | nullCharacter
  /-- Any other reason, in the words of the platform. -/
  | other (report : Text)
  deriving Repr, DecidableEq

def FileError.text : FileError → Text
  | notFound => "[Errno 2] No such file or directory"
  | notPermitted => "[Errno 13] Permission denied"
  | notDirectory => "[Errno 20] Not a directory"
  | isDirectory => "[Errno 21] Is a directory"
  | nameTooLong => "[Errno 36] File name too long"
  | nullCharacter => "embedded null byte"
  | other report => report

def FileError.message (e : FileError) (path : Text) : Text :=
  match e with
  | other report => report
  | e => e.text ++ ": " ++ Text.quoted path

/-- Contents are compared byte by byte. -/
instance instDecidableEqContent : DecidableEq ByteArray := ByteArray.instDecidableEq

inductive Entry where
  | absent
  | directory
  /-- No file can stand there: the path leads through a file, say, or its links lead in a circle. -/
  | barred (cause : FileError)
  /-- The platform does not tell whether a file stands there: the path is too long to be followed, say,
      or a directory on the way may not be searched. -/
  | hidden (cause : FileError)
  /-- The path has a null character. -/
  | unnameable
  /-- A file that cannot be read. -/
  | locked (cause : FileError)
  | file (content : ByteArray)
  deriving DecidableEq

/-- A path as a command finds it. -/
structure Place where
  entry : Entry
  /-- Why nothing can be written at the path, if so. -/
  obstacle : Option FileError := none

namespace Place

/-- Whether a file stands at the path, or why the platform does not tell. -/
def isFile (place : Place) : Except FileError Bool :=
  match place.entry with
  | .locked _ | .file _ => .ok true
  | .hidden cause => .error cause
  | _ => .ok false

theorem isFile_of_entry {place : Place} {content : ByteArray}
    (entry : place.entry = .file content) : place.isFile = .ok true := by
  rw [isFile, entry]

def isDirectory (place : Place) : Bool := place.entry = .directory

def read (place : Place) : Except FileError ByteArray :=
  match place.entry with
  | .absent => .error .notFound
  | .directory => .error .isDirectory
  | .unnameable => .error .nullCharacter
  | .barred cause | .hidden cause | .locked cause => .error cause
  | .file content => .ok content

def write (place : Place) (content : ByteArray) : Except FileError Place :=
  match place.entry, place.obstacle with
  | .directory, _ => .error .isDirectory
  | .unnameable, _ => .error .nullCharacter
  | .barred cause, _ | .hidden cause, _ => .error cause
  | _, some e => .error e
  | _, none => .ok { place with entry := .file content }

/-- What has been written is what is read. -/
theorem read_write {place written : Place} {content : ByteArray}
    (h : place.write content = .ok written) : written.read = .ok content := by
  unfold write at h
  split at h <;> simp_all [read]
  subst h
  rfl

end Place

/-! ## Text files -/

/-- The text with every line break written as one line feed. -/
def unifyBreaks : Text → Text
  | [] => []
  | '\r' :: '\n' :: cs => '\n' :: unifyBreaks cs
  | '\r' :: cs => '\n' :: unifyBreaks cs
  | c :: cs => c :: unifyBreaks cs

/-- The text of a file, if its bytes are UTF-8. -/
def decode? (content : ByteArray) : Option Text :=
  (String.fromUTF8? content).map fun s => unifyBreaks s.toList

def encode (t : Text) : ByteArray := (String.ofList t).toUTF8

/-- A text that is written is read with its line breaks unified, and otherwise as it was. -/
theorem decode?_encode (t : Text) : decode? (encode t) = some (unifyBreaks t) := by
  have h : String.fromUTF8? (String.ofList t).toUTF8 = some (String.ofList t) := by
    unfold String.fromUTF8?
    split
    · rfl
    · next invalid => exact absurd (String.ofList t).isValidUTF8 invalid
  simp only [decode?, encode, h, Option.map_some, String.toList_ofList]

end TaskTitles.Files
