import TaskTitles.Text.Blank
import TaskTitles.Text.Case

/-!
# Tags

Tags are compared without regard to case and surrounding white space.  A list of tags is settled by
`distinct`: every tag stripped, blank ones left out, and of two tags that are the same only the
first spelling kept.  The task service writes the tags of a task in one text, with commas.
-/

namespace TaskTitles.Tags

open Text

/-- What decides whether two tags are the same. -/
def key (tag : Text) : Text := lower (strip tag)

/-- The distinct tags of a list whose keys are not among `seen`. -/
def distinctFrom (seen : List Text) : List Text → List Text
  | [] => []
  | raw :: rest =>
    let tag := strip raw
    if tag = [] ∨ lower tag ∈ seen then distinctFrom seen rest
    else tag :: distinctFrom (lower tag :: seen) rest

/-- The tags stripped, without blank ones, and each in its first spelling only. -/
def distinct (tags : List Text) : List Text := distinctFrom [] tags

def ofText (t : Text) : List Text := distinct (splitOn "," t)

def toText (tags : List Text) : Text := joinWith ", " tags

def has (tags : List Text) (label : Text) : Bool := tags.any (key · == key label)

end TaskTitles.Tags
