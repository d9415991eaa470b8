import TaskTitles.Text.Blank
import TaskTitles.Title.Tokens

/-!
# Banners in notes

The first line of a note may be a banner such as

    ~~// /errand /phone

The sentinel opens it, two delimiters right after the sentinel say that the user has pinned the due
date, and each marked word repeats a tag.  A banner is all that one run of the rules leaves behind
for the next.
-/

namespace TaskTitles.Note

open Text

structure Codec where
  delimiter : Text := "/"
  sentinel : Text := "~~"
  maxLength : Int := 600
  lineSeparator : Text := "\n"

namespace Codec

def bannerStart (codec : Codec) : Text := codec.sentinel ++ codec.delimiter

/-- What a banner starts with when the due date is pinned. -/
def pinMarker (codec : Codec) : Text := codec.sentinel ++ times Title.dueMark codec.delimiter

def isPinned (codec : Codec) (note : Text) : Bool := occursIn codec.pinMarker (strip note)

/-- The note cut to the greatest length; a negative length cuts that many characters off the end. -/
def truncate (codec : Codec) (note : Text) : Text := takeUpTo codec.maxLength note

/-! ## Writing -/

/-- Adds the tags that are not blank to a banner, with a blank before each unless the banner holds
    no more than the sentinel. -/
def addTags (codec : Codec) (banner : Text) (tags : List Text) : Text :=
  (tags.map strip).foldl (fun banner tag =>
    if tag = [] then banner
    else
      let gap : Text := if codec.sentinel.length < banner.length then " " else []
      banner ++ gap ++ codec.delimiter ++ tag) banner

/-- The banner for a pin state and tags, or the empty text where there is nothing to say. -/
def encode (codec : Codec) (pinned : Bool) (tags : List Text) : Text :=
  let opening := if pinned then codec.pinMarker else codec.sentinel
  let banner := codec.addTags opening tags
  if banner = codec.sentinel then [] else banner

/-! ## Reconciling -/

/-- Whether a line, stripped, starts like a banner. -/
def isBannerLine (codec : Codec) (line : Text) : Bool := startsWith codec.bannerStart (strip line)

/-- Adds a line to a note, after a line separator unless the note is empty. -/
def addLine (codec : Codec) (note line : Text) : Text :=
  (if note = [] then [] else note ++ codec.lineSeparator) ++ line

/-- The banner followed by the lines that are no banners. -/
def rebuild (codec : Codec) (banner : Text) (lines : List Text) : Text :=
  (lines.filter fun line => !codec.isBannerLine line).foldl codec.addLine banner

/-- The note with the banner as its first line and without any other.  An empty banner takes the old
    one away, and a note that is right already stays as it is. -/
def reconcile (codec : Codec) (note banner : Text) : Text :=
  let current := strip note
  if occursIn codec.bannerStart current then
    let lines := Text.lines current
    if lines.head? = some banner then note else codec.truncate (codec.rebuild banner lines)
  else if banner = [] then note
  else if current = [] then codec.truncate banner
  else codec.truncate (banner ++ codec.lineSeparator ++ current)

/-- Like `reconcile`; no result where a banner start of no characters is found in a note that has no
    first line. -/
def reconcile? (codec : Codec) (note banner : Text) : Option Text :=
  if codec.bannerStart = [] ∧ strip note = [] then none else some (codec.reconcile note banner)

end Codec

end TaskTitles.Note
