import TaskTitles.Normalize.Basic

/-!
# The rules on modifiers

Each category of modifiers takes the first word that it matches out of the list, and the next
category looks at what is left: priority, no due date, star, no star, context, status, folder, no
tag.  The words that no category has taken become tags.
-/

namespace TaskTitles.Engine

/-- Finds the first word that `accept` takes and returns it apart from the others. -/
def takeFirst {α : Type} (accept : Text → Option α) : List Text → Option α × List Text
  | [] => (none, [])
  | word :: words =>
    match accept word with
    | some found => (some found, words)
    | none =>
      let (found, rest) := takeFirst accept words
      (found, word :: rest)

/-- Takes out the first word that is `literal`, and says whether there was one. -/
def takeLiteral (literal : Text) (words : List Text) : Bool × List Text :=
  let (found, rest) := takeFirst (fun word => if word = literal then some () else none) words
  (found.isSome, rest)

/-- The number of a catalog entry after the modifiers of its kind: 0 if `noneWord` is there and the
    number is in the catalog, else the first entry that a word finds, else what it was. -/
def takeEntry (catalog : Option Catalog) (noneWord : Text)
    (find? : Catalog → Text → Option Context) (current : Int) (words : List Text) :
    Int × List Text :=
  match catalog with
  | none => (current, words)
  | some catalog =>
    match takeLiteral noneWord words with
    | (true, rest) => (if (catalog.findById? current).isSome then 0 else current, rest)
    | (false, _) =>
      let (found, rest) := takeFirst (find? catalog) words
      ((found.map (·.id)).getD current, rest)

/-- The tags with each word added that is not among them yet. -/
def addTags (tags words : List Text) : List Text :=
  words.foldl (fun tags word => if Tags.has tags word then tags else tags ++ [word]) tags

def applyModifiers (engine : Engine) (task : Task) (pin : Pin) (words : List Text)
    (contexts folders : Option Catalog) : Task × Pin :=
  let keywords := engine.conventions.keywords
  let (priority, words) := takeFirst Priority.ofWord? words
  let (noDueDate, words) := takeLiteral keywords.noDueDate words
  let (star, words) := takeLiteral keywords.star words
  let (noStar, words) := takeLiteral keywords.noStar words
  let (context, words) :=
    takeEntry contexts keywords.noContext Catalog.findByStart? task.context words
  let (status, words) := takeFirst Status.ofWord? words
  let (folder, words) :=
    takeEntry folders keywords.noFolder Catalog.findByBareName? task.folder words
  let (noTag, words) := takeLiteral keywords.noTag words
  let status := status.getD task.status
  ({ task with
      priority := priority.getD task.priority
      starred := (task.starred || star) && !noStar
      context
      status := if status = .none then engine.conventions.status.default else status
      folder
      tags := addTags (if noTag then [] else task.tags) words },
    if noDueDate && engine.isPinned task pin then .cleared else pin)

end TaskTitles.Engine
