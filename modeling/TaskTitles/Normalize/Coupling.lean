import TaskTitles.Normalize.Basic

/-!
# The rules that couple context and folder

The work and the personal context follow the first letter of the folder, and a task in one of these
contexts without a folder gets the default folder of the context.
-/

namespace TaskTitles.Engine

open Text

/-- Whether two names start with the same letter, case aside. -/
def sameInitial (a b : Text) : Bool :=
  match a, b with
  | x :: _, y :: _ => upperChar x == upperChar y
  | _, _ => false

/-- Moves a task into the special context if its folder starts with the same letter. -/
def followFolder (contexts folders : Catalog) (task : Task) (special : Option Context) :
    Task × List Event :=
  match special, folders.findById? task.folder with
  | some special, some folder =>
    if contexts.findById? task.context ≠ some special ∧ sameInitial folder.name special.name then
      ({ task with context := special.id }, [.contextImplied folder.name special.name])
    else (task, [])
  | _, _ => (task, [])

/-- Moves a task of the special context that has no folder into the default one. -/
def fillFolder (contexts folders : Catalog) (task : Task) (special : Option Context)
    (defaultName : Text) : Task :=
  match special with
  | none => task
  | some special =>
    if contexts.findById? task.context = some special ∧ folders.findById? task.folder = none then
      match folders.findByName? defaultName with
      | some folder => { task with folder := folder.id }
      | none => task
    else task

/-- Makes context and folder of a task agree; without both catalogs nothing is done. -/
def couple (engine : Engine) (task : Task) (contexts folders : Option Catalog) :
    Task × List Event :=
  match contexts, folders with
  | some contexts, some folders =>
    let names := engine.conventions.contexts
    let work := contexts.findByName? names.work
    let personal := contexts.findByName? names.personal
    let (task, workEvents) := followFolder contexts folders task work
    let (task, personalEvents) := followFolder contexts folders task personal
    let task := fillFolder contexts folders task work names.defaultWorkFolder
    let task := fillFolder contexts folders task personal names.defaultPersonalFolder
    (task, workEvents ++ personalEvents)
  | _, _ => (task, [])

end TaskTitles.Engine
