import TaskTitles.Files.Place
import TaskTitles.Log.Basic
import TaskTitles.Snapshot.Basic

/-!
# Task sources

A task source hands over the contexts, folders and tasks of a user and takes changed tasks back.  It
has a state, which fetching and pushing may change whether they succeed or not.
-/

namespace TaskTitles

open Files

inductive Trouble where
  | reported (reason : Text)
  /-- What the source holds is no text. -/
  | undecodable
  /-- What is to be stored has an integer with too many digits. -/
  | tooManyDigits
  deriving Repr, DecidableEq

/-- A supplier of tasks whose state is of type `σ`. -/
structure Source (σ : Type) where
  name : Text
  /-- Whether the source answers, or why that cannot be found out. -/
  isReachable : σ → Except FileError Bool
  fetch : σ → Except Trouble Snapshot × σ
  /-- Stores changed tasks and answers how many were accepted. -/
  push : List Task → σ → Except Trouble Int × σ
  /-- What is logged when a number of tasks was accepted. -/
  receipt : Int → List Notice := fun _ => []

end TaskTitles
