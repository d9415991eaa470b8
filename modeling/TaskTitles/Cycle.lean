import TaskTitles.Normalize.Engine
import TaskTitles.Report.Basic
import TaskTitles.Source.Basic

/-!
# Cycles

A cycle fetches all tasks of a source, normalizes them and pushes back those that have changed.  A
dry run leaves the last step out.  Trouble that the source reports becomes the failure of the
report.  A date that cannot be computed crashes a cycle, and so do a file that is no text, a source
that cannot even be looked for, and tasks that cannot be written down.
-/

namespace TaskTitles

open Calendar

/-- What a cycle comes to, and the source after it. -/
structure Cycle (σ : Type) where
  state : σ
  log : List Notice
  outcome : Except Crash Report

namespace Engine

variable {σ : Type}

def syncOperation : Text := "sync"

/-- The tasks that change when they are normalized, in their normalized form. -/
def changedTasks (engine : Engine) (contexts folders : Option Catalog) :
    List Task → Logged CalendarError (List Task)
  | [] => { result := .ok [] }
  | task :: rest =>
    match engine.normalize task contexts folders with
    | .error interruption =>
      { log := interruption.events.map .event, result := .error interruption.cause }
    | .ok outcome =>
      let others := engine.changedTasks contexts folders rest
      { log := outcome.events.map .event ++ others.log
        result := others.result.map fun changed =>
          if outcome.changed then outcome.task :: changed else changed }

def changedIn (engine : Engine) (snapshot : Snapshot) : Logged CalendarError (List Task) :=
  engine.changedTasks (some (.ofList snapshot.contexts)) (some (.ofList snapshot.folders))
    snapshot.tasks

def sourceFailure (code : FailureCode) (message source : Text) : Report :=
  .failed syncOperation code message [("source", .text source)]

def syncReport (source : Text) (inspected : Nat) (changed : List Task) (pushed : Int)
    (dryRun : Bool) (warnings : List Text) : Report :=
  .success syncOperation
    [("source", .text source), ("inspected", .int inspected), ("modified", .int changed.length),
     ("pushed", .int pushed), ("dry_run", .bool dryRun),
     ("items", .list (changed.map fun task =>
       .table [("id", .int task.id), ("title", .text task.title)]))]
    warnings

/-- The warning that a source took fewer tasks than were pushed. -/
def shortfall (pushed : Int) (modified : Nat) : List Text :=
  if pushed < modified then
    ["Source accepted " ++ Text.ofInt pushed ++ " of " ++ Text.ofNat modified ++ " modified tasks"]
  else []

def troubled (state : σ) (log : List Notice) (source : Text) (notice : Text → Text → Notice) :
    Trouble → Cycle σ
  | .undecodable => ⟨state, log, .error .undecodable⟩
  | .tooManyDigits => ⟨state, log, .error .tooManyDigits⟩
  | .reported reason =>
    ⟨state, log ++ [notice source reason], .ok (sourceFailure .sourceError reason source)⟩

/-- The second half of a cycle: pushes the changed tasks and reports. -/
def pushChanged (source : Source σ) (state : σ) (log : List Notice) (inspected : Nat)
    (changed : List Task) (dryRun : Bool) : Cycle σ :=
  if changed = [] ∨ dryRun then
    ⟨state, log, .ok (syncReport source.name inspected changed 0 dryRun [])⟩
  else
    match source.push changed state with
    | (.error trouble, state) => troubled state log source.name .pushFailed trouble
    | (.ok pushed, state) =>
      ⟨state, log ++ source.receipt pushed,
        .ok (syncReport source.name inspected changed pushed dryRun
          (shortfall pushed changed.length))⟩

/-- One cycle over a source. -/
def runCycle (engine : Engine) (source : Source σ) (dryRun : Bool) (state : σ) : Cycle σ :=
  match source.isReachable state with
  | .error cause => ⟨state, [], .error (.unknowable cause)⟩
  | .ok false =>
    ⟨state, [.sourceUnavailable source.name],
      .ok (sourceFailure .sourceUnavailable
        ("Task source is unavailable: " ++ source.name) source.name)⟩
  | .ok true =>
    match source.fetch state with
    | (.error trouble, state) => troubled state [] source.name .fetchFailed trouble
    | (.ok snapshot, state) =>
      let inspected := snapshot.tasks.length
      let changed := engine.changedIn snapshot
      let log := .tasksToInspect inspected :: changed.log
      match changed.result with
      | .error cause => ⟨state, log, .error (.calendar cause)⟩
      | .ok changed =>
        pushChanged source state (log ++ [.tasksModified changed.length]) inspected changed dryRun

end Engine

end TaskTitles
