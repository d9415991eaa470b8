import TaskTitles.Cycle
import TaskTitles.Proofs.Snapshot.Storing

/-!
# The courses that a cycle can take

Up to the push a cycle over a snapshot file only reads, and it makes no difference whether it is a
dry run.  Either it ends there, and not with a success, or it has found the tasks to push
(`runCycle_cases`).  What follows stores them and reports a success, or it leaves the place alone
(`pushChanged_cases`).
-/

namespace TaskTitles

open Calendar Files

/-- The cycle has crashed, or it reports a failure. -/
def Cycle.HasFailed {σ : Type} (cycle : Cycle σ) : Prop :=
  ∀ report, cycle.outcome = .ok report → report.succeeded = false

namespace Engine

variable {engine : Engine} {path : Text} {file next : SnapshotFile} {snapshot : Snapshot}
  {changed : List Task} {trouble : Trouble}

/-! ## Up to the push -/

section Reading

variable (dryRun : Bool)

theorem runCycle_of_unknowable {cause : FileError} (unknowable : file.place.isFile = .error cause) :
    engine.runCycle (SnapshotFile.source path) dryRun file =
      ⟨file, [], .error (.unknowable cause)⟩ := by
  rw [runCycle, SnapshotFile.source]
  dsimp only
  rw [unknowable]

theorem runCycle_of_unavailable (unavailable : file.place.isFile = .ok false) :
    engine.runCycle (SnapshotFile.source path) dryRun file =
      ⟨file, [.sourceUnavailable path],
        .ok (sourceFailure .sourceUnavailable
          ("Task source is unavailable: " ++ path) path)⟩ := by
  rw [runCycle, SnapshotFile.source]
  dsimp only
  rw [unavailable]

section Fetching

variable (isFile : file.place.isFile = .ok true)

include isFile

theorem runCycle_of_fetch_error
    (failed : SnapshotFile.fetch path file = (.error trouble, next)) :
    engine.runCycle (SnapshotFile.source path) dryRun file =
      troubled next [] path .fetchFailed trouble := by
  rw [runCycle, SnapshotFile.source]
  dsimp only
  rw [isFile]
  dsimp only
  rw [failed]

variable (fetched : SnapshotFile.fetch path file = (.ok snapshot, next))

include fetched

theorem runCycle_of_incomputable {cause : CalendarError}
    (incomputable : (engine.changedIn snapshot).result = .error cause) :
    engine.runCycle (SnapshotFile.source path) dryRun file =
      ⟨next, .tasksToInspect snapshot.tasks.length :: (engine.changedIn snapshot).log,
        .error (.calendar cause)⟩ := by
  rw [runCycle, SnapshotFile.source]
  dsimp only
  rw [isFile]
  dsimp only
  rw [fetched]
  dsimp only
  rw [incomputable]

theorem runCycle_of_computed (computed : (engine.changedIn snapshot).result = .ok changed) :
    engine.runCycle (SnapshotFile.source path) dryRun file =
      pushChanged (SnapshotFile.source path) next
        (.tasksToInspect snapshot.tasks.length :: (engine.changedIn snapshot).log
          ++ [.tasksModified changed.length])
        snapshot.tasks.length changed dryRun := by
  rw [runCycle, SnapshotFile.source]
  dsimp only
  rw [isFile]
  dsimp only
  rw [fetched]
  dsimp only
  rw [computed]

end Fetching

section Loaded

variable {place : Place} (loaded : SnapshotFile.readPlace path place = .ok snapshot)

include loaded

/-- Up to the push a cycle over a file that can be read only reads. -/
theorem runCycle_eq_pushChanged (computed : (engine.changedIn snapshot).result = .ok changed) :
    engine.runCycle (SnapshotFile.source path) dryRun { place } =
      pushChanged (SnapshotFile.source path) ⟨place, some snapshot⟩
        (.tasksToInspect snapshot.tasks.length :: (engine.changedIn snapshot).log
          ++ [.tasksModified changed.length])
        snapshot.tasks.length changed dryRun := by
  obtain ⟨content, entry⟩ := SnapshotFile.exists_entry_of_readPlace loaded
  exact runCycle_of_computed dryRun (Place.isFile_of_entry entry)
    (SnapshotFile.fetch_of_readPlace loaded) computed

/-- A cycle that reads the file itself does what it does with what has been read from it. -/
theorem runCycle_of_readPlace :
    engine.runCycle (SnapshotFile.source path) dryRun { place } =
      engine.runCycle (SnapshotFile.source path) dryRun ⟨place, some snapshot⟩ := by
  obtain ⟨content, entry⟩ := SnapshotFile.exists_entry_of_readPlace loaded
  have isFile := Place.isFile_of_entry entry
  have fetched := SnapshotFile.fetch_of_readPlace loaded
  cases computed : (engine.changedIn snapshot).result with
  | error cause =>
    rw [runCycle_of_incomputable dryRun isFile fetched computed,
      runCycle_of_incomputable dryRun isFile rfl computed]
  | ok changed =>
    rw [runCycle_of_computed dryRun isFile fetched computed,
      runCycle_of_computed dryRun isFile rfl computed]

end Loaded

end Reading

theorem state_troubled {σ : Type} (state : σ) (log : List Notice) (source : Text)
    (notice : Text → Text → Notice) (trouble : Trouble) :
    (troubled state log source notice trouble).state = state := by
  cases trouble <;> rfl

theorem hasFailed_troubled {σ : Type} (state : σ) (log : List Notice) (source : Text)
    (notice : Text → Text → Notice) (trouble : Trouble) :
    (troubled state log source notice trouble).HasFailed := by
  cases trouble with
  | undecodable => rintro _ ⟨⟩
  | tooManyDigits => rintro _ ⟨⟩
  | reported reason =>
    rintro _ ⟨⟩
    rfl

/-- Up to the push a cycle leaves the place alone, and a dry run does what any cycle does. -/
theorem runCycle_cases (engine : Engine) (path : Text) (file : SnapshotFile) :
    (∃ cycle : Cycle SnapshotFile, cycle.HasFailed ∧ cycle.state.place = file.place ∧
      ∀ dryRun, engine.runCycle (SnapshotFile.source path) dryRun file = cycle) ∨
    ∃ snapshot log changed, ∀ dryRun,
      engine.runCycle (SnapshotFile.source path) dryRun file =
        pushChanged (SnapshotFile.source path) ⟨file.place, some snapshot⟩ log
          snapshot.tasks.length changed dryRun := by
  cases isFile : file.place.isFile with
  | error cause =>
    exact .inl ⟨_, by rintro _ ⟨⟩, rfl, fun dryRun => runCycle_of_unknowable dryRun isFile⟩
  | ok available =>
    cases available with
    | false =>
      refine .inl ⟨_, ?_, rfl, fun dryRun => runCycle_of_unavailable dryRun isFile⟩
      rintro _ ⟨⟩
      rfl
    | true =>
      rcases SnapshotFile.fetch_cases path file with ⟨trouble, failed⟩ | ⟨snapshot, fetched⟩
      · exact .inl ⟨_, hasFailed_troubled _ _ _ _ _, by rw [state_troubled],
          fun dryRun => runCycle_of_fetch_error dryRun isFile failed⟩
      · cases computed : (engine.changedIn snapshot).result with
        | error cause =>
          exact .inl ⟨_, by rintro _ ⟨⟩, rfl,
            fun dryRun => runCycle_of_incomputable dryRun isFile fetched computed⟩
        | ok changed =>
          exact .inr ⟨snapshot, _, changed,
            fun dryRun => runCycle_of_computed dryRun isFile fetched computed⟩

/-! ## The push -/

/-- What is read from a file that has been read already is at hand, so only writing can fail: what is to
    be written has too many digits, or the file cannot be written. -/
theorem pushChanged_cases (path : Text) (place : Place) (snapshot : Snapshot) (log : List Notice)
    (inspected : Nat) (changed : List Task) (dryRun : Bool) :
    let cycle := pushChanged (SnapshotFile.source path) ⟨place, some snapshot⟩ log inspected changed
      dryRun
    (cycle.state.place = place ∧
      ((changed = [] ∨ dryRun = true) ∧
          cycle.outcome = .ok (syncReport path inspected changed 0 dryRun []) ∨
        (snapshot.replaceTasks changed).toText? = none ∧ cycle.outcome = .error .tooManyDigits ∨
        ∃ reason, cycle.outcome = .ok (sourceFailure .sourceError reason path))) ∨
    changed ≠ [] ∧ dryRun = false ∧
      cycle.outcome = .ok (syncReport path inspected changed (snapshot.replacedCount changed) false
        (shortfall (snapshot.replacedCount changed) changed.length)) := by
  dsimp only
  by_cases idle : changed = [] ∨ dryRun = true
  · rw [pushChanged, if_pos idle]
    exact .inl ⟨rfl, .inl ⟨idle, rfl⟩⟩
  · obtain ⟨some, notDry⟩ := not_or.1 idle
    rw [pushChanged, if_neg idle, SnapshotFile.source]
    dsimp only
    rw [SnapshotFile.push, SnapshotFile.fetch]
    dsimp only
    rw [SnapshotFile.store]
    cases text : (snapshot.replaceTasks changed).toText? with
    | none => exact .inl ⟨rfl, .inr (.inl ⟨rfl, rfl⟩)⟩
    | some t =>
      dsimp only
      cases place.write (encode t) with
      | error cause => exact .inl ⟨rfl, .inr (.inr ⟨_, rfl⟩)⟩
      | ok written =>
        rw [Bool.not_eq_true] at notDry
        subst notDry
        exact .inr ⟨some, rfl, rfl⟩

/-- Where all changed tasks are taken, there is nothing to warn of. -/
theorem shortfall_eq_nil {pushed : Int} {modified : Nat} (all : (modified : Int) ≤ pushed) :
    shortfall pushed modified = [] := if_neg (Int.not_lt.2 all)

section Files

variable {place : Place} {content : ByteArray} {t : Text} (entry : place.entry = .file content)
  (changes : changed ≠ []) (written : (snapshot.replaceTasks changed).toText? = some t)
  (log : List Notice) (inspected : Nat)

include entry changes written

theorem pushChanged_stored (writable : place.obstacle = none) :
    pushChanged (SnapshotFile.source path) ⟨place, some snapshot⟩ log inspected changed false =
      ⟨⟨{ place with entry := .file (encode t) }, some (snapshot.replaceTasks changed)⟩,
        log ++ [.snapshotWritten (snapshot.replacedCount changed) path],
        .ok (syncReport path inspected changed (snapshot.replacedCount changed) false
          (shortfall (snapshot.replacedCount changed) changed.length))⟩ := by
  rw [pushChanged, if_neg (by simpa using changes), SnapshotFile.source]
  dsimp only
  rw [SnapshotFile.push_eq path snapshot changed entry written writable]
  rfl

theorem pushChanged_refused {cause : FileError} (refuses : place.obstacle = some cause) :
    pushChanged (SnapshotFile.source path) ⟨place, some snapshot⟩ log inspected changed false =
      ⟨⟨place, some snapshot⟩,
        log ++ [.pushFailed path (SnapshotFile.writeFailure path cause)],
        .ok (sourceFailure .sourceError (SnapshotFile.writeFailure path cause) path)⟩ := by
  rw [pushChanged, if_neg (by simpa using changes), SnapshotFile.source]
  dsimp only
  rw [SnapshotFile.push_refused path snapshot changed entry written refuses]
  rfl

end Files

end Engine

end TaskTitles
