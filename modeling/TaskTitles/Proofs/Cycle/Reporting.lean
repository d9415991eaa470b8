import TaskTitles.Proofs.Cycle.Courses
import TaskTitles.Proofs.Cycle.Sync

/-!
# What a cycle over a snapshot file reports

Before the last year of the calendar every task can be normalized, and trouble with the file becomes
the failure of the report.  So a cycle comes to a report, whether or not there is a file at the path
and whether or not it can be written, with two exceptions: a file whose bytes are no text crashes it,
and so does a path of which the platform does not tell whether it is a file (`runCycle_reports`).
-/

namespace TaskTitles

open Calendar Files

/-- A file that can be read at the place holds a text. -/
def Files.Place.IsLegible (place : Place) : Prop :=
  ∀ content, place.entry = .file content → (decode? content).isSome

/-- A success of the cycle, or a failure of its source. -/
inductive Report.IsOfCycle : Report → Prop where
  | success (data : Value.Fields) (warnings : List Text) :
      IsOfCycle (.success Engine.syncOperation data warnings)
  | failed {code : FailureCode} (ofSource : code = .sourceUnavailable ∨ code = .sourceError)
      (message : Text) (detail : Value.Fields) :
      IsOfCycle (.failed Engine.syncOperation code message detail)

/-! ## Reading -/

theorem Files.Place.isFile_cases (place : Place) :
    place.isFile = .ok true ∨ place.IsLegible ∧
      (place.isFile = .ok false ∨ ∃ cause, place.isFile = .error cause) := by
  rw [Place.isFile, Place.IsLegible]
  cases entry : place.entry with
  | locked cause => exact .inl rfl
  | file content => exact .inl rfl
  | hidden cause => exact .inr ⟨by rintro _ ⟨⟩, .inr ⟨cause, rfl⟩⟩
  | _ => exact .inr ⟨by rintro _ ⟨⟩, .inl rfl⟩

namespace SnapshotFile

/-- Only a file that is no text cannot be reported on. -/
theorem readPlace_cases (path : Text) (place : Place) :
    place.IsLegible ∧ ((∃ snapshot, readPlace path place = .ok snapshot) ∨
        ∃ reason, readPlace path place = .error (.reported reason)) ∨
      ¬ place.IsLegible ∧ readPlace path place = .error .undecodable := by
  rw [readPlace, Place.read, Place.IsLegible]
  cases entry : place.entry with
  | file content =>
    cases decoded : decode? content with
    | none => simp [decoded]
    | some t =>
      cases read : Snapshot.ofText t with
      | error faults => simp [decoded, read, Except.mapError]
      | ok snapshot => simp [decoded, read, Except.mapError]
  | _ => exact .inl ⟨by rintro _ ⟨⟩, .inr ⟨_, rfl⟩⟩

end SnapshotFile

namespace Engine

theorem exists_normalizeAll {today : Date} (answers : (Almanac.standard today).Answers)
    (snapshot : Snapshot) : ∃ outcomes, (standard today).normalizeAll snapshot = .ok outcomes := by
  have succeeds : ∀ task ∈ snapshot.tasks, ∃ outcome, (standard today).normalize task
      (some (.ofList snapshot.contexts)) (some (.ofList snapshot.folders)) = .ok outcome ∧ True :=
    fun task _ => by
      obtain ⟨outcome, normalized⟩ := normalize_eq_ok answers task (some (.ofList snapshot.contexts))
        (some (.ofList snapshot.folders))
      exact ⟨outcome, normalized, trivial⟩
  obtain ⟨outcomes, normalized, -⟩ := exists_mapM_eq_ok succeeds
  exact ⟨outcomes, normalized⟩

/-! ## Pushing -/

variable {engine : Engine} {path : Text} {place : Place} {snapshot : Snapshot}

/-- A push to a snapshot file that has been read succeeds or is reported as a failure, if there is a
    text to write. -/
theorem exists_report_pushChanged (log : List Notice) (inspected : Nat) {changed : List Task}
    (storable : (snapshot.replaceTasks changed).IsStorable) (dryRun : Bool) :
    ∃ report, (pushChanged (SnapshotFile.source path) ⟨place, some snapshot⟩ log inspected changed
      dryRun).outcome = .ok report ∧ report.IsOfCycle := by
  rcases pushChanged_cases path place snapshot log inspected changed dryRun with
    ⟨-, ⟨-, reported⟩ | ⟨unwritable, -⟩ | ⟨reason, reported⟩⟩ | ⟨-, -, reported⟩
  · exact ⟨_, reported, .success _ _⟩
  · cases storable.toText?_eq.symm.trans unwritable
  · exact ⟨_, reported, .failed (.inr rfl) _ _⟩
  · exact ⟨_, reported, .success _ _⟩

/-! ## Cycles -/

theorem runCycle_eq_troubled {trouble : Trouble} (dryRun : Bool)
    (reachable : place.isFile = .ok true)
    (failed : SnapshotFile.readPlace path place = .error trouble) :
    engine.runCycle (SnapshotFile.source path) dryRun { place } =
      troubled { place } [] path .fetchFailed trouble :=
  runCycle_of_fetch_error dryRun reachable (SnapshotFile.fetch_of_readPlace_error failed)

theorem runCycle_of_unreachable (dryRun : Bool) (unreachable : place.isFile = .ok false) :
    (engine.runCycle (SnapshotFile.source path) dryRun { place }).outcome =
      .ok (sourceFailure .sourceUnavailable ("Task source is unavailable: " ++ path) path) := by
  rw [runCycle_of_unavailable dryRun unreachable]

/-- Where the platform tells whether a file stands at the path, a cycle comes to a report, unless what
    stands there is a file that is no text.  Such a file crashes the cycle, and so does a path of which
    the platform does not tell, as in a directory that may not be searched. -/
theorem runCycle_reports {today : Date} (before : today.year ≤ 9998) (path : Text) (dryRun : Bool)
    (place : Place) :
    let cycle := (standard today).runCycle (SnapshotFile.source path) dryRun { place }
    (∀ found, place.isFile = .ok found → place.IsLegible →
      ∃ report, cycle.outcome = .ok report ∧ report.IsOfCycle) ∧
    (¬ place.IsLegible → cycle.outcome = .error .undecodable) ∧
    ∀ cause, place.isFile = .error cause → cycle.outcome = .error (.unknowable cause) := by
  dsimp only
  rcases place.isFile_cases with isFile | ⟨legible, isFile | ⟨cause, isFile⟩⟩ <;> rw [isFile]
  · refine ⟨?_, ?_, nofun⟩ <;>
      rcases SnapshotFile.readPlace_cases path place with
        ⟨legible, ⟨snapshot, loaded⟩ | ⟨reason, failed⟩⟩ | ⟨illegible, failed⟩
    · intro _ _ _
      -- What is written has been read or normalized, and so there is a text of it.
      obtain ⟨outcomes, normalized⟩ :=
        exists_normalizeAll (Almanac.answers_standard before) snapshot
      rw [runCycle_eq_pushChanged dryRun loaded (changedIn_eq normalized)]
      exact exists_report_pushChanged _ _
        (isStorable_replaceTasks normalized (SnapshotFile.isStorable_of_readPlace loaded)) dryRun
    · intro _ _ _
      rw [runCycle_eq_troubled dryRun isFile failed]
      exact ⟨_, rfl, .failed (.inr rfl) _ _⟩
    · exact fun _ _ legible => absurd legible illegible
    · exact fun illegible => absurd legible illegible
    · exact fun illegible => absurd legible illegible
    · intro _
      rw [runCycle_eq_troubled dryRun isFile failed]
      rfl
  · -- What is no file is not read at all.
    rw [runCycle_of_unreachable dryRun isFile]
    exact ⟨fun _ _ _ => ⟨_, rfl, .failed (.inl rfl) _ _⟩, fun illegible => absurd legible illegible,
      nofun⟩
  · rw [runCycle_of_unknowable dryRun isFile]
    refine ⟨nofun, fun illegible => absurd legible illegible, ?_⟩
    rintro _ ⟨⟩
    rfl

/-- A directory in the place of the snapshot is reported as an unavailable source. -/
theorem runCycle_reports_directory :
    ∃ report,
      ((standard ⟨2024, 1, 15, by decide⟩).runCycle (SnapshotFile.source "tasks.json") false
        { place := { entry := .directory } }).outcome = .ok report ∧ report.IsOfCycle := by
  obtain ⟨reports, -⟩ := @runCycle_reports ⟨2024, 1, 15, by decide⟩ (by decide) "tasks.json" false
    { entry := .directory }
  exact reports false rfl nofun

/-- A file of one byte that begins no character crashes a cycle. -/
theorem runCycle_crashes_on_bytes :
    let place : Place := { entry := .file ⟨#[0xFF]⟩ }
    ¬ ∃ report,
      ((standard ⟨2024, 1, 15, by decide⟩).runCycle (SnapshotFile.source "tasks.json") false
        { place }).outcome = .ok report := by
  intro place
  have noText : decode? ⟨#[0xFF]⟩ = none := by decide +kernel
  have illegible : ¬ place.IsLegible := fun legible => by
    have isText := legible _ rfl
    rw [noText] at isText
    cases isText
  rcases SnapshotFile.readPlace_cases "tasks.json" place with ⟨legible, -⟩ | ⟨-, failed⟩
  · exact absurd legible illegible
  · rw [runCycle_eq_troubled false rfl failed]
    rintro ⟨report, ended⟩
    cases ended

end Engine

end TaskTitles
