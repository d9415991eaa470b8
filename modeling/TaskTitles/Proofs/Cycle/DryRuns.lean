import TaskTitles.Proofs.Cycle.Courses
import TaskTitles.Proofs.Cycle.Overwriting

/-!
# Dry runs

A dry run looks for the tasks that change as any cycle does, and does not push them.  So it tells
what the other cycle will report, and it touches nothing; nor does any cycle that fails or has
nothing to change (`runCycle_dryRun`).
-/

namespace TaskTitles

open Files

namespace Engine

variable (engine : Engine) (path : Text) (file : SnapshotFile)

/-- Where a cycle comes to a success, so does the dry run, and over the same tasks. -/
theorem exists_syncReport_of_succeeded {report : Report}
    (reported : (engine.runCycle (SnapshotFile.source path) false file).outcome = .ok report)
    (succeeded : report.succeeded = true) :
    ∃ inspected changed pushed warnings,
      report = syncReport path inspected changed pushed false warnings ∧
      (engine.runCycle (SnapshotFile.source path) true file).outcome =
        .ok (syncReport path inspected changed 0 true []) := by
  rcases runCycle_cases engine path file with
    ⟨cycle, failed, -, same⟩ | ⟨snapshot, log, changed, pushing⟩
  · rw [same] at reported
    rw [failed report reported] at succeeded
    cases succeeded
  · -- Both cycles have come to the same tasks, and only one of them tries to push.
    have dry : (engine.runCycle (SnapshotFile.source path) true file).outcome =
        .ok (syncReport path snapshot.tasks.length changed 0 true []) := by
      rw [pushing, pushChanged, if_pos (.inr rfl)]
      rfl
    rw [pushing] at reported
    rcases pushChanged_cases path file.place snapshot log snapshot.tasks.length changed false with
      ⟨-, ⟨-, idle⟩ | ⟨-, broken⟩ | ⟨reason, refused⟩⟩ | ⟨-, -, stored⟩
    · cases reported.symm.trans idle
      exact ⟨_, _, _, _, rfl, dry⟩
    · cases reported.symm.trans broken
    · cases reported.symm.trans refused
      cases succeeded
    · cases reported.symm.trans stored
      exact ⟨_, _, _, _, rfl, dry⟩

theorem get?_modified_syncReport (source : Text) (inspected : Nat) (changed : List Task)
    (pushed : Int) (dryRun : Bool) (warnings : List Text) :
    (syncReport source inspected changed pushed dryRun warnings).data.get? "modified" =
      some (.int changed.length) := rfl

/-- The place is written only by a cycle that is no dry run and reports a success with changes. -/
theorem place_runCycle_cases (dryRun : Bool) :
    let cycle := engine.runCycle (SnapshotFile.source path) dryRun file
    cycle.state.place = file.place ∨
      dryRun = false ∧ ∃ inspected changed pushed warnings, changed ≠ [] ∧
        cycle.outcome = .ok (syncReport path inspected changed pushed false warnings) := by
  dsimp only
  rcases runCycle_cases engine path file with
    ⟨cycle, -, kept, same⟩ | ⟨snapshot, log, changed, pushing⟩
  · rw [same]
    exact .inl kept
  · rw [pushing]
    rcases pushChanged_cases path file.place snapshot log snapshot.tasks.length changed dryRun with
      ⟨kept, -⟩ | ⟨changes, notDry, stored⟩
    · exact .inl kept
    · exact .inr ⟨notDry, _, _, _, _, changes, stored⟩

/-- A cycle that comes to a success reports the same as the dry run over the same file, but for what
    it has pushed.  The place stays as it is in a dry run, in a cycle that fails, and in one that
    reports no changes. -/
theorem runCycle_dryRun (engine : Engine) (path : Text) (file : SnapshotFile) :
    let real := engine.runCycle (SnapshotFile.source path) false file
    let dry := engine.runCycle (SnapshotFile.source path) true file
    (∀ report, real.outcome = .ok report → report.succeeded = true →
      ∃ inspected modified pushed items warnings,
        report = .success "sync"
          [("source", .text path), ("inspected", .int inspected), ("modified", .int modified),
           ("pushed", .int pushed), ("dry_run", .bool false), ("items", .list items)] warnings ∧
        dry.outcome = .ok (.success "sync"
          [("source", .text path), ("inspected", .int inspected), ("modified", .int modified),
           ("pushed", .int 0), ("dry_run", .bool true), ("items", .list items)] [])) ∧
    ∀ dryRun,
      let cycle := engine.runCycle (SnapshotFile.source path) dryRun file
      (dryRun = true ∨ ∀ report, cycle.outcome = .ok report →
        report.succeeded = false ∨ report.data.get? "modified" = some (.int 0)) →
      cycle.state.place = file.place := by
  refine ⟨fun report reported succeeded => ?_, fun dryRun => ?_⟩
  · obtain ⟨inspected, changed, pushed, warnings, rfl, dry⟩ :=
      exists_syncReport_of_succeeded engine path file reported succeeded
    exact ⟨inspected, changed.length, pushed, _, warnings, rfl, dry⟩
  · intro cycle harmless
    rcases place_runCycle_cases engine path file dryRun with
      kept | ⟨rfl, inspected, changed, pushed, warnings, changes, reported⟩
    · exact kept
    · rcases harmless with dry | unsuccessful
      · cases dry
      -- A cycle that writes has reported a success with changes.
      rcases unsuccessful _ reported with failed | unmodified
      · cases failed
      · rw [get?_modified_syncReport] at unmodified
        have none : (changed.length : Int) = 0 := Value.int.inj (Option.some.inj unmodified)
        exact absurd (List.length_eq_zero_iff.1 (Int.natCast_eq_zero.1 none)) changes

/-- The dry run over two tasks without numbers says that one of them will change. -/
theorem runCycle_dryRun_unnumbered :
    ∃ cycle,
      (standard ⟨2024, 1, 15, by decide⟩).runCycle (SnapshotFile.source "tasks.json") true
        { place := { entry := .file (encode unnumbered.toText) } } = cycle ∧
      cycle.outcome = .ok (.success "sync"
        [("source", .text "tasks.json"), ("inspected", .int 2), ("modified", .int 1),
         ("pushed", .int 0), ("dry_run", .bool true),
         ("items", .list [.table [("id", .int 0), ("title", .text "Ring home")]])] []) ∧
      cycle.state.place = { entry := .file (encode unnumbered.toText) } := by
  obtain ⟨reported, -⟩ :
      _ = Except.ok (syncReport "tasks.json" 2
        [{ title := "Ring home", dueDate := 1711972800, status := .nextAction }] 2 false []) ∧ _ :=
    runCycle_replaces readPlace_unnumbered normalizeAll_unnumbered fun _ => rfl
  obtain ⟨predicts, harmless⟩ := runCycle_dryRun (standard ⟨2024, 1, 15, by decide⟩) "tasks.json"
    { place := { entry := .file (encode unnumbered.toText) } }
  obtain ⟨inspected, modified, pushed, items, warnings, real, dry⟩ := predicts _ reported rfl
  cases real
  exact ⟨_, rfl, dry, harmless true (.inl rfl)⟩

end Engine

end TaskTitles
