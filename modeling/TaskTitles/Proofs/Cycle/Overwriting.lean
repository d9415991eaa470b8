import TaskTitles.Proofs.Cycle.Reporting

/-!
# Cycles over repeated numbers

Nothing keeps the tasks of a snapshot file from having the same number, and a task without one has
the number 0.  A cycle pushes the changed tasks by their numbers, so a task that is in order already
is overwritten where one of its number has changed, and counted as pushed.  Everything else that is
in order stays as it is (`runCycle_overwrites`).
-/

namespace TaskTitles

open Files

namespace Engine

variable {engine : Engine} {snapshot : Snapshot} {outcomes : List Outcome}

/-- The file holds the snapshot with the changed tasks replaced, also where there are none. -/
theorem pushChanged_changedOf {path : Text} {place : Place} (log : List Notice)
    (loaded : SnapshotFile.readPlace path place = .ok snapshot)
    (normalized : engine.normalizeAll snapshot = .ok outcomes)
    (writable : changedOf outcomes ≠ [] → place.obstacle = none) :
    let changed := changedOf outcomes
    let cycle := pushChanged (SnapshotFile.source path) ⟨place, some snapshot⟩ log
      snapshot.tasks.length changed false
    cycle.outcome = .ok (syncReport path snapshot.tasks.length changed
      (changed.length + (overwrittenOf outcomes).length) false []) ∧
    SnapshotFile.readPlace path cycle.state.place = .ok (snapshot.replaceTasks changed) := by
  dsimp only
  by_cases unchanged : changedOf outcomes = []
  · have nothing : overwrittenOf outcomes = [] := by simp [overwrittenOf, isPushed, unchanged]
    rw [pushChanged, if_pos (.inl unchanged), nothing, unchanged, Snapshot.replaceTasks_nil]
    exact ⟨rfl, loaded⟩
  · obtain ⟨content, entry⟩ := SnapshotFile.exists_entry_of_readPlace loaded
    have count := Snapshot.replacedCount_eq_add (forall₂_frame normalized)
    have storable := isStorable_replaceTasks normalized (SnapshotFile.isStorable_of_readPlace loaded)
    rw [pushChanged_stored entry unchanged storable.toText?_eq log _ (writable unchanged), count,
      Int.natCast_add,
      shortfall_eq_nil (by omega)]
    exact ⟨rfl, SnapshotFile.readPlace_toText storable rfl⟩

theorem runCycle_replaces {path : Text} {place : Place}
    (loaded : SnapshotFile.readPlace path place = .ok snapshot)
    (normalized : engine.normalizeAll snapshot = .ok outcomes)
    (writable : changedOf outcomes ≠ [] → place.obstacle = none) :
    let changed := changedOf outcomes
    let cycle := engine.runCycle (SnapshotFile.source path) false { place }
    cycle.outcome = .ok (syncReport path snapshot.tasks.length changed
      (changed.length + (overwrittenOf outcomes).length) false []) ∧
    SnapshotFile.readPlace path cycle.state.place = .ok (snapshot.replaceTasks changed) := by
  dsimp only
  rw [runCycle_eq_pushChanged false loaded (changedIn_eq normalized)]
  exact pushChanged_changedOf _ loaded normalized writable

/-- A cycle reports as pushed the tasks that have changed and those of the same numbers, and leaves
    every task that is in order as it is, unless one of its number has changed. -/
theorem runCycle_overwrites {path : Text} {place : Place}
    (loaded : SnapshotFile.readPlace path place = .ok snapshot)
    (normalized : engine.normalizeAll snapshot = .ok outcomes)
    (writable : changedOf outcomes ≠ [] → place.obstacle = none) :
    let changed := changedOf outcomes
    let overwritten := overwrittenOf outcomes
    let cycle := engine.runCycle (SnapshotFile.source path) false { place }
    cycle.outcome = .ok (.success "sync"
      [("source", .text path), ("inspected", .int snapshot.tasks.length),
       ("modified", .int changed.length), ("pushed", .int (changed.length + overwritten.length)),
       ("dry_run", .bool false),
       ("items", .list (changed.map fun task =>
         .table [("id", .int task.id), ("title", .text task.title)]))] []) ∧
    changed.length + overwritten.length ≤ snapshot.tasks.length ∧
    ∃ stored, SnapshotFile.readPlace path cycle.state.place =
        .ok { snapshot with tasks := stored } ∧
      List.Forall₂ (fun (outcome : Outcome) (task : Task) => outcome.changed = false →
        (outcome ∉ overwritten → task = outcome.task) ∧
        (outcome ∈ overwritten → task ∈ changed ∧ task.id = outcome.task.id)) outcomes stored := by
  have pairs := forall₂_frame normalized
  obtain ⟨reported, held⟩ := runCycle_replaces loaded normalized writable
  exact ⟨reported, Snapshot.length_add_length_le pairs, _, held,
    Snapshot.forall₂_replaceTasks pairs⟩

/-! ## Two tasks without numbers -/

theorem couple_ofList_nil (engine : Engine) (task : Task) :
    engine.couple task (some (.ofList [])) (some (.ofList [])) = (task, []) := by
  have unknown (name : Text) : (Catalog.ofList []).findByName? name = none := by
    simp [Catalog.findByName?_eq]
  simp only [couple, unknown]
  rfl

theorem findById?_ofList_nil (id : Int) : (Catalog.ofList []).findById? id = none := by
  simp [Catalog.findById?_eq]

/-- The second task is in order on 15 January 2024, and the first one is not. -/
def unnumbered : Snapshot where
  tasks := [{ title := "Ring home" },
    { title := "Rest", dueDate := 1711972800, status := .nextAction }]

def unnumberedOutcomes : List Outcome :=
  [⟨{ title := "Ring home", dueDate := 1711972800, status := .nextAction }, true,
      [.normalized 0 "Ring home"]⟩,
    ⟨{ title := "Rest", dueDate := 1711972800, status := .nextAction }, false, []⟩]

theorem normalizeAll_unnumbered :
    (standard ⟨2024, 1, 15, by decide⟩).normalizeAll unnumbered = .ok unnumberedOutcomes := by
  have first : (standard ⟨2024, 1, 15, by decide⟩).normalize { title := "Ring home" }
      (some (.ofList [])) (some (.ofList [])) =
      .ok ⟨{ title := "Ring home", dueDate := 1711972800, status := .nextAction }, true,
        [.normalized 0 "Ring home"]⟩ := by
    simp only [normalize, couple_ofList_nil, applyPlaceholder, Option.bind_some,
      findById?_ofList_nil]
    decide +kernel
  have second : (standard ⟨2024, 1, 15, by decide⟩).normalize
      { title := "Rest", dueDate := 1711972800, status := .nextAction }
      (some (.ofList [])) (some (.ofList [])) =
      .ok ⟨{ title := "Rest", dueDate := 1711972800, status := .nextAction }, false, []⟩ := by
    simp only [normalize, couple_ofList_nil, applyPlaceholder, Option.bind_some,
      findById?_ofList_nil]
    decide +kernel
  rw [normalizeAll, unnumbered]
  dsimp only
  rw [List.mapM_cons, first, List.mapM_cons, second]
  rfl

theorem isStorable_unnumbered : unnumbered.IsStorable where
  contexts := List.forall_mem_nil _
  folders := List.forall_mem_nil _
  numbers := by
    simp only [unnumbered, List.forall_mem_cons]
    refine ⟨?_, ?_, List.forall_mem_nil _⟩ <;>
      constructor <;> exact isShort_of_natAbs_lt (by decide)
  tags := by
    simp only [unnumbered, List.forall_mem_cons]
    exact ⟨Tags.isDistinct_nil, Tags.isDistinct_nil, List.forall_mem_nil _⟩

theorem readPlace_unnumbered :
    SnapshotFile.readPlace "tasks.json" { entry := .file (encode unnumbered.toText) } =
      .ok unnumbered :=
  SnapshotFile.readPlace_toText isStorable_unnumbered rfl

/-- One of the two tasks has changed, and both are reported as pushed. -/
theorem runCycle_overwrites_unnumbered :
    ((standard ⟨2024, 1, 15, by decide⟩).runCycle (SnapshotFile.source "tasks.json") false
      { place := { entry := .file (encode unnumbered.toText) } }).outcome = .ok (.success "sync"
        [("source", .text "tasks.json"), ("inspected", .int 2), ("modified", .int 1),
         ("pushed", .int 2), ("dry_run", .bool false),
         ("items", .list [.table [("id", .int 0), ("title", .text "Ring home")]])] []) := by
  obtain ⟨reported, -⟩ :=
    runCycle_overwrites readPlace_unnumbered normalizeAll_unnumbered fun _ => rfl
  exact reported

/-- The second task has not changed, and yet the file holds the first one in its place. -/
theorem runCycle_loses_unchanged :
    let ring : Task := { title := "Ring home", dueDate := 1711972800, status := .nextAction }
    let place : Place := { entry := .file (encode unnumbered.toText) }
    let cycle := (standard ⟨2024, 1, 15, by decide⟩).runCycle (SnapshotFile.source "tasks.json")
      false { place }
    SnapshotFile.readPlace "tasks.json" place = .ok unnumbered ∧
      (standard ⟨2024, 1, 15, by decide⟩).normalizeAll unnumbered = .ok unnumberedOutcomes ∧
      unnumberedOutcomes.map (·.changed) = [true, false] ∧
      cycle.outcome = .ok (syncReport "tasks.json" 2 [ring] 2 false []) ∧
      SnapshotFile.readPlace "tasks.json" cycle.state.place = .ok { tasks := [ring, ring] } := by
  have replaced := runCycle_replaces readPlace_unnumbered normalizeAll_unnumbered fun _ => rfl
  exact ⟨readPlace_unnumbered, normalizeAll_unnumbered, rfl, replaced⟩

end Engine

end TaskTitles
