import TaskTitles.Proofs.Cycle.Courses
import TaskTitles.Proofs.Normalize.Numbers
import TaskTitles.Proofs.Snapshot.Replacing

/-!
# A cycle over a snapshot file

A cycle that pushes to a snapshot file comes to the same as normalizing every task of the file in
its place (`runCycle_eq_map_normalize`).  The ways there differ: the cycle collects the tasks that
change, replaces tasks by their numbers, writes the snapshot as JSON, and whoever reads the file
next checks every record anew.  Three facts bring them together: without repeated numbers replacing
the changed tasks reaches every task, normalized tasks are still storable, and what is storable is
read back as it was written.
-/

namespace TaskTitles

open Files

/-! ## Normalized snapshots -/

/-- The tasks of a snapshot, normalized one by one under its own contexts and folders. -/
def Engine.normalizeAll (engine : Engine) (snapshot : Snapshot) :
    Except Interruption (List Outcome) :=
  snapshot.tasks.mapM fun task =>
    engine.normalize task (some (.ofList snapshot.contexts)) (some (.ofList snapshot.folders))

namespace Engine

variable {engine : Engine} {snapshot : Snapshot} {outcomes : List Outcome}

theorem changedTasks_eq {contexts folders : Option Catalog} {tasks : List Task}
    (pairs : List.Forall₂ (fun outcome task => engine.normalize task contexts folders = .ok outcome)
      outcomes tasks) :
    (engine.changedTasks contexts folders tasks).result = .ok (changedOf outcomes) := by
  induction pairs with
  | nil => rfl
  | @cons outcome task outcomes tasks first _ ih =>
    rw [changedTasks, first]
    dsimp only
    rw [ih, changedOf]
    -- Only a task that has changed is collected.
    cases changed : outcome.changed with
    | true => simp [changedOf, changed, Except.map]
    | false => simp [changedOf, changed, Except.map]

section Normalized

variable (normalized : engine.normalizeAll snapshot = .ok outcomes)

include normalized

theorem changedIn_eq : (engine.changedIn snapshot).result = .ok (changedOf outcomes) :=
  changedTasks_eq (forall₂_of_mapM_eq_ok normalized)

theorem forall₂_frame : List.Forall₂ (fun (outcome : Outcome) (task : Task) =>
    outcome.task.id = task.id ∧ outcome.changed = decide (outcome.task ≠ task))
    outcomes snapshot.tasks :=
  (forall₂_of_mapM_eq_ok normalized).imp fun _ _ normalized =>
    ⟨(normalize_frame normalized).1, (normalize_frame normalized).2.1⟩

theorem isStorable_normalized (storable : snapshot.IsStorable) :
    Snapshot.IsStorable { snapshot with tasks := outcomes.map (·.task) } where
  contexts := storable.contexts
  folders := storable.folders
  numbers := by
    refine List.forall_mem_map.2 fun outcome member => ?_
    obtain ⟨task, inTasks, normalized⟩ := exists_of_mem_mapM normalized member
    exact hasNumbers_normalize (isShort_of_natAbs_lt (by decide)) isShort_noon
      (by simpa using storable.contexts) (by simpa using storable.folders)
      (storable.numbers task inTasks) normalized
  tags := by
    refine List.forall_mem_map.2 fun outcome member => ?_
    obtain ⟨task, inTasks, normalized⟩ := exists_of_mem_mapM normalized member
    exact (normalize_frame normalized).2.2 (storable.tags task inTasks)

/-- The changed tasks can be stored in the place of others, also where numbers are repeated. -/
theorem isStorable_replaceTasks (storable : snapshot.IsStorable) :
    (snapshot.replaceTasks (changedOf outcomes)).IsStorable := by
  have normalizedStorable := isStorable_normalized normalized storable
  have fromOutcome {task : Task} (member : task ∈ changedOf outcomes) :
      task ∈ outcomes.map (·.task) := (List.filter_sublist.map _).subset member
  exact storable.replaceTasks
    (fun task member _ => normalizedStorable.numbers task (fromOutcome member))
    (fun task member => normalizedStorable.tags task (fromOutcome member))

theorem map_task_eq (unchanged : changedOf outcomes = []) :
    outcomes.map (·.task) = snapshot.tasks := by
  -- Each pair of a task and its outcome is looked at for itself.
  have none : ∀ outcome ∈ outcomes, outcome.changed = false := by
    simpa [changedOf] using unchanged
  rw [← List.forall₂_eq_eq_eq, List.forall₂_map_left_iff]
  apply ((List.forall₂_and_left _ _).2 ⟨none, forall₂_frame normalized⟩).imp
  rintro outcome task ⟨unchanged, -, changed⟩
  simpa [unchanged] using changed

end Normalized

end Engine

/-! ## Cycles -/

namespace Engine

/-- A cycle over a snapshot file without repeated numbers comes to the same as normalizing every
    task of the file in its place.  It reports how many tasks there are and which of them have
    changed, the file holds the normalized tasks afterwards, and where none has changed the place is
    left alone, so that it need not even be writable. -/
theorem runCycle_eq_map_normalize {engine : Engine} {path : Text} {place : Place}
    {snapshot : Snapshot} {outcomes : List Outcome}
    (loaded : SnapshotFile.readPlace path place = .ok snapshot)
    (distinct : (snapshot.tasks.map (·.id)).Nodup)
    (normalized : engine.normalizeAll snapshot = .ok outcomes)
    (writable : changedOf outcomes ≠ [] → place.obstacle = none) :
    let changed := changedOf outcomes
    let cycle := engine.runCycle (SnapshotFile.source path) false { place }
    cycle.outcome = .ok (.success "sync"
      [("source", .text path), ("inspected", .int snapshot.tasks.length),
       ("modified", .int changed.length), ("pushed", .int changed.length), ("dry_run", .bool false),
       ("items", .list (changed.map fun task =>
         .table [("id", .int task.id), ("title", .text task.title)]))] []) ∧
    SnapshotFile.readPlace path cycle.state.place =
      .ok { snapshot with tasks := outcomes.map (·.task) } ∧
    (changed = [] → cycle.state.place = place) := by
  -- Up to the push the cycle only reads: the snapshot, and the tasks that change.
  dsimp only
  rw [runCycle_eq_pushChanged false loaded (changedIn_eq normalized)]
  by_cases unchanged : changedOf outcomes = []
  · -- Nothing is pushed, and nothing need be.
    have same := map_task_eq normalized unchanged
    rw [pushChanged, if_pos (.inl unchanged), unchanged, same]
    exact ⟨rfl, loaded, fun _ => rfl⟩
  · obtain ⟨content, entry⟩ := SnapshotFile.exists_entry_of_readPlace loaded
    have pairs := forall₂_frame normalized
    have storable := isStorable_replaceTasks normalized (SnapshotFile.isStorable_of_readPlace loaded)
    have replaced := Snapshot.replaceTasks_eq distinct pairs
    rw [pushChanged_stored entry unchanged storable.toText?_eq _ _ (writable unchanged), replaced,
      Snapshot.replacedCount_eq distinct pairs, shortfall_eq_nil (Int.le_refl _)]
    -- What has been written is read again, and every record of it is checked anew.
    rw [replaced] at storable
    exact ⟨rfl, SnapshotFile.readPlace_toText storable rfl, fun none => absurd none unchanged⟩

/-- Two tasks, of which one has a date and a tag in its title, and the other is in order. -/
theorem runCycle_eq_map_normalize_errand :
    let errand : Task := { id := 7, title := "Ring home //tomorrow /errand" }
    let settled : Task :=
      { id := 7, title := "Ring home", note := "~~// /errand", dueDate := 1705406400
        tags := ["errand"], status := .nextAction }
    let inOrder : Task := { id := 8, title := "Rest", dueDate := 1711972800, status := .nextAction }
    let place : Place :=
      { entry := .file (encode (Snapshot.toText { tasks := [errand, inOrder] })) }
    ∃ cycle,
      (standard ⟨2024, 1, 15, by decide⟩).runCycle (SnapshotFile.source "tasks.json") false
        { place } = cycle ∧
      cycle.outcome = .ok (.success "sync"
        [("source", .text "tasks.json"), ("inspected", .int 2), ("modified", .int 1),
         ("pushed", .int 1), ("dry_run", .bool false),
         ("items", .list [.table [("id", .int 7), ("title", .text "Ring home")]])] []) ∧
      SnapshotFile.readPlace "tasks.json" cycle.state.place =
        .ok { tasks := [settled, inOrder] } := by
  intro errand settled inOrder place
  have couples (engine : Engine) (task : Task) :
      engine.couple task (some (.ofList [])) (some (.ofList [])) = (task, []) := by
    have unknown (name : Text) : (Catalog.ofList []).findByName? name = none := by
      simp [Catalog.findByName?_eq]
    simp only [couple, unknown]
    rfl
  have noContext (id : Int) : (Catalog.ofList []).findById? id = none := by
    simp [Catalog.findById?_eq]
  have first : (standard ⟨2024, 1, 15, by decide⟩).normalize errand (some (.ofList []))
      (some (.ofList [])) = .ok ⟨settled, true, [.normalized 7 "Ring home"]⟩ := by
    simp only [normalize, couples, applyPlaceholder, Option.bind_some, noContext]
    decide +kernel
  have second : (standard ⟨2024, 1, 15, by decide⟩).normalize inOrder (some (.ofList []))
      (some (.ofList [])) = .ok ⟨inOrder, false, []⟩ := by
    simp only [normalize, couples, applyPlaceholder, Option.bind_some, noContext]
    decide +kernel
  have normalized : (standard ⟨2024, 1, 15, by decide⟩).normalizeAll
      { tasks := [errand, inOrder] } =
      .ok [⟨settled, true, [.normalized 7 "Ring home"]⟩, ⟨inOrder, false, []⟩] := by
    rw [normalizeAll]
    dsimp only
    rw [List.mapM_cons, first, List.mapM_cons, second]
    rfl
  have numbers : ∀ task ∈ [errand, inOrder], task.HasNumbers IsShort := by
    simp only [List.forall_mem_cons]
    refine ⟨?_, ?_, List.forall_mem_nil _⟩ <;>
      constructor <;> exact isShort_of_natAbs_lt (by decide)
  have tags : ∀ task ∈ [errand, inOrder], Tags.IsDistinct task.tags := by
    simp only [List.forall_mem_cons]
    exact ⟨Tags.isDistinct_nil, Tags.isDistinct_nil, List.forall_mem_nil _⟩
  have loaded : SnapshotFile.readPlace "tasks.json" place = .ok { tasks := [errand, inOrder] } :=
    SnapshotFile.readPlace_toText ⟨List.forall_mem_nil _, List.forall_mem_nil _, numbers, tags⟩ rfl
  obtain ⟨reported, held, -⟩ :=
    runCycle_eq_map_normalize loaded (by decide) normalized fun _ => rfl
  exact ⟨_, rfl, reported, held⟩

end Engine

end TaskTitles
