import Mathlib.Logic.Function.Basic
import TaskTitles.Proofs.Cycle.Courses
import TaskTitles.Proofs.Cycle.Overwriting

/-!
# Cycles that take turns

Cycles over one snapshot file may run at the same time.  Each reads the file in one step, keeps what
it has read, and writes the file in a later step without looking at it again; two steps in a row are
a whole cycle (`advance_advance`).  Where normalized tasks are in order, and numbers are not
repeated, no order of the steps loses or doubles a task: the file holds the snapshot as it was or
the normalized one, and the normalized one once a cycle has come to a success (`run_converges`).
-/

namespace TaskTitles

open Files

/-- How far a cycle has come. -/
inductive Stage where
  | waiting
  /-- The file has been read, and is still to be written. -/
  | loaded (snapshot : Snapshot)
  | finished (outcome : Except Crash Report)

/-- How many steps bring a cycle there, if it can read the file. -/
def Stage.steps : Stage → Nat
  | .waiting => 0
  | .loaded _ => 1
  | .finished _ => 2

/-- A place at which cycles take turns, and how far each of them has come. -/
structure SharedPlace (ι : Type) where
  place : Place
  stage : ι → Stage := fun _ => .waiting

/-- The snapshot with each task as it has come out. -/
def Snapshot.settled (snapshot : Snapshot) (outcomes : List Outcome) : Snapshot :=
  { snapshot with tasks := outcomes.map (·.task) }

namespace Engine

variable {engine : Engine} {snapshot : Snapshot} {outcomes : List Outcome}

theorem length_outcomes (normalized : engine.normalizeAll snapshot = .ok outcomes) :
    outcomes.length = snapshot.tasks.length := (forall₂_frame normalized).length_eq

/-- Tasks that are in order once they are normalized do not change again. -/
theorem changedIn_settled (settled : ∀ outcome ∈ outcomes, ∃ again,
      engine.normalize outcome.task (some (.ofList snapshot.contexts))
        (some (.ofList snapshot.folders)) = .ok again ∧ again.changed = false) :
    (engine.changedIn (snapshot.settled outcomes)).result = .ok [] := by
  have inOrder : ∀ task ∈ outcomes.map (·.task), ∃ again,
      engine.normalize task (some (.ofList snapshot.contexts)) (some (.ofList snapshot.folders)) =
        .ok again ∧ again.changed = false := List.forall_mem_map.2 settled
  obtain ⟨again, normalized, unchanged⟩ := exists_mapM_eq_ok inOrder
  have none : changedOf again = [] := by simpa [changedOf] using unchanged
  rw [← none]
  exact changedIn_eq normalized

end Engine

namespace SharedPlace

variable {ι : Type} [DecidableEq ι]

/-- One of the cycles runs to its end, with what it has of the file. -/
def finish (engine : Engine) (path : Text) (shared : SharedPlace ι) (i : ι)
    (kept : Option Snapshot) : SharedPlace ι :=
  let cycle := engine.runCycle (SnapshotFile.source path) false ⟨shared.place, kept⟩
  ⟨cycle.state.place, Function.update shared.stage i (.finished cycle.outcome)⟩

/-- One of the cycles takes its next step.  If it cannot read the file, that is its last one. -/
def advance (engine : Engine) (path : Text) (shared : SharedPlace ι) (i : ι) : SharedPlace ι :=
  match shared.stage i with
  | .waiting =>
    match SnapshotFile.fetch path { place := shared.place } with
    | (.error _, _) => shared.finish engine path i none
    | (.ok snapshot, _) =>
      { shared with stage := Function.update shared.stage i (.loaded snapshot) }
  | .loaded snapshot => shared.finish engine path i (some snapshot)
  | .finished _ => shared

/-- The cycles take steps in the order of a schedule. -/
def run (engine : Engine) (path : Text) (shared : SharedPlace ι) : List ι → SharedPlace ι
  | [] => shared
  | i :: schedule => (shared.advance engine path i).run engine path schedule

variable {engine : Engine} {path : Text} {shared : SharedPlace ι} {i : ι}

/-! ## Steps -/

theorem advance_waiting_error {trouble : Trouble} {file : SnapshotFile}
    (waiting : shared.stage i = .waiting)
    (failed : SnapshotFile.fetch path { place := shared.place } = (.error trouble, file)) :
    shared.advance engine path i = shared.finish engine path i none := by
  rw [advance, waiting]
  dsimp only
  rw [failed]

theorem advance_waiting_ok {snapshot : Snapshot} {file : SnapshotFile}
    (waiting : shared.stage i = .waiting)
    (fetched : SnapshotFile.fetch path { place := shared.place } = (.ok snapshot, file)) :
    shared.advance engine path i =
      { shared with stage := Function.update shared.stage i (.loaded snapshot) } := by
  rw [advance, waiting]
  dsimp only
  rw [fetched]

theorem advance_loaded {snapshot : Snapshot} (loaded : shared.stage i = .loaded snapshot) :
    shared.advance engine path i = shared.finish engine path i (some snapshot) := by
  rw [advance, loaded]

theorem advance_finished {outcome : Except Crash Report}
    (finished : shared.stage i = .finished outcome) :
    shared.advance engine path i = shared := by
  rw [advance, finished]

/-- Two steps with none in between are a whole cycle. -/
theorem advance_advance (waiting : shared.stage i = .waiting) :
    (shared.advance engine path i).advance engine path i = shared.finish engine path i none := by
  cases loaded : SnapshotFile.readPlace path shared.place with
  | error trouble =>
    have ended : (shared.finish engine path i none).stage i = .finished _ :=
      Function.update_self ..
    rw [advance_waiting_error waiting (SnapshotFile.fetch_of_readPlace_error loaded),
      advance_finished ended]
  | ok snapshot =>
    rw [advance_waiting_ok waiting (SnapshotFile.fetch_of_readPlace loaded),
      advance_loaded (Function.update_self ..), finish, finish]
    dsimp only
    rw [Engine.runCycle_of_readPlace false loaded, Function.update_idem]

/-! ## Progress -/

/-- A step moves one cycle on, and only that one. -/
theorem exists_advance_eq (engine : Engine) (path : Text) (shared : SharedPlace ι) (i : ι) :
    ∃ place next, shared.advance engine path i = ⟨place, Function.update shared.stage i next⟩ ∧
      min 2 ((shared.stage i).steps + 1) ≤ next.steps := by
  cases stage : shared.stage i with
  | waiting =>
    rcases SnapshotFile.fetch_cases path { place := shared.place } with
      ⟨trouble, failed⟩ | ⟨snapshot, fetched⟩
    · exact ⟨_, _, advance_waiting_error stage failed, Nat.min_le_left ..⟩
    · exact ⟨_, _, advance_waiting_ok stage fetched, Nat.min_le_right ..⟩
  | loaded snapshot => exact ⟨_, _, advance_loaded stage, Nat.min_le_left ..⟩
  | finished outcome =>
    refine ⟨shared.place, .finished outcome, ?_, Nat.min_le_left ..⟩
    rw [advance_finished stage, ← stage, Function.update_eq_self]

theorem stage_run_of_finished {outcome : Except Crash Report}
    (finished : shared.stage i = .finished outcome) (schedule : List ι) :
    (shared.run engine path schedule).stage i = .finished outcome := by
  induction schedule generalizing shared with
  | nil => exact finished
  | cons j schedule ih =>
    rw [run]
    refine ih ?_
    by_cases same : i = j
    · subst same
      rwa [advance_finished finished]
    · obtain ⟨place, next, advanced, -⟩ := exists_advance_eq engine path shared j
      rw [advanced]
      dsimp only
      rwa [Function.update_of_ne same]

/-- A cycle that has its two turns comes to its end. -/
theorem exists_finished_run {schedule : List ι}
    (turns : 2 ≤ (shared.stage i).steps + schedule.count i) :
    ∃ outcome, (shared.run engine path schedule).stage i = .finished outcome := by
  induction schedule generalizing shared with
  | nil =>
    cases stage : shared.stage i with
    | finished outcome => exact ⟨outcome, stage⟩
    | _ => simp [stage, Stage.steps] at turns
  | cons j schedule ih =>
    obtain ⟨place, next, advanced, further⟩ := exists_advance_eq engine path shared j
    rw [run]
    refine ih ?_
    rw [advanced]
    dsimp only
    by_cases same : i = j
    · subst same
      rw [Function.update_self]
      rw [List.count_cons_self] at turns
      omega
    · rw [Function.update_of_ne same]
      rwa [List.count_cons_of_ne (Ne.symm same)] at turns

/-! ## Convergence -/

/-- What a cycle has read is the snapshot before the change or after it, and where it has come to a
    success, the place holds the latter. -/
inductive IsOnCourse (path : Text) (snapshot : Snapshot) (outcomes : List Outcome) (place : Place) :
    Stage → Prop where
  | waiting : IsOnCourse path snapshot outcomes place .waiting
  | early : IsOnCourse path snapshot outcomes place (.loaded snapshot)
  | late (held : SnapshotFile.readPlace path place = .ok (snapshot.settled outcomes)) :
      IsOnCourse path snapshot outcomes place (.loaded (snapshot.settled outcomes))
  | stored (held : SnapshotFile.readPlace path place = .ok (snapshot.settled outcomes)) :
      IsOnCourse path snapshot outcomes place (.finished (.ok (Engine.syncReport path
        snapshot.tasks.length (changedOf outcomes) (changedOf outcomes).length false [])))
  | idle (held : SnapshotFile.readPlace path place = .ok (snapshot.settled outcomes)) :
      IsOnCourse path snapshot outcomes place (.finished (.ok (Engine.syncReport path
        snapshot.tasks.length [] 0 false [])))
  | refused {cause : FileError} (refuses : place.obstacle = some cause)
      (changes : changedOf outcomes ≠ []) :
      IsOnCourse path snapshot outcomes place (.finished (.ok (Engine.sourceFailure .sourceError
        (SnapshotFile.writeFailure path cause) path)))

/-- The file holds the snapshot as it was or as it will be, and every cycle is on course. -/
structure IsConverging (path : Text) (snapshot : Snapshot) (outcomes : List Outcome)
    (obstacle : Option FileError) (shared : SharedPlace ι) : Prop where
  obstacle : shared.place.obstacle = obstacle
  held : SnapshotFile.readPlace path shared.place = .ok snapshot ∨
    SnapshotFile.readPlace path shared.place = .ok (snapshot.settled outcomes)
  onCourse : ∀ i, IsOnCourse path snapshot outcomes shared.place (shared.stage i)

variable {snapshot : Snapshot} {outcomes : List Outcome} {place written : Place} {stage : Stage}

/-- Another cycle may write the normalized snapshot in the meantime. -/
theorem IsOnCourse.of_held (onCourse : IsOnCourse path snapshot outcomes place stage)
    (obstacle : written.obstacle = place.obstacle)
    (held : SnapshotFile.readPlace path written = .ok (snapshot.settled outcomes)) :
    IsOnCourse path snapshot outcomes written stage := by
  cases onCourse with
  | waiting => exact .waiting
  | early => exact .early
  | late => exact .late held
  | stored => exact .stored held
  | idle => exact .idle held
  | refused refuses changes => exact .refused (obstacle.trans refuses) changes

namespace IsConverging

variable {obstacle : Option FileError}
  (converging : IsConverging path snapshot outcomes obstacle shared)

include converging

/-- A cycle that leaves the place alone leaves the others on course. -/
theorem update (next : IsOnCourse path snapshot outcomes shared.place stage) :
    IsConverging path snapshot outcomes obstacle
      ⟨shared.place, Function.update shared.stage i stage⟩ where
  obstacle := converging.obstacle
  held := converging.held
  onCourse := (Function.forall_update_iff shared.stage fun _ stage =>
    IsOnCourse path snapshot outcomes shared.place stage).2 ⟨next, fun j _ => converging.onCourse j⟩

/-- So does one that writes the normalized snapshot. -/
theorem write (kept : written.obstacle = shared.place.obstacle)
    (held : SnapshotFile.readPlace path written = .ok (snapshot.settled outcomes))
    (next : IsOnCourse path snapshot outcomes written stage) :
    IsConverging path snapshot outcomes obstacle
      ⟨written, Function.update shared.stage i stage⟩ where
  obstacle := kept.trans converging.obstacle
  held := .inr held
  onCourse := (Function.forall_update_iff shared.stage fun _ stage =>
    IsOnCourse path snapshot outcomes written stage).2
      ⟨next, fun j _ => (converging.onCourse j).of_held kept held⟩

omit [DecidableEq ι] in
theorem exists_entry : ∃ content, shared.place.entry = .file content :=
  converging.held.elim SnapshotFile.exists_entry_of_readPlace SnapshotFile.exists_entry_of_readPlace

/-- A cycle that has read the file and finds nothing to change leaves it as it is. -/
theorem finish_unchanged {seen : Snapshot} (length : seen.tasks.length = snapshot.tasks.length)
    (unchanged : (engine.changedIn seen).result = .ok [])
    (held : SnapshotFile.readPlace path shared.place = .ok (snapshot.settled outcomes)) :
    IsConverging path snapshot outcomes obstacle (shared.finish engine path i (some seen)) := by
  obtain ⟨content, entry⟩ := converging.exists_entry
  have isFile := Place.isFile_of_entry entry
  rw [finish, Engine.runCycle_of_computed false isFile rfl unchanged, Engine.pushChanged,
    if_pos (.inl rfl), length]
  exact converging.update (.idle held)

section Normalizing

variable (distinct : (snapshot.tasks.map (·.id)).Nodup)
  (normalized : engine.normalizeAll snapshot = .ok outcomes)
  (storable : snapshot.IsStorable)

include distinct normalized storable

/-- A cycle that has read the snapshot before the change writes all of the change, or nothing. -/
theorem finish_early :
    IsConverging path snapshot outcomes obstacle (shared.finish engine path i (some snapshot)) := by
  have pairs := Engine.forall₂_frame normalized
  have computed := Engine.changedIn_eq normalized
  by_cases unchanged : changedOf outcomes = []
  · have same : snapshot.settled outcomes = snapshot := by
      rw [Snapshot.settled, Engine.map_task_eq normalized unchanged]
    rw [unchanged] at computed
    refine converging.finish_unchanged rfl computed ?_
    rw [same]
    exact converging.held.elim id fun held => held.trans (congrArg _ same)
  · obtain ⟨content, entry⟩ := converging.exists_entry
    have isFile := Place.isFile_of_entry entry
    have written := (Engine.isStorable_replaceTasks normalized storable).toText?_eq
    rw [finish, Engine.runCycle_of_computed false isFile rfl computed]
    cases refuses : shared.place.obstacle with
    | some cause =>
      rw [Engine.pushChanged_refused entry unchanged written _ _ refuses]
      exact converging.update (.refused refuses unchanged)
    | none =>
      have next : (snapshot.settled outcomes).IsStorable :=
        Engine.isStorable_normalized normalized storable
      have held : SnapshotFile.readPlace path
          { shared.place with entry := .file (encode (snapshot.settled outcomes).toText) } =
            .ok (snapshot.settled outcomes) := SnapshotFile.readPlace_toText next rfl
      rw [Engine.pushChanged_stored entry unchanged written _ _ refuses,
        Snapshot.replacedCount_eq distinct pairs, Snapshot.replaceTasks_eq distinct pairs,
        Engine.shortfall_eq_nil (Int.le_refl _)]
      exact converging.write rfl held (.stored held)

end Normalizing

end IsConverging

section Run

variable {obstacle : Option FileError} (distinct : (snapshot.tasks.map (·.id)).Nodup)
  (normalized : engine.normalizeAll snapshot = .ok outcomes)
  (settled : ∀ outcome ∈ outcomes, ∃ again, engine.normalize outcome.task
    (some (.ofList snapshot.contexts)) (some (.ofList snapshot.folders)) = .ok again ∧
      again.changed = false)
  (storable : snapshot.IsStorable)

include distinct normalized settled storable

/-- Each step keeps the cycles converging, whichever of them takes it. -/
theorem IsConverging.advance (converging : IsConverging path snapshot outcomes obstacle shared)
    (i : ι) : IsConverging path snapshot outcomes obstacle (shared.advance engine path i) := by
  cases stage : shared.stage i with
  | waiting =>
    -- The file is read, and it holds the snapshot before the change or after it.
    rcases converging.held with held | held
    · rw [advance_waiting_ok stage (SnapshotFile.fetch_of_readPlace held)]
      exact converging.update .early
    · rw [advance_waiting_ok stage (SnapshotFile.fetch_of_readPlace held)]
      exact converging.update (.late held)
  | loaded seen =>
    rw [advance_loaded stage]
    have onCourse := converging.onCourse i
    rw [stage] at onCourse
    cases onCourse with
    | early => exact converging.finish_early distinct normalized storable
    | late held =>
      have length : (snapshot.settled outcomes).tasks.length = snapshot.tasks.length := by
        rw [Snapshot.settled, List.length_map, Engine.length_outcomes normalized]
      exact converging.finish_unchanged length (Engine.changedIn_settled settled) held
  | finished outcome => rwa [advance_finished stage]

theorem IsConverging.run (converging : IsConverging path snapshot outcomes obstacle shared)
    (schedule : List ι) :
    IsConverging path snapshot outcomes obstacle (shared.run engine path schedule) := by
  induction schedule generalizing shared with
  | nil => exact converging
  | cons i schedule ih => exact ih (converging.advance distinct normalized settled storable i)

end Run

/-- Cycles over one snapshot file that take turns neither lose nor double a task, whatever their
    number and the order of their steps.  The file holds the snapshot as it was or with each task
    normalized, and the latter from when a cycle has come to a success; as every cycle does with its
    second step, unless the file cannot be written. -/
theorem run_converges (loaded : SnapshotFile.readPlace path place = .ok snapshot)
    (distinct : (snapshot.tasks.map (·.id)).Nodup)
    (normalized : engine.normalizeAll snapshot = .ok outcomes)
    (settled : ∀ outcome ∈ outcomes, ∃ again, engine.normalize outcome.task
      (some (.ofList snapshot.contexts)) (some (.ofList snapshot.folders)) = .ok again ∧
        again.changed = false) (schedule : List ι) :
    let shared : SharedPlace ι := ({ place } : SharedPlace ι).run engine path schedule
    let after : Snapshot := { snapshot with tasks := outcomes.map (·.task) }
    (SnapshotFile.readPlace path shared.place = .ok snapshot ∨
      SnapshotFile.readPlace path shared.place = .ok after) ∧
    (∀ i report, shared.stage i = .finished (.ok report) → report.succeeded = true → ∀ later,
      SnapshotFile.readPlace path (shared.run engine path later).place = .ok after) ∧
    ((changedOf outcomes ≠ [] → place.obstacle = none) → ∀ i,
      (∀ outcome, shared.stage i = .finished outcome →
        ∃ report, outcome = .ok report ∧ report.succeeded = true) ∧
      (2 ≤ schedule.count i → ∃ outcome, shared.stage i = .finished outcome)) := by
  intro shared after
  have storable := SnapshotFile.isStorable_of_readPlace loaded
  have start : IsConverging path snapshot outcomes place.obstacle ({ place } : SharedPlace ι) :=
    ⟨rfl, .inl loaded, fun _ => .waiting⟩
  have converging : IsConverging path snapshot outcomes place.obstacle shared :=
    start.run distinct normalized settled storable schedule
  refine ⟨converging.held, fun i report finished succeeded later => ?_, fun writable i => ⟨?_, ?_⟩⟩
  · have onCourse := (converging.run distinct normalized settled storable later).onCourse i
    rw [stage_run_of_finished finished later] at onCourse
    cases onCourse with
    | stored held => exact held
    | idle held => exact held
    | refused => cases succeeded
  · intro outcome finished
    have onCourse := converging.onCourse i
    rw [finished] at onCourse
    cases onCourse with
    | stored => exact ⟨_, rfl, rfl⟩
    | idle => exact ⟨_, rfl, rfl⟩
    | refused refuses changes =>
      rw [converging.obstacle, writable changes] at refuses
      cases refuses
  · exact fun turns => exists_finished_run (by simpa [Stage.steps] using turns)

/-- Two cycles read the same file before either of them writes it, and the task in it is written
    twice: it is there once, and in order. -/
theorem run_converges_ring :
    let ring : Task := { id := 7, title := "Ring home" }
    let settled : Task := { ring with dueDate := 1711972800, status := .nextAction }
    let place : Place := { entry := .file (encode (Snapshot.toText { tasks := [ring] })) }
    ∃ shared,
      ({ place } : SharedPlace Bool).run (.standard ⟨2024, 1, 15, by decide⟩) "tasks.json"
        [false, true, true, false] = shared ∧
      SnapshotFile.readPlace "tasks.json" shared.place = .ok { tasks := [settled] } := by
  intro ring settled place
  have first : (Engine.standard ⟨2024, 1, 15, by decide⟩).normalize ring (some (.ofList []))
      (some (.ofList [])) = .ok ⟨settled, true, [.normalized 7 "Ring home"]⟩ := by
    simp only [Engine.normalize, Engine.couple_ofList_nil, Engine.applyPlaceholder,
      Option.bind_some, Engine.findById?_ofList_nil]
    decide +kernel
  have again : (Engine.standard ⟨2024, 1, 15, by decide⟩).normalize settled (some (.ofList []))
      (some (.ofList [])) = .ok ⟨settled, false, []⟩ := by
    simp only [Engine.normalize, Engine.couple_ofList_nil, Engine.applyPlaceholder,
      Option.bind_some, Engine.findById?_ofList_nil]
    decide +kernel
  have normalized : (Engine.standard ⟨2024, 1, 15, by decide⟩).normalizeAll { tasks := [ring] } =
      .ok [⟨settled, true, [.normalized 7 "Ring home"]⟩] := by
    rw [Engine.normalizeAll]
    dsimp only
    rw [List.mapM_cons, first]
    rfl
  have storable : Snapshot.IsStorable { tasks := [ring] } := {
    contexts := List.forall_mem_nil _
    folders := List.forall_mem_nil _
    numbers := List.forall_mem_singleton.2
      (by constructor <;> exact isShort_of_natAbs_lt (by decide))
    tags := List.forall_mem_singleton.2 Tags.isDistinct_nil }
  have loaded : SnapshotFile.readPlace "tasks.json" place = .ok { tasks := [ring] } :=
    SnapshotFile.readPlace_toText storable rfl
  obtain ⟨-, held, ends⟩ := run_converges loaded (List.nodup_singleton _) normalized
    (List.forall_mem_singleton.2 ⟨_, again, rfl⟩) [false, true, true, false]
  obtain ⟨outcome, finished⟩ := (ends (fun _ => rfl) true).2 (by decide)
  obtain ⟨report, rfl, succeeded⟩ := (ends (fun _ => rfl) true).1 outcome finished
  have reached := held true report finished succeeded []
  rw [run] at reached
  exact ⟨_, rfl, reached⟩

end SharedPlace

end TaskTitles
