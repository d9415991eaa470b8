import TaskTitles.Proofs.Snapshot.Storing

/-!
# Sessions with a snapshot file

A source reads its snapshot file once and then answers from what it keeps; what it stores, it writes
to the file and keeps.  In a session, that is a sequence of calls, what is kept never drifts from
the file: whoever reads the file anew gets the same answers (`perform_keeps_step`).  The invariant
of a session is `IsInStep`, and each call keeps it (`IsInStep.answer`).
-/

namespace TaskTitles

open Validation Files

/-- A task that has passed its check, and whose text is read back as it was written, if the task can be
    written at all. -/
structure Task.IsPushable (task : Task) : Prop where
  checked : ∃ value, Task.ofValue value = .valid task
  readBack : ∀ t, Json.write? .indentedAscii task.toValue = some t →
    Json.read .file t = .ok task.toValue

theorem Task.IsPushable.isDistinct {task : Task} (pushable : task.IsPushable) :
    Tags.IsDistinct task.tags := by
  obtain ⟨value, checked⟩ := pushable.checked
  obtain ⟨fields, -, read⟩ := Task.ofValue_eq_valid_iff.1 checked
  exact read.isDistinct

/-- A number that is too long would not have been read back. -/
theorem Task.IsPushable.hasNumbers {task : Task} (pushable : task.IsPushable) {t : Text}
    (written : Json.write? .indentedAscii task.toValue = some t) : task.HasNumbers IsShort :=
  Task.hasNumbers_of_ofValue (Json.isShort_of_read (pushable.readBack t written))
    (Task.ofValue_toValue pushable.isDistinct)

theorem Task.isPushable_of_hasNumbers {task : Task} (isDistinct : Tags.IsDistinct task.tags)
    (short : task.HasNumbers IsShort) : task.IsPushable where
  checked := ⟨task.toValue, Task.ofValue_toValue isDistinct⟩
  readBack := by
    intro t written
    have read := Json.read_write (Snapshot.isWritable_task rfl rfl short) (List.forall_mem_nil _)
      (by rintro _ ⟨⟩)
    rwa [List.append_nil, (Json.write?_eq_some_iff.1 written).2] at read

/-- A task whose due date has too many digits is never written. -/
theorem Task.isPushable_of_long {task : Task} (isDistinct : Tags.IsDistinct task.tags)
    (long : 10 ^ Flaw.maxDigits ≤ task.dueDate.natAbs) : task.IsPushable where
  checked := ⟨task.toValue, Task.ofValue_toValue isDistinct⟩
  readBack := by
    intro t written
    have isWritten := (Json.write?_eq_some_iff.1 written).1 task.dueDate
      (Value.mem_fieldIntegers.2
        ⟨("due_date", .int task.dueDate), by simp [Task.fieldsWith], List.mem_singleton_self _⟩)
    exact absurd (isSome_ofInt?_iff.1 isWritten) (Nat.not_lt.2 long)

/-- What a snapshot has in common with all that it becomes: contexts, folders, and the numbers of
    its tasks. -/
structure Snapshot.IsVersionOf (held snapshot : Snapshot) : Prop where
  contexts : held.contexts = snapshot.contexts
  folders : held.folders = snapshot.folders
  ids : held.tasks.map (·.id) = snapshot.tasks.map (·.id)

theorem Snapshot.IsVersionOf.rfl {snapshot : Snapshot} : snapshot.IsVersionOf snapshot :=
  ⟨Eq.refl _, Eq.refl _, Eq.refl _⟩

theorem Snapshot.IsVersionOf.trans {first second third : Snapshot}
    (later : third.IsVersionOf second) (earlier : second.IsVersionOf first) :
    third.IsVersionOf first where
  contexts := later.contexts.trans earlier.contexts
  folders := later.folders.trans earlier.folders
  ids := later.ids.trans earlier.ids

/-- A task is replaced by one of its number, whatever tasks are pushed. -/
theorem Snapshot.isVersionOf_replaceTasks (snapshot : Snapshot) (changed : List Task) :
    (snapshot.replaceTasks changed).IsVersionOf snapshot where
  contexts := Eq.refl _
  folders := Eq.refl _
  ids := by
    rw [replaceTasks, List.map_map]
    refine List.map_congr_left fun task _ => ?_
    rw [Function.comp_apply]
    cases found : lastWithId? task.id changed with
    | none => exact Eq.refl _
    | some other => exact (of_lastWithId?_eq_some found).2

namespace SnapshotFile

/-! ## Calls -/

/-- What can be fetched from a snapshot file. -/
inductive Part where
  | contexts
  | folders
  | tasks

/-- What is asked of a snapshot file.  A push comes with what keeps the file from being written at
    that time, if anything does. -/
inductive Call where
  | fetch (part : Part)
  | push (changed : List Task) (obstacle : Option FileError)

def Call.pushed : Call → List Task
  | .fetch _ => []
  | .push changed _ => changed

inductive Answer where
  | entries (entries : List Context)
  | tasks (tasks : List Task)
  | accepted (count : Int)

def Part.ofSnapshot (part : Part) (snapshot : Snapshot) : Answer :=
  match part with
  | .contexts => .entries snapshot.contexts
  | .folders => .entries snapshot.folders
  | .tasks => .tasks snapshot.tasks

/-- The file at a time when writing meets the obstacle, or none. -/
def facing (file : SnapshotFile) (obstacle : Option FileError) : SnapshotFile :=
  { file with place := { file.place with obstacle } }

/-- The answer to a call, and the file after it. -/
def answer (path : Text) (file : SnapshotFile) : Call → Except Trouble Answer × SnapshotFile
  | .fetch part =>
    let (fetched, file) := fetch path file
    (fetched.map part.ofSnapshot, file)
  | .push changed obstacle =>
    let (accepted, file) := push path changed (file.facing obstacle)
    (accepted.map .accepted, file)

/-- The answers to calls that are made one after the other, and the file after them. -/
def perform (path : Text) (file : SnapshotFile) :
    List Call → List (Except Trouble Answer) × SnapshotFile
  | [] => ([], file)
  | call :: calls =>
    let (first, file) := answer path file call
    let (others, file) := perform path file calls
    (first :: others, file)

variable {path : Text} {file other : SnapshotFile} {snapshot : Snapshot}

/-- Reading does not depend on what keeps the file from being written. -/
theorem fetch_facing (obstacle : Option FileError) :
    (fetch path (file.facing obstacle)).1 = (fetch path file).1 := by
  obtain ⟨place, kept⟩ := file
  cases kept with
  | some snapshot => rfl
  | none =>
    have same : readPlace path { place with obstacle } = readPlace path place := rfl
    rw [facing, fetch, fetch]
    dsimp only
    rw [same]
    cases readPlace path place <;> rfl

/-! ## Files that answer alike -/

/-- The same entry stands at both places, and the same is fetched from both files. -/
structure Resembles (path : Text) (file other : SnapshotFile) : Prop where
  entry : file.place.entry = other.place.entry
  fetched : (fetch path file).1 = (fetch path other).1

namespace Resembles

variable (alike : Resembles path file other)

include alike

theorem facing (obstacle : Option FileError) :
    Resembles path (file.facing obstacle) (other.facing obstacle) where
  entry := alike.entry
  fetched := by rw [fetch_facing, fetch_facing, alike.fetched]

theorem fetch_cases :
    (∃ trouble, fetch path file = (.error trouble, file) ∧
        fetch path other = (.error trouble, other)) ∨
      ∃ snapshot, fetch path file = (.ok snapshot, ⟨file.place, some snapshot⟩) ∧
        fetch path other = (.ok snapshot, ⟨other.place, some snapshot⟩) := by
  have fetched := alike.fetched
  rcases SnapshotFile.fetch_cases path file with ⟨trouble, here⟩ | ⟨snapshot, here⟩ <;>
    rcases SnapshotFile.fetch_cases path other with ⟨_, there⟩ | ⟨_, there⟩ <;>
      rw [here, there] at fetched <;> cases fetched
  · exact .inl ⟨trouble, here, there⟩
  · exact .inr ⟨snapshot, here, there⟩

/-- Files that resemble each other give the same answer and resemble each other after it. -/
theorem answer (call : Call) :
    (answer path file call).1 = (answer path other call).1 ∧
      Resembles path (answer path file call).2 (answer path other call).2 := by
  cases call with
  | fetch part =>
    simp only [SnapshotFile.answer]
    rcases alike.fetch_cases with ⟨trouble, here, there⟩ | ⟨snapshot, here, there⟩
    · rw [here, there]
      exact ⟨rfl, alike⟩
    · rw [here, there]
      exact ⟨rfl, alike.entry, rfl⟩
  | push changed obstacle =>
    -- Once it faces the same obstacle, the place is the same.
    have place : (file.facing obstacle).place = (other.facing obstacle).place := by
      simp only [SnapshotFile.facing, alike.entry]
    simp only [SnapshotFile.answer, push]
    rcases (alike.facing obstacle).fetch_cases with
      ⟨trouble, here, there⟩ | ⟨snapshot, here, there⟩
    · rw [here, there]
      exact ⟨rfl, alike.facing obstacle⟩
    · rw [here, there, place]
      exact ⟨rfl, rfl, rfl⟩

theorem perform (calls : List Call) :
    (perform path file calls).1 = (perform path other calls).1 := by
  induction calls generalizing file other with
  | nil => rfl
  | cons call calls ih =>
    obtain ⟨first, later⟩ := alike.answer call
    rw [SnapshotFile.perform, SnapshotFile.perform]
    dsimp only
    rw [first, ih later]

end Resembles

/-! ## Files that are in step -/

/-- The file holds the snapshot, and what is kept of it is no other. -/
structure IsInStep (path : Text) (file : SnapshotFile) (snapshot : Snapshot) : Prop where
  read : readPlace path file.place = .ok snapshot
  kept : ∀ known ∈ file.kept, known = snapshot

namespace IsInStep

variable (inStep : IsInStep path file snapshot)

include inStep

theorem fetch_eq : fetch path file = (.ok snapshot, ⟨file.place, some snapshot⟩) := by
  obtain ⟨place, kept⟩ := file
  cases kept with
  | some known =>
    cases inStep.kept known rfl
    rfl
  | none =>
    have read : readPlace path place = .ok snapshot := inStep.read
    rw [fetch]
    dsimp only
    rw [read]

theorem answer_fetch (part : Part) :
    answer path file (.fetch part) =
      (.ok (part.ofSnapshot snapshot), ⟨file.place, some snapshot⟩) := by
  simp only [answer]
  rw [inStep.fetch_eq]
  rfl

theorem fetched : IsInStep path ⟨file.place, some snapshot⟩ snapshot :=
  ⟨inStep.read, by rintro _ ⟨⟩; rfl⟩

/-- What is read when the file is there is what a new source reads from it. -/
theorem anew : IsInStep path { place := file.place } snapshot := ⟨inStep.read, by rintro _ ⟨⟩⟩

theorem facing (obstacle : Option FileError) : IsInStep path (file.facing obstacle) snapshot :=
  ⟨inStep.read, inStep.kept⟩

theorem push_eq_of_kept (changed : List Task) :
    push path changed file = push path changed ⟨file.place, some snapshot⟩ := by
  rw [push, inStep.fetch_eq, push, inStep.fetched.fetch_eq]

/-- A push is answered by whether there is a text to write, and then by whether the file takes it. -/
theorem answer_push (changed : List Task) (obstacle : Option FileError) :
    answer path file (.push changed obstacle) =
      match (snapshot.replaceTasks changed).toText?, obstacle with
      | none, _ => (.error .tooManyDigits, ⟨(file.facing obstacle).place, some snapshot⟩)
      | some _, some cause =>
        (.error (.reported (writeFailure path cause)),
          ⟨(file.facing obstacle).place, some snapshot⟩)
      | some t, none =>
        (.ok (.accepted (snapshot.replacedCount changed)),
          ⟨⟨.file (encode t), none⟩, some (snapshot.replaceTasks changed)⟩) := by
  have faced := inStep.facing obstacle
  obtain ⟨content, isFile⟩ := exists_entry_of_readPlace faced.read
  simp only [answer]
  rw [faced.push_eq_of_kept]
  cases written : (snapshot.replaceTasks changed).toText? with
  | none =>
    rw [push_unwritable path snapshot changed written]
    rfl
  | some t =>
    cases obstacle with
    | some cause =>
      rw [push_refused path snapshot changed isFile written rfl]
      rfl
    | none =>
      rw [push_eq path snapshot changed isFile written rfl]
      rfl

/-- What has been written is read back, since each of its tasks can be written by itself. -/
theorem stored {changed : List Task} (pushable : ∀ task ∈ changed, task.IsPushable) {t : Text}
    (written : (snapshot.replaceTasks changed).toText? = some t) :
    IsInStep path ⟨⟨.file (encode t), none⟩, some (snapshot.replaceTasks changed)⟩
      (snapshot.replaceTasks changed) := by
  obtain ⟨rfl, writes⟩ := Snapshot.of_toText?_eq_some written
  have storable : (snapshot.replaceTasks changed).IsStorable :=
    (isStorable_of_readPlace inStep.read).replaceTasks
      (fun task pushed stored => (pushable task pushed).hasNumbers (writes task stored))
      (fun task pushed => (pushable task pushed).isDistinct)
  exact ⟨readPlace_toText storable rfl, by rintro _ ⟨⟩; rfl⟩

/-- Each call leaves the file in step with a version of the snapshot. -/
theorem answer {call : Call} (pushable : ∀ task ∈ call.pushed, task.IsPushable) :
    ∃ held, IsInStep path (answer path file call).2 held ∧ held.IsVersionOf snapshot := by
  cases call with
  | fetch part =>
    rw [inStep.answer_fetch part]
    exact ⟨snapshot, inStep.fetched, .rfl⟩
  | push changed obstacle =>
    have unchanged := (inStep.facing obstacle).fetched
    rw [inStep.answer_push changed obstacle]
    cases written : (snapshot.replaceTasks changed).toText? with
    | none => exact ⟨snapshot, unchanged, .rfl⟩
    | some t =>
      cases obstacle with
      | some cause => exact ⟨snapshot, unchanged, .rfl⟩
      | none =>
        exact ⟨_, inStep.stored pushable written, snapshot.isVersionOf_replaceTasks changed⟩

/-- So does every sequence of calls. -/
theorem perform {calls : List Call}
    (pushable : ∀ call ∈ calls, ∀ task ∈ call.pushed, task.IsPushable) :
    ∃ held, IsInStep path (perform path file calls).2 held ∧ held.IsVersionOf snapshot := by
  induction calls generalizing file snapshot with
  | nil => exact ⟨snapshot, inStep, .rfl⟩
  | cons call calls ih =>
    obtain ⟨pushableFirst, pushableLater⟩ := List.forall_mem_cons.1 pushable
    obtain ⟨next, nextInStep, nextVersion⟩ := inStep.answer pushableFirst
    obtain ⟨held, heldInStep, heldVersion⟩ := ih nextInStep pushableLater
    exact ⟨held, heldInStep, heldVersion.trans nextVersion⟩

end IsInStep

/-- Whatever has been asked of a snapshot file and stored in it, it answers like a file that is
    read anew.  Contexts, folders and the numbers of the tasks stay those of the first reading.  A push
    of tasks that have a text is taken or, if the file cannot be written, reported; tasks without one,
    which nothing could be read back from, break it off.  A push that fails leaves no trace, neither in
    the file nor in any later answer. -/
theorem perform_keeps_step {path : Text} {place : Place} {snapshot : Snapshot}
    (loaded : readPlace path place = .ok snapshot) (calls : List Call)
    (pushable : ∀ call ∈ calls, ∀ task ∈ call.pushed, task.IsPushable) :
    let file := (perform path { place } calls).2
    ∃ held : Snapshot,
      (∀ part, (answer path file (.fetch part)).1 = .ok (part.ofSnapshot held) ∧
        (answer path { place := file.place } (.fetch part)).1 = .ok (part.ofSnapshot held)) ∧
      held.contexts = snapshot.contexts ∧ held.folders = snapshot.folders ∧
      held.tasks.map (·.id) = snapshot.tasks.map (·.id) ∧
      ∀ changed obstacle,
        let (outcome, after) := answer path file (.push changed obstacle)
        outcome =
          (match (held.replaceTasks changed).toText?, obstacle with
          | none, _ => .error .tooManyDigits
          | some _, some cause => .error (.reported (writeFailure path cause))
          | some _, none => .ok (.accepted (held.replacedCount changed))) ∧
        ∀ trouble, outcome = .error trouble →
          after.place.entry = file.place.entry ∧
          ∀ later, (perform path after later).1 = (perform path file later).1 := by
  intro file
  have start : IsInStep path { place } snapshot := ⟨loaded, by rintro _ ⟨⟩⟩
  obtain ⟨held, inStep, version⟩ := start.perform pushable
  refine ⟨held, fun part => ⟨?_, ?_⟩, version.contexts, version.folders, version.ids, ?_⟩
  · rw [inStep.answer_fetch part]
  · rw [inStep.anew.answer_fetch part]
  · intro changed obstacle
    have alike : Resembles path ⟨(file.facing obstacle).place, some held⟩ file :=
      ⟨rfl, by rw [inStep.fetch_eq]; rfl⟩
    rw [inStep.answer_push changed obstacle]
    cases (held.replaceTasks changed).toText? with
    | none => exact ⟨rfl, fun _ _ => ⟨rfl, alike.perform⟩⟩
    | some t =>
      cases obstacle with
      | some cause => exact ⟨rfl, fun _ _ => ⟨rfl, alike.perform⟩⟩
      | none => exact ⟨rfl, nofun⟩

/-- Two tasks without numbers: both become the task that is pushed first, a task of another number
    takes the place of none, and neither a push that is not permitted nor one with a date of too many
    digits changes anything. -/
theorem perform_keeps_step_unnumbered :
    let snapshot : Snapshot := { tasks := [{ title := "Ring home" }, { title := "Rest" }] }
    let place : Place := { entry := .file (encode snapshot.toText) }
    let file := (perform "tasks.json" { place }
      [.fetch .tasks, .push [{ title := "Sing" }, { id := 9, title := "Swim" }] none,
        .push [{ title := "Read" }] (some .notPermitted),
        .push [{ title := "Wait", dueDate := 10 ^ Flaw.maxDigits }] none]).2
    ∃ held : Snapshot,
      (answer "tasks.json" file (.fetch .tasks)).1 = .ok (.tasks held.tasks) ∧
      (answer "tasks.json" { place := file.place } (.fetch .tasks)).1 = .ok (.tasks held.tasks) ∧
      held.tasks.map (·.id) = [0, 0] := by
  intro snapshot place file
  have zero : IsShort 0 := isShort_of_natAbs_lt (by decide)
  have nine : IsShort 9 := isShort_of_natAbs_lt (by decide)
  have numbers {id : Int} (short : IsShort id) (title : Text) :
      ({ id, title } : Task).HasNumbers IsShort := ⟨short, zero, zero, zero, zero, zero⟩
  have pushable {id : Int} (short : IsShort id) (title : Text) :
      ({ id, title } : Task).IsPushable :=
    Task.isPushable_of_hasNumbers Tags.isDistinct_nil (numbers short title)
  have endless : ({ title := "Wait", dueDate := 10 ^ Flaw.maxDigits } : Task).IsPushable :=
    Task.isPushable_of_long Tags.isDistinct_nil (le_natAbs_ten_pow Flaw.maxDigits)
  have storable : snapshot.IsStorable := {
    contexts := List.forall_mem_nil _
    folders := List.forall_mem_nil _
    numbers := List.forall_mem_cons.2
      ⟨numbers zero _, List.forall_mem_cons.2 ⟨numbers zero _, List.forall_mem_nil _⟩⟩
    tags := List.forall_mem_cons.2
      ⟨Tags.isDistinct_nil, List.forall_mem_cons.2 ⟨Tags.isDistinct_nil, List.forall_mem_nil _⟩⟩ }
  have loaded : readPlace "tasks.json" place = .ok snapshot := readPlace_toText storable rfl
  obtain ⟨held, fetched, -, -, ids, -⟩ := perform_keeps_step loaded
    [.fetch .tasks, .push [{ title := "Sing" }, { id := 9, title := "Swim" }] none,
      .push [{ title := "Read" }] (some .notPermitted),
      .push [{ title := "Wait", dueDate := 10 ^ Flaw.maxDigits }] none] (by
    simp only [List.forall_mem_cons, Call.pushed]
    exact ⟨List.forall_mem_nil _, ⟨pushable zero _, pushable nine _, List.forall_mem_nil _⟩,
      ⟨pushable zero _, List.forall_mem_nil _⟩, ⟨endless, List.forall_mem_nil _⟩,
      List.forall_mem_nil _⟩)
  exact ⟨held, (fetched .tasks).1, (fetched .tasks).2, ids⟩

end SnapshotFile

end TaskTitles
