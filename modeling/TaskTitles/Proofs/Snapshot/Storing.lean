import TaskTitles.Proofs.Json.Breaks
import TaskTitles.Proofs.Json.Reading
import TaskTitles.Proofs.Snapshot.Replacing
import TaskTitles.Proofs.Validation.Numbers
import TaskTitles.Source.SnapshotFile

/-!
# Storing snapshots

A snapshot with short numbers and distinct tags can be written (`IsStorable.toText?_eq`) and is read
back from its text as it was (`IsStorable.ofText_toText`), and every snapshot that is read is such a
snapshot (`isStorable_of_ofText`), so that reading settles it in one step (`reading_settles`).  Hence a
snapshot file that has been written holds what was written (`SnapshotFile.readPlace_toText`).  A push
writes the snapshot with its tasks replaced (`SnapshotFile.push_eq`), or it leaves the file as it was,
because that cannot be written down (`SnapshotFile.push_unwritable`) or because the file cannot be
written (`SnapshotFile.push_refused`).
-/

namespace TaskTitles

open Json Validation Files

namespace Snapshot

/-- A file gives the snapshot back as it is. -/
structure IsStorable (snapshot : Snapshot) : Prop where
  contexts : ∀ c ∈ snapshot.contexts, IsShort c.id
  folders : ∀ c ∈ snapshot.folders, IsShort c.id
  numbers : ∀ task ∈ snapshot.tasks, task.HasNumbers IsShort
  tags : ∀ task ∈ snapshot.tasks, Tags.IsDistinct task.tags

/-! ## Writing -/

theorem isWritable_context {c : Context} (short : IsShort c.id) : IsWritable 2 c.toValue := by
  refine .table rfl ?_ ?_
  · exact (show (["id", "name"] : List Text).Nodup by decide)
  · simp only [List.forall_mem_cons]
    exact ⟨.int short, .text _, List.forall_mem_nil _⟩

theorem isShort_number_priority (p : Priority) : IsShort p.number := by
  cases p <;> exact isShort_of_natAbs_lt (by decide)

theorem isShort_number_status (s : Status) : IsShort s.number := by
  cases s <;> exact isShort_of_natAbs_lt (by decide)

theorem isWritable_task {depth : Nat} (shallow : checkDepth .file depth = .ok ())
    (shallowTags : checkDepth .file (depth + 1) = .ok ()) {task : Task}
    (short : task.HasNumbers IsShort) : IsWritable depth task.toValue := by
  refine .table shallow ?_ ?_
  · simp only [Task.fieldsWith, List.map_cons, List.map_nil]
    decide
  · -- The fields in the order in which they are written.
    simp only [Task.fieldsWith, List.forall_mem_cons]
    exact ⟨.int short.id, .text _, .text _, .int (isShort_number_priority _), .bool _,
      .int short.dueDate, .int short.startDate, .text _, .int short.context, .int short.folder,
      .list shallowTags (List.forall_mem_map.2 fun _ _ => .text _), .int (isShort_number_status _),
      .int short.children, List.forall_mem_nil _⟩

theorem IsStorable.isWritable {snapshot : Snapshot} (storable : snapshot.IsStorable) :
    IsWritable 0 snapshot.toValue := by
  have contexts : ∀ c ∈ snapshot.contexts, IsWritable 2 c.toValue :=
    fun c member => isWritable_context (storable.contexts c member)
  have folders : ∀ c ∈ snapshot.folders, IsWritable 2 c.toValue :=
    fun c member => isWritable_context (storable.folders c member)
  have tasks : ∀ task ∈ snapshot.tasks, IsWritable 2 task.toValue :=
    fun task member => isWritable_task rfl rfl (storable.numbers task member)
  refine .table rfl ?_ ?_
  · exact (show (["contexts", "folders", "tasks"] : List Text).Nodup by decide)
  · simp only [List.forall_mem_cons]
    exact ⟨.list rfl (List.forall_mem_map.2 contexts), .list rfl (List.forall_mem_map.2 folders),
      .list rfl (List.forall_mem_map.2 tasks), List.forall_mem_nil _⟩

theorem IsStorable.toText?_eq {snapshot : Snapshot} (storable : snapshot.IsStorable) :
    snapshot.toText? = some snapshot.toText := by
  rw [toText?, storable.isWritable.write?_eq]
  rfl

/-- A snapshot that can be written consists of tasks that can be written. -/
theorem of_toText?_eq_some {snapshot : Snapshot} {t : Text} (written : snapshot.toText? = some t) :
    t = snapshot.toText ∧ ∀ task ∈ snapshot.tasks,
      write? .indentedAscii task.toValue = some (write .indentedAscii task.toValue) := by
  obtain ⟨document, whole, rfl⟩ := Option.map_eq_some_iff.1 written
  obtain ⟨numbers, rfl⟩ := write?_eq_some_iff.1 whole
  refine ⟨rfl, fun task member => write?_eq_some_iff.2 ⟨fun n inTask => numbers n ?_, rfl⟩⟩
  exact Value.mem_fieldIntegers.2 ⟨("tasks", .list (snapshot.tasks.map Task.toValue)), by simp,
    Value.mem_itemIntegers.2 ⟨task.toValue, List.mem_map_of_mem member, inTask⟩⟩

theorem IsStorable.ofText_toText {snapshot : Snapshot} (storable : snapshot.IsStorable) :
    ofText snapshot.toText = .ok snapshot := by
  have read : Json.read .file snapshot.toText = .ok snapshot.toValue :=
    read_write storable.isWritable (List.forall_mem_singleton.2 rfl) (stops_cons (by decide) [])
  rw [ofText, read]
  dsimp only
  rw [ofValue_toValue storable.tags]

/-! ## Reading -/

/-- Every snapshot that is read is storable. -/
theorem isStorable_of_ofText {t : Text} {snapshot : Snapshot} (found : ofText t = .ok snapshot) :
    snapshot.IsStorable := by
  simp only [ofText] at found
  split at found
  · cases found
  next value read =>
  split at found
  · next valid =>
    cases found
    obtain ⟨fields, rfl, contextsValid, foldersValid, tasksValid⟩ := ofValue_eq_valid_iff.1 valid
    -- Numbers are short because the whole document is, and tags are settled by their check.
    have shortDocument := isShort_of_read read
    exact {
      contexts := fun c member => by
        obtain ⟨inner, short, checked⟩ := exists_of_mem_listField shortDocument contextsValid member
        exact Context.isShort_of_ofValue short checked
      folders := fun c member => by
        obtain ⟨inner, short, checked⟩ := exists_of_mem_listField shortDocument foldersValid member
        exact Context.isShort_of_ofValue short checked
      numbers := fun task member => by
        obtain ⟨inner, short, checked⟩ := exists_of_mem_listField shortDocument tasksValid member
        exact Task.hasNumbers_of_ofValue short checked
      tags := isDistinct_of_ofValue valid }
  · cases found

/-- Reading settles a record in one step: the tags of every task are distinct, its number of children
    is the one given and not negative, and what is written of the task is read as the same task.  The
    same goes for snapshots, as records and as texts of files. -/
theorem reading_settles :
    (∀ (record : Value.Fields) (task : Task), Task.ofValue (.table record) = .valid task →
      Tags.IsDistinct task.tags ∧
      (∃ n : Int, 0 ≤ n ∧ fieldOf record "children" integer (some 0) = .valid n ∧
        task.children = n) ∧
      Task.ofValue task.toValue = .valid task) ∧
    (∀ (record : Value.Fields) (snapshot : Snapshot), ofValue (.table record) = .valid snapshot →
      (∀ task ∈ snapshot.tasks, Tags.IsDistinct task.tags) ∧
      ofValue snapshot.toValue = .valid snapshot) ∧
    ∀ (t : Text) (snapshot : Snapshot), ofText t = .ok snapshot →
      ofText snapshot.toText = .ok snapshot := by
  refine ⟨fun record task valid => ?_, fun record snapshot valid => ?_, fun t snapshot found => ?_⟩
  · obtain ⟨fields, same, read⟩ := Task.ofValue_eq_valid_iff.1 valid
    cases same
    have children := fieldOf_integer_of_natural read.children
    exact ⟨read.isDistinct, ⟨task.children, Int.natCast_nonneg _, children, rfl⟩,
      Task.ofValue_toValue read.isDistinct⟩
  · have isDistinct := isDistinct_of_ofValue valid
    exact ⟨isDistinct, ofValue_toValue isDistinct⟩
  · exact (isStorable_of_ofText found).ofText_toText

/-- A record with a null text, numbers in other forms, a priority and a status that nothing has, and
    repeated tags is settled at once, and so is a snapshot that holds such tags. -/
theorem reading_settles_forms :
    let record : Value.Fields :=
      [("id", .text " +07 "), ("title", .null), ("priority", .int 99), ("starred", .text "Yes"),
       ("due_date", .ofScientific false 120 (-1)), ("start_date", .bool true),
       ("tags", .text "phone, Home,HOME ,"), ("status", .int (-4)), ("children", .text "2")]
    let task : Task :=
      { id := 7, priority := .negative, starred := true, dueDate := 12, startDate := 1,
        tags := ["phone", "Home"], children := 2 }
    let file : Text := "\x7b\"tasks\": [\x7b\"tags\": [\" a\", \"A\"]\x7d]\x7d"
    Task.ofValue (.table record) = .valid task ∧ Task.ofValue task.toValue = .valid task ∧
      ofValue (.table [("folders", .list []), ("tasks", .list [.table record])]) =
        .valid { tasks := [task] } ∧
      ofValue ({ tasks := [task] } : Snapshot).toValue = .valid { tasks := [task] } ∧
      ofText file = .ok { tasks := [{ tags := ["a"] }] } ∧
      ofText ({ tasks := [{ tags := ["a"] }] } : Snapshot).toText =
        .ok { tasks := [{ tags := ["a"] }] } := by
  intro record task file
  obtain ⟨ofTask, ofSnapshot, ofFile⟩ := reading_settles
  have valid : Task.ofValue (.table record) = .valid task := by decide +kernel
  have validIn : ofValue (.table [("folders", .list []), ("tasks", .list [.table record])]) =
      .valid { tasks := [task] } := by decide +kernel
  have found : ofText file = .ok { tasks := [{ tags := ["a"] }] } := by decide +kernel
  obtain ⟨-, -, same⟩ := ofTask record task valid
  exact ⟨valid, same, validIn, (ofSnapshot _ _ validIn).2, found, ofFile file _ found⟩

/-! ## Replacing tasks -/

/-- Tasks that can be stored can be put in the place of others; nothing is asked of those that take
    the place of none. -/
theorem IsStorable.replaceTasks {snapshot : Snapshot} (storable : snapshot.IsStorable)
    {changed : List Task}
    (numbers : ∀ task ∈ changed, task ∈ (snapshot.replaceTasks changed).tasks →
      task.HasNumbers IsShort)
    (tags : ∀ task ∈ changed, Tags.IsDistinct task.tags) :
    (snapshot.replaceTasks changed).IsStorable where
  contexts := storable.contexts
  folders := storable.folders
  numbers task member :=
    (mem_replaceTasks member).elim (storable.numbers task) fun pushed => numbers task pushed member
  tags task member := (mem_replaceTasks member).elim (storable.tags task) (tags task)

end Snapshot

/-! ## Files -/

namespace SnapshotFile

theorem readPlace_toText {path : Text} {place : Place} {snapshot : Snapshot}
    (storable : snapshot.IsStorable) (holds : place.entry = .file (encode snapshot.toText)) :
    readPlace path place = .ok snapshot := by
  -- The file is read with its line breaks unified, which changes nothing here.
  have free : '\r' ∉ snapshot.toText := by
    rw [Snapshot.toText, List.mem_append, not_or]
    exact ⟨carriage_not_mem_writeAt storable.isWritable 0, by decide⟩
  have read : place.read = .ok (encode snapshot.toText) := by rw [Place.read, holds]
  rw [readPlace, read]
  dsimp only
  rw [decode?_encode, unifyBreaks_eq free]
  dsimp only
  rw [storable.ofText_toText]
  rfl

theorem isStorable_of_readPlace {path : Text} {place : Place} {snapshot : Snapshot}
    (found : readPlace path place = .ok snapshot) : snapshot.IsStorable := by
  simp only [readPlace] at found
  split at found
  · cases found
  split at found
  · cases found
  next t decoded =>
  cases read : Snapshot.ofText t with
  | error faults =>
    rw [read] at found
    cases found
  | ok held =>
    rw [read] at found
    cases found
    exact Snapshot.isStorable_of_ofText read

theorem exists_entry_of_readPlace {path : Text} {place : Place} {snapshot : Snapshot}
    (loaded : readPlace path place = .ok snapshot) :
    ∃ content, place.entry = .file content := by
  simp only [readPlace] at loaded
  split at loaded
  · cases loaded
  next content read =>
  simp only [Place.read] at read
  -- Every other entry refuses to be read.
  split at read
  iterate 6
    cases read
  exact ⟨_, ‹_›⟩

/-! ## Fetching -/

theorem fetch_cases (path : Text) (file : SnapshotFile) :
    (∃ trouble, fetch path file = (.error trouble, file)) ∨
      ∃ snapshot, fetch path file = (.ok snapshot, ⟨file.place, some snapshot⟩) := by
  obtain ⟨place, kept⟩ := file
  cases kept with
  | some snapshot => exact .inr ⟨snapshot, rfl⟩
  | none =>
    rw [fetch]
    dsimp only
    cases readPlace path place with
    | error trouble => exact .inl ⟨trouble, rfl⟩
    | ok snapshot => exact .inr ⟨snapshot, rfl⟩

theorem fetch_of_readPlace {path : Text} {place : Place} {snapshot : Snapshot}
    (loaded : readPlace path place = .ok snapshot) :
    fetch path { place } = (.ok snapshot, ⟨place, some snapshot⟩) := by
  rw [fetch]
  dsimp only
  rw [loaded]

theorem fetch_of_readPlace_error {path : Text} {place : Place} {trouble : Trouble}
    (failed : readPlace path place = .error trouble) :
    fetch path { place } = (.error trouble, { place }) := by
  rw [fetch]
  dsimp only
  rw [failed]

/-! ## Pushing -/

section Pushing

variable (path : Text) (snapshot : Snapshot) (changed : List Task) {place : Place}
  {content : ByteArray} {t : Text}

/-- A push that cannot be written down breaks off before it has touched the file. -/
theorem push_unwritable (unwritable : (snapshot.replaceTasks changed).toText? = none) :
    push path changed ⟨place, some snapshot⟩ =
      (.error .tooManyDigits, ⟨place, some snapshot⟩) := by
  rw [push, fetch]
  dsimp only
  rw [store, unwritable]

variable (isFile : place.entry = .file content)
  (written : (snapshot.replaceTasks changed).toText? = some t)

include isFile written

/-- A push writes the snapshot with the changed tasks replaced, and takes all of them. -/
theorem push_eq (writable : place.obstacle = none) :
    push path changed ⟨place, some snapshot⟩ =
      (.ok (snapshot.replacedCount changed),
        ⟨{ place with entry := .file (encode t) }, some (snapshot.replaceTasks changed)⟩) := by
  have stored : place.write (encode t) = .ok { place with entry := .file (encode t) } := by
    rw [Place.write, isFile, writable]
  rw [push, fetch]
  dsimp only
  rw [store, written]
  dsimp only
  rw [stored]

/-- A push that meets an obstacle reports it, and changes nothing. -/
theorem push_refused {cause : FileError} (refused : place.obstacle = some cause) :
    push path changed ⟨place, some snapshot⟩ =
      (.error (.reported (writeFailure path cause)), ⟨place, some snapshot⟩) := by
  have failed : place.write (encode t) = .error cause := by
    rw [Place.write, isFile, refused]
  rw [push, fetch]
  dsimp only
  rw [store, written]
  dsimp only
  rw [failed]

end Pushing

end SnapshotFile

end TaskTitles
