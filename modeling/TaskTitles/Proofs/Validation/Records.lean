import TaskTitles.Proofs.Task.Tags
import TaskTitles.Snapshot.Basic

/-!
# Records that are read back

A record is valid when each of its fields is (`Task.ofValue_eq_valid_iff`).  What is written of a
context, of a task whose tags are distinct, and of a snapshot of such tasks is read back as it was
(`Context.ofValue_toValue`, `Task.ofValue_toValue`, `Snapshot.ofValue_toValue`), and every task that
is read has distinct tags (`Task.IsReadFrom.isDistinct`).
-/

namespace TaskTitles

open Validation Text

namespace Validation

variable {α β : Type}

/-! ## Valid values -/

theorem Checked.and_eq_valid_iff {f : Checked (α → β)} {x : Checked α} {b : β} :
    f.and x = .valid b ↔ ∃ g a, f = .valid g ∧ x = .valid a ∧ g a = b := by
  cases f with
  | valid g => cases x <;> simp [Checked.and]
  | invalid faults => cases x <;> simp [Checked.and]

theorem Checked.map_eq_valid_iff {f : α → β} {x : Checked α} {b : β} :
    x.map f = .valid b ↔ ∃ a, x = .valid a ∧ f a = b := by
  cases x <;> simp [Checked.map]

theorem Checked.under_eq_valid_iff {step : Step} {x : Checked α} {a : α} :
    x.under step = .valid a ↔ x = .valid a := by
  cases x <;> simp [Checked.under]

/-- A field that is there is checked. -/
theorem fieldOf_eq_valid {fields : Value.Fields} {name : Text} {value : Value}
    {check : Value → Checked α} {a : α} (default? : Option α)
    (found : Value.Fields.get? fields name = some value) (valid : check value = .valid a) :
    fieldOf fields name check default? = .valid a := by
  simp only [fieldOf]
  rw [found]
  exact Checked.under_eq_valid_iff.2 valid

theorem of_fieldOf_eq_valid {fields : Value.Fields} {name : Text} {check : Value → Checked α}
    {default? : Option α} {a : α} (valid : fieldOf fields name check default? = .valid a) :
    default? = some a ∨ ∃ field ∈ fields, check field.2 = .valid a := by
  simp only [fieldOf] at valid
  split at valid
  · next value found =>
    obtain ⟨field, first, rfl⟩ := Option.map_eq_some_iff.1 found
    exact .inr ⟨field, List.mem_of_find?_eq_some first, Checked.under_eq_valid_iff.1 valid⟩
  · exact .inl (congrArg some (Checked.valid.inj valid))
  · cases valid

/-- A natural number is an integer, which is kept as it is and never cut off at zero. -/
theorem natural_eq_valid_iff {value : Value} {n : Nat} :
    natural value = .valid n ↔ integer value = .valid (n : Int) := by
  rw [natural]
  cases integer value with
  | invalid faults => simp [Checked.andThen]
  | valid m =>
    by_cases nonneg : 0 ≤ m
    · simp [Checked.andThen, nonneg]
      omega
    · simp [Checked.andThen, nonneg, Checked.fault]
      omega

theorem fieldOf_integer_of_natural {fields : Value.Fields} {name : Text} {n default : Nat}
    (valid : fieldOf fields name natural (some default) = .valid n) :
    fieldOf fields name integer (some (default : Int)) = .valid (n : Int) := by
  simp only [fieldOf] at valid ⊢
  cases found : Value.Fields.get? fields name with
  | some value =>
    rw [found] at valid
    exact Checked.under_eq_valid_iff.2
      (natural_eq_valid_iff.1 (Checked.under_eq_valid_iff.1 valid))
  | none =>
    rw [found] at valid
    cases valid
    rfl

/-! ## Lists -/

/-- Items that are read back one by one are read back in their list. -/
theorem checkFrom_map {check : Value → Checked α} {write : α → Value} {items : List α}
    (back : ∀ item ∈ items, check (write item) = .valid item) (position : Nat) :
    checkFrom check position (items.map write) = .valid items := by
  induction items generalizing position with
  | nil => rfl
  | cons item rest ih =>
    have later := ih (fun other member => back other (List.mem_cons_of_mem item member))
      (position + 1)
    rw [List.map_cons, checkFrom, back item List.mem_cons_self, later]
    rfl

theorem listOf_map {check : Value → Checked α} {write : α → Value} {items : List α}
    (back : ∀ item ∈ items, check (write item) = .valid item) :
    listOf check (.list (items.map write)) = .valid items := checkFrom_map back 0

theorem of_mem_checkFrom {check : Value → Checked α} {values : List Value} {items : List α}
    {position : Nat} (valid : checkFrom check position values = .valid items) {item : α}
    (member : item ∈ items) : ∃ value ∈ values, check value = .valid item := by
  induction values generalizing items position with
  | nil =>
    cases valid
    simp at member
  | cons value rest ih =>
    -- The first value and the others are checked apart, each at its position.
    obtain ⟨prepend, others, first, later, equal⟩ := Checked.and_eq_valid_iff.1 valid
    obtain ⟨head, checked, rfl⟩ := Checked.map_eq_valid_iff.1 first
    subst equal
    rcases List.mem_cons.1 member with rfl | inRest
    · exact ⟨value, List.mem_cons_self, Checked.under_eq_valid_iff.1 checked⟩
    · obtain ⟨inner, inValues, valid⟩ := ih later inRest
      exact ⟨inner, List.mem_cons_of_mem value inValues, valid⟩

theorem of_mem_listOf {check : Value → Checked α} {value : Value} {items : List α}
    (valid : listOf check value = .valid items) {item : α} (member : item ∈ items) :
    ∃ values, value = .list values ∧ ∃ inner ∈ values, check inner = .valid item := by
  cases value with
  | list values => exact ⟨values, rfl, of_mem_checkFrom valid member⟩
  | _ => simp [listOf, Checked.fault] at valid

/-- An item of a field that may be left out is read from an item of the list that stands there. -/
theorem of_mem_listField {check : Value → Checked α} {fields : Value.Fields} {name : Text}
    {items : List α} (valid : fieldOf fields name (listOf check) (some []) = .valid items) {item : α}
    (member : item ∈ items) :
    ∃ field ∈ fields, ∃ values, field.2 = .list values ∧
      ∃ inner ∈ values, check inner = .valid item := by
  rcases of_fieldOf_eq_valid valid with absent | ⟨field, inFields, checked⟩
  · rw [← Option.some.inj absent] at member
    exact absurd member List.not_mem_nil
  · exact ⟨field, inFields, of_mem_listOf checked member⟩

end Validation

/-! ## Contexts and folders -/

theorem Context.ofValue_eq_valid_iff {value : Value} {c : Context} :
    Context.ofValue value = .valid c ↔ ∃ fields, value = .table fields ∧
      fieldOf fields "id" integer = .valid c.id ∧ fieldOf fields "name" text = .valid c.name := by
  cases value with
  | table fields =>
    rw [Context.ofValue, recordOf]
    constructor
    · intro valid
      rw [Checked.and_eq_valid_iff] at valid
      obtain ⟨_, name, valid, nameValid, rfl⟩ := valid
      rw [Checked.and_eq_valid_iff] at valid
      obtain ⟨_, id, valid, idValid, rfl⟩ := valid
      cases valid
      exact ⟨fields, rfl, idValid, nameValid⟩
    · rintro ⟨_, ⟨⟩, idValid, nameValid⟩
      rw [idValid, nameValid]
      rfl
  | _ => simp [Context.ofValue, recordOf, Checked.fault]

theorem Context.ofValue_toValue (c : Context) : Context.ofValue c.toValue = .valid c := rfl

/-! ## Tasks -/

namespace Task

/-- Every field of the task is what the check of its field in the document gives. -/
structure IsReadFrom (fields : Value.Fields) (task : Task) : Prop where
  id : fieldOf fields "id" integer (some 0) = .valid task.id
  title : fieldOf fields "title" textOrNull (some []) = .valid task.title
  note : fieldOf fields "note" textOrNull (some []) = .valid task.note
  priority : fieldOf fields "priority" priorityOf (some .low) = .valid task.priority
  starred : fieldOf fields "starred" bool (some false) = .valid task.starred
  dueDate : fieldOf fields "due_date" integer (some 0) = .valid task.dueDate
  startDate : fieldOf fields "start_date" integer (some 0) = .valid task.startDate
  recurrence : fieldOf fields "repeat" textOrNull (some []) = .valid task.recurrence
  context : fieldOf fields "context" integer (some 0) = .valid task.context
  folder : fieldOf fields "folder" integer (some 0) = .valid task.folder
  tags : fieldOf fields "tags" tagsOf (some []) = .valid task.tags
  status : fieldOf fields "status" statusOf (some .none) = .valid task.status
  children : fieldOf fields "children" natural (some 0) = .valid task.children

theorem ofValue_eq_valid_iff {value : Value} {task : Task} :
    ofValue value = .valid task ↔ ∃ fields, value = .table fields ∧ IsReadFrom fields task := by
  cases value with
  | table fields =>
    rw [ofValue, recordOf]
    constructor
    · intro valid
      rw [Checked.and_eq_valid_iff] at valid
      obtain ⟨_, children, valid, childrenValid, rfl⟩ := valid
      rw [Checked.and_eq_valid_iff] at valid
      obtain ⟨_, status, valid, statusValid, rfl⟩ := valid
      rw [Checked.and_eq_valid_iff] at valid
      obtain ⟨_, tags, valid, tagsValid, rfl⟩ := valid
      rw [Checked.and_eq_valid_iff] at valid
      obtain ⟨_, folder, valid, folderValid, rfl⟩ := valid
      rw [Checked.and_eq_valid_iff] at valid
      obtain ⟨_, context, valid, contextValid, rfl⟩ := valid
      rw [Checked.and_eq_valid_iff] at valid
      obtain ⟨_, recurrence, valid, recurrenceValid, rfl⟩ := valid
      rw [Checked.and_eq_valid_iff] at valid
      obtain ⟨_, startDate, valid, startDateValid, rfl⟩ := valid
      rw [Checked.and_eq_valid_iff] at valid
      obtain ⟨_, dueDate, valid, dueDateValid, rfl⟩ := valid
      rw [Checked.and_eq_valid_iff] at valid
      obtain ⟨_, starred, valid, starredValid, rfl⟩ := valid
      rw [Checked.and_eq_valid_iff] at valid
      obtain ⟨_, priority, valid, priorityValid, rfl⟩ := valid
      rw [Checked.and_eq_valid_iff] at valid
      obtain ⟨_, note, valid, noteValid, rfl⟩ := valid
      rw [Checked.and_eq_valid_iff] at valid
      obtain ⟨_, title, valid, titleValid, rfl⟩ := valid
      rw [Checked.and_eq_valid_iff] at valid
      obtain ⟨_, id, valid, idValid, rfl⟩ := valid
      cases valid
      exact ⟨fields, rfl, idValid, titleValid, noteValid, priorityValid, starredValid, dueDateValid,
        startDateValid, recurrenceValid, contextValid, folderValid, tagsValid, statusValid,
        childrenValid⟩
    · rintro ⟨_, ⟨⟩, read⟩
      rw [read.id, read.title, read.note, read.priority, read.starred, read.dueDate, read.startDate,
        read.recurrence, read.context, read.folder, read.tags, read.status, read.children]
      rfl
  | _ => simp [ofValue, recordOf, Checked.fault]

theorem tagsOf_ofTexts (tags : List Text) : tagsOf (.ofTexts tags) = .valid (Tags.distinct tags) := by
  have back : listOf text (.list (tags.map .text)) = .valid tags := listOf_map fun _ _ => rfl
  have settled : tagsOf (.ofTexts tags) =
      (listOf text (.list (tags.map .text))).map Tags.distinct := rfl
  rw [settled, back, Checked.map]

theorem priorityOf_number (p : Priority) : priorityOf (.int p.number) = .valid p := by
  cases p <;> rfl

theorem statusOf_number (s : Status) : statusOf (.int s.number) = .valid s := by
  cases s <;> rfl

/-- A task with distinct tags is read back as it was. -/
theorem ofValue_toValue {task : Task} (isDistinct : Tags.IsDistinct task.tags) :
    ofValue task.toValue = .valid task := by
  have tags : tagsOf (.ofTexts task.tags) = .valid task.tags := by
    rw [tagsOf_ofTexts, isDistinct.distinct_eq]
  exact ofValue_eq_valid_iff.2 ⟨_, rfl,
    { id := fieldOf_eq_valid _ rfl rfl
      title := fieldOf_eq_valid _ rfl rfl
      note := fieldOf_eq_valid _ rfl rfl
      priority := fieldOf_eq_valid _ rfl (priorityOf_number task.priority)
      starred := fieldOf_eq_valid _ rfl rfl
      dueDate := fieldOf_eq_valid _ rfl rfl
      startDate := fieldOf_eq_valid _ rfl rfl
      recurrence := fieldOf_eq_valid _ rfl rfl
      context := fieldOf_eq_valid _ rfl rfl
      folder := fieldOf_eq_valid _ rfl rfl
      tags := fieldOf_eq_valid _ rfl tags
      status := fieldOf_eq_valid _ rfl (statusOf_number task.status)
      children := fieldOf_eq_valid _ rfl rfl }⟩

theorem isDistinct_of_tagsOf {value : Value} {tags : List Text}
    (valid : tagsOf value = .valid tags) : Tags.IsDistinct tags := by
  simp only [tagsOf] at valid
  split at valid
  · cases valid
    exact Tags.isDistinct_nil
  · cases valid
    exact Tags.isDistinct_distinct _
  · obtain ⟨raw, -, rfl⟩ := Checked.map_eq_valid_iff.1 valid
    exact Tags.isDistinct_distinct raw

theorem IsReadFrom.isDistinct {fields : Value.Fields} {task : Task}
    (read : IsReadFrom fields task) : Tags.IsDistinct task.tags := by
  rcases of_fieldOf_eq_valid read.tags with absent | ⟨field, -, checked⟩
  · rw [← Option.some.inj absent]
    exact Tags.isDistinct_nil
  · exact isDistinct_of_tagsOf checked

end Task

/-! ## Snapshots -/

namespace Snapshot

theorem ofValue_eq_valid_iff {value : Value} {snapshot : Snapshot} :
    ofValue value = .valid snapshot ↔ ∃ fields, value = .table fields ∧
      fieldOf fields "contexts" (listOf Context.ofValue) (some []) = .valid snapshot.contexts ∧
      fieldOf fields "folders" (listOf Context.ofValue) (some []) = .valid snapshot.folders ∧
      fieldOf fields "tasks" (listOf Task.ofValue) (some []) = .valid snapshot.tasks := by
  cases value with
  | table fields =>
    rw [ofValue, recordOf]
    constructor
    · intro valid
      rw [Checked.and_eq_valid_iff] at valid
      obtain ⟨_, tasks, valid, tasksValid, rfl⟩ := valid
      rw [Checked.and_eq_valid_iff] at valid
      obtain ⟨_, folders, valid, foldersValid, rfl⟩ := valid
      rw [Checked.and_eq_valid_iff] at valid
      obtain ⟨_, contexts, valid, contextsValid, rfl⟩ := valid
      cases valid
      exact ⟨fields, rfl, contextsValid, foldersValid, tasksValid⟩
    · rintro ⟨_, ⟨⟩, contextsValid, foldersValid, tasksValid⟩
      rw [contextsValid, foldersValid, tasksValid]
      rfl
  | _ => simp [ofValue, recordOf, Checked.fault]

theorem isDistinct_of_ofValue {value : Value} {snapshot : Snapshot}
    (valid : ofValue value = .valid snapshot) :
    ∀ task ∈ snapshot.tasks, Tags.IsDistinct task.tags := by
  intro task member
  obtain ⟨fields, -, -, -, tasksValid⟩ := ofValue_eq_valid_iff.1 valid
  obtain ⟨-, -, -, -, inner, -, checked⟩ := of_mem_listField tasksValid member
  obtain ⟨fields, -, read⟩ := Task.ofValue_eq_valid_iff.1 checked
  exact read.isDistinct

/-- A snapshot of tasks with distinct tags is read back as it was. -/
theorem ofValue_toValue {snapshot : Snapshot}
    (isDistinct : ∀ task ∈ snapshot.tasks, Tags.IsDistinct task.tags) :
    ofValue snapshot.toValue = .valid snapshot :=
  ofValue_eq_valid_iff.2 ⟨_, rfl,
    fieldOf_eq_valid _ rfl (listOf_map fun c _ => Context.ofValue_toValue c),
    fieldOf_eq_valid _ rfl (listOf_map fun c _ => Context.ofValue_toValue c),
    fieldOf_eq_valid _ rfl
      (listOf_map fun task member => Task.ofValue_toValue (isDistinct task member))⟩

end Snapshot

end TaskTitles
