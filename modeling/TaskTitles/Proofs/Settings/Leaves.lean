import TaskTitles.Proofs.Validation.Records
import TaskTitles.Proofs.Value.Layers
import TaskTitles.Settings.Basic

/-!
# Single settings

A setting with a single value stands by itself or in a section (`Leaf`, `leaves`).  Settings that
pass their check have for each of them what stands there, in the form that its check gives it, and the
default where nothing stands (`isReadFrom_of_ofFields`).
-/

namespace TaskTitles

open Validation

/-! ## Fields with a default -/

namespace Validation

variable {α σ : Type} {check : Value → Checked α} {default a : α}

/-- The value is the checked one, or the default where there is none. -/
def ReadsField (check : Value → Checked α) (default : α) (value? : Option Value) (a : α) : Prop :=
  match value? with
  | some value => check value = .valid a
  | none => a = default

theorem Checked.invalid_ne_valid (faults : List Fault) (a : α) :
    (.invalid faults : Checked α) ≠ .valid a := nofun

theorem fieldOf_eq_valid_iff {fields : Value.Fields} {name : Text} :
    fieldOf fields name check (some default) = .valid a ↔
      ReadsField check default (fields.get? name) a := by
  simp only [fieldOf]
  cases fields.get? name with
  | none => exact ⟨fun valid => (Checked.valid.inj valid).symm, fun same => congrArg _ same.symm⟩
  | some value => exact Checked.under_eq_valid_iff

/-- A field of a record that may be left out is left out with it. -/
theorem readsField_of_section {fields : Value.Fields} {sectionName name : Text}
    {record : Value.Fields → Checked σ} {default? s : σ} (part : σ → α)
    (valid : fieldOf fields sectionName (recordOf record) (some default?) = .valid s)
    (inner : ∀ below, record below = .valid s →
      fieldOf below name check (some (part default?)) = .valid (part s)) :
    ReadsField check (part default?) ((fields.get? sectionName).bind (Value.field? name)) (part s) := by
  rw [fieldOf_eq_valid_iff] at valid
  cases found : fields.get? sectionName with
  | none =>
    rw [found] at valid
    exact congrArg part valid
  | some value =>
    rw [found] at valid
    cases value with
    | table below => exact fieldOf_eq_valid_iff.1 (inner below valid)
    | _ => cases valid

theorem isTabular_of_section {fields : Value.Fields} {sectionName : Text}
    {record : Value.Fields → Checked σ} {default? s : σ}
    (valid : fieldOf fields sectionName (recordOf record) (some default?) = .valid s) :
    Value.IsTabular (fields.get? sectionName) := by
  rw [fieldOf_eq_valid_iff] at valid
  rintro value found
  rw [Option.mem_def.1 found] at valid
  cases value with
  | table below => exact ⟨below, rfl⟩
  | _ => cases valid

end Validation

/-! ## Sections -/

namespace Conventions

variable {fields : Value.Fields}

theorem Tokens.of_ofValue {tokens : Tokens} (valid : Tokens.ofValue (.table fields) = .valid tokens) :
    let default : Tokens := {}
    fieldOf fields "delimiter" character (some default.delimiter) = .valid tokens.delimiter := by
  simp only [Tokens.ofValue, recordOf, Checked.and_eq_valid_iff] at valid
  obtain ⟨_, _, ⟨⟩, delimiter, rfl⟩ := valid
  exact delimiter

theorem Dates.of_ofValue {dates : Dates} (valid : Dates.ofValue (.table fields) = .valid dates) :
    let default : Dates := {}
    fieldOf fields "formats" (listOf text) (some default.formats) = .valid dates.formats ∧
    fieldOf fields "default_month_offset" integer (some default.defaultMonthOffset) =
      .valid dates.defaultMonthOffset ∧
    fieldOf fields "work_month_offset" integer (some default.workMonthOffset) =
      .valid dates.workMonthOffset ∧
    fieldOf fields "notes_month_offset" integer (some default.notesMonthOffset) =
      .valid dates.notesMonthOffset ∧
    fieldOf fields "archive_threshold_days" integer (some default.archiveThresholdDays) =
      .valid dates.archiveThresholdDays := by
  simp only [Dates.ofValue, recordOf, Checked.and_eq_valid_iff] at valid
  obtain ⟨_, _, ⟨_, _, ⟨_, _, ⟨_, _, ⟨_, _, ⟨⟩, formats, rfl⟩, offset, rfl⟩, work, rfl⟩, notes, rfl⟩,
    threshold, rfl⟩ := valid
  exact ⟨formats, offset, work, notes, threshold⟩

theorem Contexts.of_ofValue {contexts : Contexts}
    (valid : Contexts.ofValue (.table fields) = .valid contexts) :
    let default : Contexts := {}
    fieldOf fields "work" text (some default.work) = .valid contexts.work ∧
    fieldOf fields "personal" text (some default.personal) = .valid contexts.personal ∧
    fieldOf fields "notes" text (some default.notes) = .valid contexts.notes ∧
    fieldOf fields "default_work_folder" text (some default.defaultWorkFolder) =
      .valid contexts.defaultWorkFolder ∧
    fieldOf fields "default_personal_folder" text (some default.defaultPersonalFolder) =
      .valid contexts.defaultPersonalFolder := by
  simp only [Contexts.ofValue, recordOf, Checked.and_eq_valid_iff] at valid
  obtain ⟨_, _, ⟨_, _, ⟨_, _, ⟨_, _, ⟨_, _, ⟨⟩, work, rfl⟩, personal, rfl⟩, notes, rfl⟩,
    workFolder, rfl⟩, personalFolder, rfl⟩ := valid
  exact ⟨work, personal, notes, workFolder, personalFolder⟩

theorem Keywords.of_ofValue {keywords : Keywords}
    (valid : Keywords.ofValue (.table fields) = .valid keywords) :
    let default : Keywords := {}
    fieldOf fields "star" text (some default.star) = .valid keywords.star ∧
    fieldOf fields "no_star" text (some default.noStar) = .valid keywords.noStar ∧
    fieldOf fields "no_context" text (some default.noContext) = .valid keywords.noContext ∧
    fieldOf fields "no_folder" text (some default.noFolder) = .valid keywords.noFolder ∧
    fieldOf fields "no_tag" text (some default.noTag) = .valid keywords.noTag ∧
    fieldOf fields "no_due_date" text (some default.noDueDate) = .valid keywords.noDueDate := by
  simp only [Keywords.ofValue, recordOf, Checked.and_eq_valid_iff] at valid
  obtain ⟨_, _, ⟨_, _, ⟨_, _, ⟨_, _, ⟨_, _, ⟨_, _, ⟨⟩, star, rfl⟩, noStar, rfl⟩, noContext, rfl⟩,
    noFolder, rfl⟩, noTag, rfl⟩, noDueDate, rfl⟩ := valid
  exact ⟨star, noStar, noContext, noFolder, noTag, noDueDate⟩

theorem Markers.of_ofValue {markers : Markers}
    (valid : Markers.ofValue (.table fields) = .valid markers) :
    let default : Markers := {}
    fieldOf fields "reminder_prefix" text (some default.reminderPrefix) =
      .valid markers.reminderPrefix ∧
    fieldOf fields "waiting_short" text (some default.waitingShort) = .valid markers.waitingShort ∧
    fieldOf fields "waiting_long" text (some default.waitingLong) = .valid markers.waitingLong ∧
    fieldOf fields "reference_prefix" text (some default.referencePrefix) =
      .valid markers.referencePrefix ∧
    fieldOf fields "project_tag" text (some default.projectTag) = .valid markers.projectTag ∧
    fieldOf fields "project_note_markers" (listOf text) (some default.projectNoteMarkers) =
      .valid markers.projectNoteMarkers ∧
    fieldOf fields "banner_sentinel" text (some default.bannerSentinel) =
      .valid markers.bannerSentinel ∧
    fieldOf fields "max_note_length" integer (some default.maxNoteLength) =
      .valid markers.maxNoteLength := by
  simp only [Markers.ofValue, recordOf, Checked.and_eq_valid_iff] at valid
  obtain ⟨_, _, ⟨_, _, ⟨_, _, ⟨_, _, ⟨_, _, ⟨_, _, ⟨_, _, ⟨_, _, ⟨⟩, reminder, rfl⟩, short, rfl⟩,
    long, rfl⟩, reference, rfl⟩, tag, rfl⟩, noteMarkers, rfl⟩, sentinel, rfl⟩, length, rfl⟩ := valid
  exact ⟨reminder, short, long, reference, tag, noteMarkers, sentinel, length⟩

theorem Statuses.of_ofValue {statuses : Statuses}
    (valid : Statuses.ofValue (.table fields) = .valid statuses) :
    let default : Statuses := {}
    fieldOf fields "default" statusOf (some default.default) = .valid statuses.default ∧
    fieldOf fields "future" statusOf (some default.future) = .valid statuses.future ∧
    fieldOf fields "pseudo_days" placeholderDaysOf (some default.placeholderDays) =
      .valid statuses.placeholderDays := by
  simp only [Statuses.ofValue, recordOf, Checked.and_eq_valid_iff] at valid
  obtain ⟨_, _, ⟨_, _, ⟨_, _, ⟨⟩, default, rfl⟩, future, rfl⟩, days, rfl⟩ := valid
  exact ⟨default, future, days⟩

theorem of_ofFields {conventions : Conventions} (valid : ofFields fields = .valid conventions) :
    fieldOf fields "tokens" Tokens.ofValue (some {}) = .valid conventions.tokens ∧
    fieldOf fields "dates" Dates.ofValue (some {}) = .valid conventions.dates ∧
    fieldOf fields "contexts" Contexts.ofValue (some {}) = .valid conventions.contexts ∧
    fieldOf fields "keywords" Keywords.ofValue (some {}) = .valid conventions.keywords ∧
    fieldOf fields "markers" Markers.ofValue (some {}) = .valid conventions.markers ∧
    fieldOf fields "status" Statuses.ofValue (some {}) = .valid conventions.status := by
  simp only [ofFields, Checked.and_eq_valid_iff] at valid
  obtain ⟨_, _, ⟨_, _, ⟨_, _, ⟨_, _, ⟨_, _, ⟨_, _, ⟨⟩, tokens, rfl⟩, dates, rfl⟩, contexts, rfl⟩,
    keywords, rfl⟩, markers, rfl⟩, status, rfl⟩ := valid
  exact ⟨tokens, dates, contexts, keywords, markers, status⟩

/-- What passes as conventions has tables for its sections. -/
theorem isTabular_of_ofFields {conventions : Conventions}
    (valid : ofFields fields = .valid conventions) {sectionName : Text}
    (member : sectionName ∈ sectionNames) : Value.IsTabular (fields.get? sectionName) := by
  obtain ⟨tokens, dates, contexts, keywords, markers, status⟩ := of_ofFields valid
  revert sectionName
  simp only [sectionNames, List.forall_mem_cons]
  exact ⟨isTabular_of_section tokens, isTabular_of_section dates, isTabular_of_section contexts,
    isTabular_of_section keywords, isTabular_of_section markers, isTabular_of_section status, nofun⟩

end Conventions

namespace Settings

theorem of_ofFields {configPath : Option Files.Path} {fields : Value.Fields} {settings : Settings}
    (valid : ofFields configPath fields = .valid settings) :
    fieldOf fields "today" (nullable date) (some none) = .valid settings.today ∧
    fieldOf fields "json_output" bool (some false) = .valid settings.jsonOutput ∧
    fieldOf fields "quiet" bool (some false) = .valid settings.quiet ∧
    fieldOf fields "verbose" bool (some false) = .valid settings.verbose ∧
    fieldOf fields "log_json" bool (some false) = .valid settings.logJson ∧
    Conventions.ofFields fields = .valid settings.conventions := by
  simp only [ofFields, Checked.and_eq_valid_iff] at valid
  obtain ⟨_, _, ⟨_, _, ⟨_, _, ⟨_, _, ⟨_, _, ⟨_, _, ⟨_, _, ⟨⟩, today, rfl⟩, json, rfl⟩, quiet, rfl⟩,
    verbose, rfl⟩, logJson, rfl⟩, conventions, rfl⟩, -, rfl⟩ := valid
  exact ⟨today, json, quiet, verbose, logJson, conventions⟩

/-! ## Single values -/

/-- A setting with a single value: the section it stands in, if any, its name there, the check of its
    value, and what the settings have for it. -/
structure Leaf where
  kind : Type
  sectionName : Option Text
  name : Text
  check : Value → Checked kind
  value : Settings → kind

namespace Leaf

def alone {kind : Type} (name : Text) (check : Value → Checked kind) (value : Settings → kind) :
    Leaf := ⟨kind, none, name, check, value⟩

def within {kind part : Type} (sectionName : Text) (section? : Conventions → part)
    (check : Value → Checked kind) (name : Text) (value : part → kind) : Leaf :=
  ⟨kind, some sectionName, name, check, fun settings => value (section? settings.conventions)⟩

/-- What stands for the leaf where `get?` tells what stands under a name. -/
def find? (leaf : Leaf) (get? : Text → Option Value) : Option Value :=
  match leaf.sectionName with
  | none => get? leaf.name
  | some sectionName => (get? sectionName).bind (Value.field? leaf.name)

/-- The settings have for the leaf what stands there, and the default where nothing does. -/
def IsReadFrom (leaf : Leaf) (value? : Option Value) (settings : Settings) : Prop :=
  ReadsField leaf.check (leaf.value {}) value? (leaf.value settings)

theorem isReadFrom_within {kind part : Type} {sectionName name : Text}
    {section? : Conventions → part} {record : Value.Fields → Checked part}
    {check : Value → Checked kind} {value : part → kind} {fields : Value.Fields} {settings : Settings}
    (valid : fieldOf fields sectionName (recordOf record) (some (section? {})) =
      .valid (section? settings.conventions))
    (inner : ∀ below, record below = .valid (section? settings.conventions) →
      fieldOf below name check (some (value (section? {}))) =
        .valid (value (section? settings.conventions))) :
    let leaf := within sectionName section? check name value
    leaf.IsReadFrom (leaf.find? fields.get?) settings :=
  readsField_of_section value valid inner

end Leaf

open Leaf Conventions in
/-- All settings with a single value. -/
def leaves : List Leaf :=
  [alone "today" (nullable date) (·.today), alone "json_output" bool (·.jsonOutput),
   alone "quiet" bool (·.quiet), alone "verbose" bool (·.verbose), alone "log_json" bool (·.logJson),
   within "tokens" (·.tokens) character "delimiter" (·.delimiter),
   within "dates" (·.dates) integer "default_month_offset" (·.defaultMonthOffset),
   within "dates" (·.dates) integer "work_month_offset" (·.workMonthOffset),
   within "dates" (·.dates) integer "notes_month_offset" (·.notesMonthOffset),
   within "dates" (·.dates) integer "archive_threshold_days" (·.archiveThresholdDays),
   within "contexts" (·.contexts) text "work" (·.work),
   within "contexts" (·.contexts) text "personal" (·.personal),
   within "contexts" (·.contexts) text "notes" (·.notes),
   within "contexts" (·.contexts) text "default_work_folder" (·.defaultWorkFolder),
   within "contexts" (·.contexts) text "default_personal_folder" (·.defaultPersonalFolder),
   within "keywords" (·.keywords) text "star" (·.star),
   within "keywords" (·.keywords) text "no_star" (·.noStar),
   within "keywords" (·.keywords) text "no_context" (·.noContext),
   within "keywords" (·.keywords) text "no_folder" (·.noFolder),
   within "keywords" (·.keywords) text "no_tag" (·.noTag),
   within "keywords" (·.keywords) text "no_due_date" (·.noDueDate),
   within "markers" (·.markers) text "reminder_prefix" (·.reminderPrefix),
   within "markers" (·.markers) text "waiting_short" (·.waitingShort),
   within "markers" (·.markers) text "waiting_long" (·.waitingLong),
   within "markers" (·.markers) text "reference_prefix" (·.referencePrefix),
   within "markers" (·.markers) text "project_tag" (·.projectTag),
   within "markers" (·.markers) text "banner_sentinel" (·.bannerSentinel),
   within "markers" (·.markers) integer "max_note_length" (·.maxNoteLength),
   within "status" (·.status) statusOf "default" (·.default),
   within "status" (·.status) statusOf "future" (·.future)]

/-- Where settings with a single value stand: by themselves, and in the sections all fields but those
    that are lists or tables. -/
def singleNames : List (Option Text × Text) :=
  plainNames.map (fun name => (none, name)) ++ sectionFields.flatMap fun (sectionName, fields) =>
    (fields.filter (!·.2)).map fun field => (some sectionName, field.1)

theorem places_leaves : leaves.map (fun leaf => (leaf.sectionName, leaf.name)) = singleNames := rfl

open Leaf Conventions in
/-- What passes as settings is read leaf by leaf. -/
theorem isReadFrom_of_ofFields {configPath : Option Files.Path} {fields : Value.Fields}
    {settings : Settings} (valid : ofFields configPath fields = .valid settings) :
    ∀ leaf ∈ leaves, leaf.IsReadFrom (leaf.find? fields.get?) settings := by
  obtain ⟨today, json, quiet, verbose, logJson, conventions⟩ := of_ofFields valid
  obtain ⟨tokens, dates, contexts, keywords, markers, status⟩ := Conventions.of_ofFields conventions
  simp only [leaves, List.forall_mem_cons]
  exact ⟨fieldOf_eq_valid_iff.1 today, fieldOf_eq_valid_iff.1 json, fieldOf_eq_valid_iff.1 quiet,
    fieldOf_eq_valid_iff.1 verbose, fieldOf_eq_valid_iff.1 logJson,
    isReadFrom_within tokens fun _ valid => Tokens.of_ofValue valid,
    isReadFrom_within dates fun _ valid => (Dates.of_ofValue valid).2.1,
    isReadFrom_within dates fun _ valid => (Dates.of_ofValue valid).2.2.1,
    isReadFrom_within dates fun _ valid => (Dates.of_ofValue valid).2.2.2.1,
    isReadFrom_within dates fun _ valid => (Dates.of_ofValue valid).2.2.2.2,
    isReadFrom_within contexts fun _ valid => (Contexts.of_ofValue valid).1,
    isReadFrom_within contexts fun _ valid => (Contexts.of_ofValue valid).2.1,
    isReadFrom_within contexts fun _ valid => (Contexts.of_ofValue valid).2.2.1,
    isReadFrom_within contexts fun _ valid => (Contexts.of_ofValue valid).2.2.2.1,
    isReadFrom_within contexts fun _ valid => (Contexts.of_ofValue valid).2.2.2.2,
    isReadFrom_within keywords fun _ valid => (Keywords.of_ofValue valid).1,
    isReadFrom_within keywords fun _ valid => (Keywords.of_ofValue valid).2.1,
    isReadFrom_within keywords fun _ valid => (Keywords.of_ofValue valid).2.2.1,
    isReadFrom_within keywords fun _ valid => (Keywords.of_ofValue valid).2.2.2.1,
    isReadFrom_within keywords fun _ valid => (Keywords.of_ofValue valid).2.2.2.2.1,
    isReadFrom_within keywords fun _ valid => (Keywords.of_ofValue valid).2.2.2.2.2,
    isReadFrom_within markers fun _ valid => (Markers.of_ofValue valid).1,
    isReadFrom_within markers fun _ valid => (Markers.of_ofValue valid).2.1,
    isReadFrom_within markers fun _ valid => (Markers.of_ofValue valid).2.2.1,
    isReadFrom_within markers fun _ valid => (Markers.of_ofValue valid).2.2.2.1,
    isReadFrom_within markers fun _ valid => (Markers.of_ofValue valid).2.2.2.2.1,
    isReadFrom_within markers fun _ valid => (Markers.of_ofValue valid).2.2.2.2.2.2.1,
    isReadFrom_within markers fun _ valid => (Markers.of_ofValue valid).2.2.2.2.2.2.2,
    isReadFrom_within status fun _ valid => (Statuses.of_ofValue valid).1,
    isReadFrom_within status fun _ valid => (Statuses.of_ofValue valid).2.1, nofun⟩

end Settings

end TaskTitles
