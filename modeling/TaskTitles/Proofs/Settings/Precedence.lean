import TaskTitles.Proofs.Settings.Environment
import TaskTitles.Proofs.Settings.Leaves

/-!
# The order of the layers

A single setting has the value of the first layer that gives one: the flags, the environment, the
configuration file, and else its default.  This is decided setting by setting, also where other settings
of the same section come from other layers (`load_leaf_by_leaf`).
-/

namespace TaskTitles.Settings

open Text Value Validation Files

/-! ## Flags -/

/-- The value of the first flag with that name, case aside. -/
def flag? (flags : Fields) (name : Text) : Option Value :=
  (flags.find? fun flag => lower flag.1 = name).map (·.2)

theorem flag?_concat (flags : Fields) (flag : Text × Value) (name : Text) :
    flag? (flags ++ [flag]) name =
      (flag? flags name).or (if lower flag.1 = name then some flag.2 else none) := by
  rw [flag?, List.find?_append, Option.map_or, List.find?_singleton]
  by_cases same : lower flag.1 = name
  · simp [same, flag?]
  · simp [same, flag?]

theorem flag?_eq_get? {flags : Fields} (plain : ∀ flag ∈ flags, IsPlain flag.1) (name : Text) :
    flag? flags name = flags.get? name := by
  induction flags with
  | nil => rfl
  | cons flag rest ih =>
    obtain ⟨plainFlag, plainRest⟩ := List.forall_mem_cons.1 plain
    rw [get?_cons, ← ih plainRest, flag?, List.find?_cons, plainFlag.lower_eq]
    by_cases same : flag.1 = name
    · simp [same]
    · simp [same, flag?]

/-- The name under which a flag is kept. -/
def keptName (flag : Text) : Text := if lower flag ∈ names then lower flag else flag

theorem flagSettings_concat (flags : Fields) (flag : Text × Value) :
    flagSettings (flags ++ [flag]) =
      if ((flagSettings flags).get? (keptName flag.1)).isSome then flagSettings flags
      else flagSettings flags ++ [(keptName flag.1, flag.2)] := by
  rw [flagSettings, List.foldl_concat]
  rfl

theorem keptName_eq_iff {flag name : Text} (known : name ∈ names) :
    keptName flag = name ↔ lower flag = name := by
  have plain : ∀ name ∈ names, IsPlain name := by decide
  rw [keptName]
  split
  · exact Iff.rfl
  · next unknown =>
    constructor
    · rintro rfl
      rw [(plain flag known).lower_eq] at unknown
      exact absurd known unknown
    · rintro rfl
      exact absurd known unknown

theorem get?_flagSettings (flags : Fields) {name : Text} (known : name ∈ names) :
    (flagSettings flags).get? name = flag? flags name := by
  induction flags using List.reverseRecOn with
  | nil => rfl
  | append_singleton earlier last ih =>
    rw [flagSettings_concat, flag?_concat, ← ih]
    by_cases same : keptName last.1 = name
    · rw [if_pos ((keptName_eq_iff known).1 same), same]
      cases found : (flagSettings earlier).get? name with
      | some value => rw [Option.isSome_some, if_pos rfl, found, Option.some_or]
      | none =>
        rw [Option.isSome_none, if_neg Bool.false_ne_true, get?_append, found, get?_cons, if_pos rfl]
    · rw [if_neg fun lowered => same ((keptName_eq_iff known).2 lowered), Option.or_none]
      split
      · rfl
      · rw [get?_append, get?_cons, if_neg same, get?_nil, Option.or_none]

theorem nodup_flagSettings (flags : Fields) : ((flagSettings flags).map (·.1)).Nodup := by
  induction flags using List.reverseRecOn with
  | nil => exact List.nodup_nil
  | append_singleton earlier last ih =>
    rw [flagSettings_concat]
    split
    · exact ih
    · next new =>
      rw [Option.isSome_iff_ne_none, not_not, get?_eq_none_iff] at new
      rw [List.map_append]
      exact nodup_concat ih new

/-! ## The layers of a single value -/

namespace Leaf

/-- The variable that sets the leaf. -/
def variableName (leaf : Leaf) : Text :=
  match leaf.sectionName with
  | none => variableStart ++ leaf.name
  | some sectionName => fieldVariable sectionName leaf.name

/-- No variable sets the section of the leaf as a whole. -/
def IsSetAlone (leaf : Leaf) (environment : Environment) : Prop :=
  ∀ sectionName ∈ leaf.sectionName, environment.last? (variableStart ++ sectionName) = none

/-- What the first layer above the defaults has for the leaf, of those that have something. -/
def first? (leaf : Leaf) (flags : Fields) (environment : Environment) (file : Fields) :
    Option Value :=
  (leaf.find? (flag? flags)).or
    (((environment.last? leaf.variableName).map .text).or (leaf.find? file.get?))

end Leaf

/-- Either a setting of its own, or a field of a section that holds a single value. -/
def IsNamed (sectionName : Option Text) (name : Text) : Prop :=
  match sectionName with
  | none => name ∈ plainNames
  | some sectionName => ∃ entry ∈ sectionFields, entry.1 = sectionName ∧ IsSingle entry.2 name

instance (sectionName : Option Text) (name : Text) : Decidable (IsNamed sectionName name) := by
  unfold IsNamed; cases sectionName <;> infer_instance

theorem isNamed_of_mem_leaves : ∀ leaf ∈ leaves, IsNamed leaf.sectionName leaf.name := by
  have named : ∀ place ∈ singleNames, IsNamed place.1 place.2 := by decide +kernel
  exact fun leaf member => named _ (places_leaves ▸ List.mem_map_of_mem member)

/-- A table is no single value. -/
theorem not_valid_table :
    ∀ leaf ∈ leaves, ∀ fields a, leaf.check (.table fields) ≠ .valid a := by
  simp only [leaves, List.forall_mem_cons]
  and_intros
  all_goals first
    | exact List.forall_mem_nil _
    | exact fun _ a => Checked.invalid_ne_valid _ a

/-! ## A single value through the layers -/

/-- What stands for a single value once all layers lie over each other: the value of the flags, the text
    of its variable, or the value of the file, whichever comes first. -/
theorem layers_eq_or {file? given? flagged? : Option Value} {variableText? : Option Text}
    (reads : Reads variableText? given?)
    (single : ∀ fields, laidOver file? (laidOver given? flagged?) ≠ some (.table fields)) :
    laidOver file? (laidOver given? flagged?) = flagged?.or ((variableText?.map .text).or file?) := by
  obtain ⟨overFile, noTable⟩ := laidOver_eq_or single
  obtain ⟨overGiven, -⟩ := laidOver_eq_or noTable
  rw [overFile, overGiven, Option.or_assoc]
  cases variableText? with
  | some variableText =>
    cases reads
    rfl
  | none =>
    cases flagged? with
    | some value => rfl
    | none =>
      cases given? with
      | none => rfl
      | some value =>
        obtain ⟨fields, rfl⟩ := reads value rfl
        exact absurd rfl (noTable fields)

/-! ## All layers -/

/-- The fields of a configuration file; none where there is no file. -/
def fieldsOf (look : Path → Place) : Option Path → Except Fault Fields
  | some path => readToml look path
  | none => .ok []

/-- The layers that lie over each other: the file, what the environment gives, and the flags. -/
def layered (file given flags : Fields) : Fields :=
  overlay (file.filter (·.1 ≠ configPathName)) (overlay given (flagSettings flags))

/-- What the environment and flags make of the fields of a file. -/
def settle (environment : Environment) (flags : Fields) (configPath : Option Path) (file : Fields) :
    Except Fault Settings := do
  let given ← environment.toFields.mapError fun (name, flaw) => .ofSection name flaw
  match ofFields configPath (layered file given flags) with
  | .valid settings => return settings
  | .invalid faults => .error (.invalid faults)

variable {look : Path → Place} {environment : Environment} {start : Path} {named : Option Text}
  {flags file given : Fields} {configPath : Option Path} {settings : Settings}

theorem load_eq (look : Path → Place) (environment : Environment) (start : Path)
    (named : Option Text) (flags : Fields) :
    load look environment start named flags = (do
      let configPath ← (configFile? look environment named start).mapError .unreadable
      let file ← (fieldsOf look configPath).mapError Fault.shown
      settle environment flags configPath file) := by
  rw [load]
  cases (configFile? look environment named start).mapError Fault.unreadable with
  | error cause => rfl
  | ok configPath => cases configPath <;> rfl

theorem exists_of_settle_eq_ok (settled : settle environment flags configPath file = .ok settings) :
    ∃ given, environment.toFields = .ok given ∧
      ofFields configPath (layered file given flags) = .valid settings := by
  obtain ⟨given, read, settled⟩ := exists_of_bind_eq_ok settled
  refine ⟨given, mapError_eq_ok_iff.1 read, ?_⟩
  split at settled
  · next valid =>
    cases settled
    exact valid
  · cases settled

theorem exists_of_load_eq_ok (loaded : load look environment start named flags = .ok settings) :
    ∃ configPath file, configFile? look environment named start = .ok configPath ∧
      fieldsOf look configPath = .ok file ∧
      settle environment flags configPath file = .ok settings := by
  rw [load_eq] at loaded
  obtain ⟨configPath, found, loaded⟩ := exists_of_bind_eq_ok loaded
  obtain ⟨file, read, settled⟩ := exists_of_bind_eq_ok loaded
  exact ⟨configPath, file, mapError_eq_ok_iff.1 found, mapError_eq_ok_iff.1 read, settled⟩

/-! ## What stands in all layers -/

theorem get?_layered (distinct : (given.map (·.1)).Nodup) {name : Text} (known : name ∈ names)
    (apart : name ≠ configPathName) :
    (layered file given flags).get? name =
      laidOver (file.get? name) (laidOver (given.get? name) (flag? flags name)) := by
  rw [layered, get?_overlay (nodup_overlay distinct _), get?_overlay (nodup_flagSettings flags),
    get?_filter fun _ _ => decide_eq_true apart, get?_flagSettings flags known]

theorem isKeyed_flag? (keyed : ∀ flag ∈ flags, IsKeyed (some flag.2)) (name : Text) :
    IsKeyed (flag? flags name) := by
  cases first : flags.find? fun flag => lower flag.1 = name with
  | none =>
    rw [flag?, first]
    exact nofun
  | some flag =>
    rw [flag?, first]
    exact keyed flag (List.mem_of_find?_eq_some first)

theorem mem_names_of_plain {name : Text} (plain : name ∈ plainNames) :
    name ∈ names ∧ name ≠ configPathName := by
  have all : ∀ name ∈ plainNames, name ∈ names ∧ name ≠ configPathName := by decide
  exact all name plain

theorem mem_names_of_section {entry : Text × List (Text × Bool)} (member : entry ∈ sectionFields) :
    entry.1 ∈ Conventions.sectionNames ∧ entry.1 ∈ names ∧ entry.1 ≠ configPathName := by
  have all : ∀ entry ∈ sectionFields,
      entry.1 ∈ Conventions.sectionNames ∧ entry.1 ∈ names ∧ entry.1 ≠ configPathName := by decide
  exact all entry member

theorem find?_layered_plain (read : environment.toFields = .ok given) {name : Text}
    (plain : name ∈ plainNames) :
    (layered file given flags).get? name =
        laidOver (file.get? name) (laidOver (given.get? name) (flag? flags name)) ∧
      Reads (environment.last? (variableStart ++ name)) (given.get? name) := by
  obtain ⟨known, apart⟩ := mem_names_of_plain plain
  obtain ⟨distinct, texts, -⟩ := toFields_eq_ok read
  refine ⟨get?_layered distinct known apart, ?_⟩
  rw [texts name plain]
  cases environment.last? (variableStart ++ name) with
  | none => exact isTabular_none
  | some value => rfl

/-- In a section that is a table in the end, and that no variable sets as a whole, every layer has a
    table if it has anything. -/
theorem find?_layered_section (read : environment.toFields = .ok given)
    (keyed : ∀ flag ∈ flags, IsKeyed (some flag.2)) {entry : Text × List (Text × Bool)}
    (member : entry ∈ sectionFields)
    (tabular : IsTabular ((layered file given flags).get? entry.1))
    (parted : environment.last? (variableStart ++ entry.1) = none) {name : Text}
    (single : IsSingle entry.2 name) :
    ((layered file given flags).get? entry.1).bind (field? name) =
        laidOver ((file.get? entry.1).bind (field? name))
          (laidOver ((given.get? entry.1).bind (field? name))
            ((flag? flags entry.1).bind (field? name))) ∧
      Reads (environment.last? (fieldVariable entry.1 name))
        ((given.get? entry.1).bind (field? name)) := by
  obtain ⟨-, known, apart⟩ := mem_names_of_section member
  obtain ⟨distinct, -, sections⟩ := toFields_eq_ok read
  obtain ⟨-, keyedGiven, reads⟩ :=
    sectionValue?_eq_ok (isPlain_of_mem_sectionFields entry member) parted (sections entry member)
  have keyedFlag := isKeyed_flag? keyed entry.1
  rw [get?_layered distinct known apart] at tabular ⊢
  rw [below_laidOver tabular.of_laidOver (keyedGiven.laidOver keyedFlag),
    below_laidOver tabular.of_laidOver.of_laidOver keyedFlag]
  exact ⟨rfl, reads name single⟩

theorem find?_layered (read : environment.toFields = .ok given)
    (valid : ofFields configPath (layered file given flags) = .valid settings)
    (keyed : ∀ flag ∈ flags, IsKeyed (some flag.2)) {leaf : Leaf} (member : leaf ∈ leaves)
    (parted : leaf.IsSetAlone environment) :
    leaf.find? (layered file given flags).get? =
        laidOver (leaf.find? file.get?) (laidOver (leaf.find? given.get?) (leaf.find? (flag? flags))) ∧
      Reads (environment.last? leaf.variableName) (leaf.find? given.get?) := by
  have isNamed := isNamed_of_mem_leaves leaf member
  simp only [Leaf.find?, Leaf.variableName]
  rw [Leaf.IsSetAlone] at parted
  cases inSection : leaf.sectionName with
  | none =>
    rw [inSection] at isNamed
    exact find?_layered_plain read isNamed
  | some sectionName =>
    rw [inSection] at isNamed parted
    obtain ⟨entry, inSections, rfl, single⟩ := isNamed
    obtain ⟨-, -, -, -, -, conventions⟩ := of_ofFields valid
    have tabular := Conventions.isTabular_of_ofFields conventions (mem_names_of_section inSections).1
    exact find?_layered_section read keyed inSections tabular (parted entry.1 rfl) single

theorem isReadFrom_first? (settled : settle environment flags configPath file = .ok settings)
    (keyed : ∀ flag ∈ flags, IsKeyed (some flag.2)) {leaf : Leaf} (member : leaf ∈ leaves)
    (parted : leaf.IsSetAlone environment) :
    leaf.IsReadFrom (leaf.first? flags environment file) settings := by
  obtain ⟨given, read, valid⟩ := exists_of_settle_eq_ok settled
  have isRead := isReadFrom_of_ofFields valid leaf member
  obtain ⟨allLayers, reads⟩ := find?_layered read valid keyed member parted
  rw [allLayers] at isRead
  rw [Leaf.first?, ← layers_eq_or reads]
  · exact isRead
  · intro fields isTable
    rw [isTable] at isRead
    exact not_valid_table leaf member fields _ isRead

/-- A setting outside the sections is read from the first layer that has it. -/
theorem readsField_alone (settled : settle environment flags configPath file = .ok settings)
    (keyed : ∀ flag ∈ flags, IsKeyed (some flag.2)) {kind : Type} {name : Text}
    {check : Value → Checked kind} {value : Settings → kind}
    (member : Leaf.alone name check value ∈ leaves) :
    ReadsField check (value {}) ((flag? flags name).or
      (((environment.last? (variableStart ++ name)).map .text).or (file.get? name)))
      (value settings) :=
  isReadFrom_first? settled keyed member nofun

/-- Settings that can be had hold for every single value what the first layer gives that gives anything:
    the flags, its variable, the file, and else the default. -/
theorem load_leaf_by_leaf {look : Path → Place} {environment : Environment} {start : Path}
    {named : Option Text} {flags : Fields} {settings : Settings}
    (keyed : ∀ flag ∈ flags, IsKeyed (some flag.2))
    (loaded : load look environment start named flags = .ok settings) :
    ∃ configPath file, configFile? look environment named start = .ok configPath ∧
      fieldsOf look configPath = .ok file ∧
      ∀ leaf ∈ leaves, leaf.IsSetAlone environment →
        leaf.IsReadFrom (leaf.first? flags environment file) settings := by
  obtain ⟨configPath, file, found, read, settled⟩ := exists_of_load_eq_ok loaded
  exact ⟨configPath, file, found, read,
    fun leaf member parted => isReadFrom_first? settled keyed member parted⟩

/-- A file system with a single file. -/
def oneFile (name t : Text) : Path → Place := fun path =>
  if path = .ofText name then { entry := .file (encode t) } else { entry := .absent }

/-- One section from three layers, and flags from all four. -/
theorem load_leaf_by_leaf_keywords :
    let look := oneFile "/t2tctl.toml"
      "quiet = true\nlog_json = true\n[keywords]\nstar = \"first\"\nno_tag = \"bare\"\n"
    let environment : Environment :=
      [("T2TCTL_KEYWORDS__STAR", "top"), ("t2tctl_json_output", "yes"), ("T2TCTL_QUIET", "on")]
    let flags : Fields := [("quiet", .bool false), ("keywords", .table [("no_star", .text "flat")])]
    ∃ settings, load look environment (.ofText "/") none flags = .ok settings ∧
      (settings.quiet, settings.jsonOutput, settings.logJson, settings.verbose) =
        (false, true, true, false) ∧
      settings.conventions.keywords =
        { star := "top", noStar := "flat", noTag := "bare" } ∧
      ∃ configPath file, configFile? look environment none (.ofText "/") = .ok configPath ∧
        fieldsOf look configPath = .ok file ∧
        ∀ leaf ∈ leaves, leaf.IsSetAlone environment →
          leaf.IsReadFrom (leaf.first? flags environment file) settings := by
  intro look environment flags
  have read : (load look environment (.ofText "/") none flags).map (fun settings =>
      ((settings.quiet, settings.jsonOutput, settings.logJson, settings.verbose),
        settings.conventions.keywords)) =
      .ok ((false, true, true, false), { star := "top", noStar := "flat", noTag := "bare" }) := by
    decide +kernel
  obtain ⟨settings, loaded, parts⟩ := exists_of_map_eq_ok read
  obtain ⟨own, keywords⟩ := Prod.mk.inj parts
  have keyed : ∀ flag ∈ flags, IsKeyed (some flag.2) := by
    simp only [flags, List.forall_mem_cons]
    refine ⟨nofun, ?_, nofun⟩
    rintro _ ⟨⟩
    exact List.nodup_singleton _
  exact ⟨settings, loaded, own, keywords, load_leaf_by_leaf keyed loaded⟩

end TaskTitles.Settings
