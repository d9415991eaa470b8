import Mathlib.Data.List.Induction
import TaskTitles.Proofs.Json.Documents
import TaskTitles.Proofs.Results
import TaskTitles.Proofs.Text.Lowered
import TaskTitles.Proofs.Text.Pieces
import TaskTitles.Proofs.Value.Layers
import TaskTitles.Settings.Environment

/-!
# What an environment sets

Of the variables with one name, case aside, the last one counts (`lookup_lowerNames`).  A setting
outside the sections has the text of its variable, and so has a single value in a section, whatever
other variables set in that section or below the value (`toFields_eq_ok`).
-/

namespace TaskTitles.Settings

open Text Value

/-! ## Variables -/

/-- The value of the last variable with that name, case aside. -/
def Environment.last? (environment : Environment) (name : Text) : Option Text :=
  (environment.reverse.find? fun binding => lower binding.1 = name).map (·.2)

theorem Environment.last?_concat (environment : Environment) (binding : Text × Text)
    (name : Text) : Environment.last? (environment ++ [binding]) name =
      if lower binding.1 = name then some binding.2 else environment.last? name := by
  rw [Environment.last?, List.reverse_append, List.reverse_singleton, List.singleton_append,
    List.find?_cons]
  by_cases same : lower binding.1 = name
  · simp [same]
  · simp [same, Environment.last?]

theorem lookup_cons (name value : Text) (rest : List (Text × Text)) (other : Text) :
    List.lookup other ((name, value) :: rest) =
      if name = other then some value else rest.lookup other := by
  rw [List.lookup_cons]
  by_cases same : name = other
  · simp [same]
  · rw [if_neg same, beq_false_of_ne (Ne.symm same)]

theorem lookup_put (name value : Text) (found : List (Text × Text)) (other : Text) :
    (lowerNames.put name value found).lookup other =
      if name = other then some value else found.lookup other := by
  induction found with
  | nil => rw [lowerNames.put, lookup_cons]
  | cons first rest ih =>
    obtain ⟨n, v⟩ := first
    rw [lowerNames.put]
    split
    · next same =>
      subst same
      rw [lookup_cons, lookup_cons]
      split <;> rfl
    · next apart =>
      rw [lookup_cons, lookup_cons, ih]
      by_cases here : n = other
      · rw [if_pos here, if_pos here, if_neg fun same => apart (here.trans same.symm)]
      · rw [if_neg here, if_neg here]

theorem keys_put {name value : Text} {found : List (Text × Text)} :
    (lowerNames.put name value found).map (·.1) =
      if name ∈ found.map (·.1) then found.map (·.1) else found.map (·.1) ++ [name] := by
  induction found with
  | nil => rfl
  | cons first rest ih =>
    obtain ⟨n, v⟩ := first
    rw [lowerNames.put]
    split
    · next same => simp [same]
    · next apart =>
      rw [List.map_cons, ih, List.map_cons]
      by_cases later : name ∈ rest.map (·.1)
      · rw [if_pos later, if_pos (List.mem_cons_of_mem n later)]
      · have absent : name ∉ n :: rest.map (·.1) := by
          rw [List.mem_cons, not_or]
          exact ⟨Ne.symm apart, later⟩
        rw [if_neg later, if_neg absent]
        rfl

theorem lowerNames_concat (environment : Environment) (binding : Text × Text) :
    lowerNames (environment ++ [binding]) =
      lowerNames.put (lower binding.1) binding.2 (lowerNames environment) := by
  rw [lowerNames, List.foldl_concat]
  rfl

theorem lookup_lowerNames (environment : Environment) (name : Text) :
    (lowerNames environment).lookup name = environment.last? name := by
  induction environment using List.reverseRecOn with
  | nil => rfl
  | append_singleton earlier last ih =>
    rw [lowerNames_concat, lookup_put, ih, Environment.last?_concat]

theorem nodup_lowerNames (environment : Environment) :
    ((lowerNames environment).map (·.1)).Nodup := by
  induction environment using List.reverseRecOn with
  | nil => exact List.nodup_nil
  | append_singleton earlier last ih =>
    rw [lowerNames_concat, keys_put]
    split
    · exact ih
    · next new => exact nodup_concat ih new

theorem exists_of_mem_lowerNames {environment : Environment} {name : Text}
    (member : name ∈ (lowerNames environment).map (·.1)) :
    ∃ binding ∈ environment, name = lower binding.1 := by
  induction environment using List.reverseRecOn with
  | nil => exact absurd member List.not_mem_nil
  | append_singleton earlier last ih =>
    rw [lowerNames_concat, keys_put] at member
    have either : name ∈ (lowerNames earlier).map (·.1) ∨ name = lower last.1 := by
      split at member
      · exact .inl member
      · simpa using member
    rcases either with before | rfl
    · obtain ⟨binding, inEarlier, same⟩ := ih before
      exact ⟨binding, List.mem_append_left _ inEarlier, same⟩
    · exact ⟨last, List.mem_append_right _ (List.mem_singleton_self last), rfl⟩

/-! ## Names of single values -/

/-- The name of the variable for a field of a section. -/
def fieldVariable (sectionName name : Text) : Text :=
  variableStart ++ sectionName ++ nesting ++ name

/-- The field of that name holds a single value, and nothing in the name leads below it. -/
def IsSingle (fields : List (Text × Bool)) (name : Text) : Prop :=
  (fields.any fun (field, isCompound) =>
    isCompound && (field == name || variableStart ++ field == name)) = false ∧
  splitOn nesting name = [name]

instance (fields : List (Text × Bool)) (name : Text) : Decidable (IsSingle fields name) := by
  unfold IsSingle; infer_instance

theorem IsSingle.fieldValue {fields : List (Text × Bool)} {name : Text}
    (single : IsSingle fields name) (value : Text) :
    fieldValue fields name value = .ok (.text value) := by
  rw [Settings.fieldValue, single.1]
  rfl

/-! ## What one variable does -/

theorem setBelow_cases (name : Text) (names : List Text) (last : Text) (value : Value)
    (fields : Fields) :
    (IsTabular (fields.get? name) ∧
      ∃ below, setBelow (name :: names) last value fields = fields.set name (.table below)) ∨
    setBelow (name :: names) last value fields = fields := by
  rw [setBelow]
  cases found : fields.get? name with
  | none => exact .inl ⟨isTabular_none, _, rfl⟩
  | some here =>
    cases here with
    | table below => exact .inl ⟨isTabular_table below, _, rfl⟩
    | _ => exact .inr rfl

/-- Sets what a variable gives for a section, if it gives anything. -/
def setVariable (sectionName : Text) (fields : List (Text × Bool)) (found : Fields)
    (binding : Text × Text) : Except Flaw Fields :=
  match dropLead? (variableStart ++ sectionName ++ nesting) binding.1 with
  | none => .ok found
  | some rest =>
    let names := splitOn nesting rest
    let last := names.getLast?.getD []
    match names with
    | [name] => (fieldValue fields name binding.2).map fun v => setBelow [] last v found
    | _ => .ok (setBelow names.dropLast last (.text binding.2) found)

theorem singleFields_eq (bindings : List (Text × Text)) (sectionName : Text)
    (fields : List (Text × Bool)) :
    singleFields bindings sectionName fields =
      bindings.foldlM (setVariable sectionName fields) [] := rfl

/-- A variable sets nothing, or a field, or something below a field, which is a table from then on. -/
theorem setVariable_cases {sectionName : Text} {fields : List (Text × Bool)} {found found' : Fields}
    {binding : Text × Text} (set : setVariable sectionName fields found binding = .ok found') :
    found' = found ∨
    (∃ name value, binding.1 = fieldVariable sectionName name ∧ found' = found.set name value) ∨
    ∃ name below, (∀ c ∈ name, c ∈ binding.1) ∧ IsTabular (found.get? name) ∧
      found' = found.set name (.table below) := by
  rw [setVariable] at set
  split at set
  · exact .inl (Except.ok.inj set).symm
  · next rest led =>
    have whole : binding.1 = fieldVariable sectionName rest := eq_of_dropLead? led
    have joined := joinWith_splitOn nesting (by decide) rest
    dsimp only at set
    split at set
    · next name pieces =>
      obtain ⟨value, -, same⟩ := exists_of_map_eq_ok set
      rw [pieces] at joined same
      obtain rfl : name = rest := joined
      exact .inr (.inl ⟨name, value, whole, same.symm⟩)
    · next several =>
      have set := Except.ok.inj set
      rcases pieces : splitOn nesting rest with _ | ⟨first, _ | ⟨second, more⟩⟩
      · exact absurd pieces (splitFrom_ne_nil nesting 0 rest)
      · exact absurd pieces (several first)
      · have inRest : first ∈ splitOn nesting rest := pieces ▸ List.mem_cons_self
        rw [pieces, List.dropLast_cons_of_ne_nil (List.cons_ne_nil second more)] at set
        rcases setBelow_cases first (second :: more).dropLast
            ((first :: second :: more).getLast?.getD []) (.text binding.2) found with
          ⟨tabular, below, made⟩ | kept
        · refine .inr (.inr ⟨first, below, fun c inFirst => ?_, tabular, set.symm.trans made⟩)
          rw [whole]
          exact List.mem_append_right _ (mem_of_mem_splitOn (by decide) inRest inFirst)
        · exact .inl (set.symm.trans kept)

theorem setVariable_own {sectionName name : Text} {fields : List (Text × Bool)}
    (single : IsSingle fields name) (found : Fields) (value : Text) :
    setVariable sectionName fields found (fieldVariable sectionName name, value) =
      .ok (found.set name (.text value)) := by
  rw [setVariable, fieldVariable, dropLead?_append]
  dsimp only
  rw [single.2]
  dsimp only
  rw [single.fieldValue]
  rfl

/-! ## What all variables do -/

/-- What stands in a section for a single value: the text of its variable if that is set, and else at
    most a table of what other variables set below it. -/
def Reads (given? : Option Text) (found? : Option Value) : Prop :=
  match given? with
  | some value => found? = some (.text value)
  | none => IsTabular found?

theorem Reads.below {given? : Option Text} {found? : Option Value} (reads : Reads given? found?)
    (tabular : IsTabular found?) (fields : Fields) : Reads given? (some (.table fields)) := by
  cases given? with
  | some value =>
    cases reads
    obtain ⟨_, isTable⟩ := tabular _ rfl
    cases isTable
  | none => exact isTabular_table fields

/-- What some variables have set in a section: every name once, no capitals in it, and for every single
    value what its variable has. -/
structure HoldsVariables (sectionName : Text) (fields : List (Text × Bool))
    (bindings : List (Text × Text)) (found : Fields) : Prop where
  distinct : (found.map (·.1)).Nodup
  small : ∀ key ∈ found.map (·.1), ∀ c ∈ key, ¬ IsCapital c
  reads : ∀ name, IsSingle fields name →
    Reads (bindings.lookup (fieldVariable sectionName name)) (found.get? name)

section Sections

variable {bindings : List (Text × Text)} {sectionName name : Text} {fields : List (Text × Bool)}
  {found found' : Fields} {binding : Text × Text}

/-- What a variable sets for a single value is what it has, or the value is that of another variable. -/
theorem reads_setVariable (single : IsSingle fields name) (new : binding.1 ∉ bindings.map (·.1))
    (reads : Reads (bindings.lookup (fieldVariable sectionName name)) (found.get? name))
    (set : setVariable sectionName fields found binding = .ok found') :
    Reads ((bindings ++ [binding]).lookup (fieldVariable sectionName name)) (found'.get? name) := by
  obtain ⟨variableName, value⟩ := binding
  rw [List.lookup_append, lookup_cons, List.lookup_nil]
  by_cases own : variableName = fieldVariable sectionName name
  · -- The variable has not come before.
    have absent : bindings.lookup (fieldVariable sectionName name) = none := by
      refine List.lookup_eq_none_iff.2 fun earlier member => ?_
      refine bne_iff_ne.2 fun same => new (List.mem_map.2 ⟨earlier, member, ?_⟩)
      exact same.symm.trans own.symm
    rw [own, setVariable_own single] at set
    cases set
    rw [absent, if_pos own, get?_set, if_pos rfl]
    rfl
  · rw [if_neg own, Option.or_none]
    rcases setVariable_cases set with rfl | ⟨other, read, whole, rfl⟩ | ⟨other, below, -, tabular, rfl⟩
    · exact reads
    · have apart : other ≠ name := fun same => own (same ▸ whole)
      rw [get?_set, if_neg apart]
      exact reads
    · rw [get?_set]
      split
      · next same => exact reads.below (same ▸ tabular) below
      · exact reads

theorem HoldsVariables.step (holds : HoldsVariables sectionName fields bindings found)
    (small : ∀ c ∈ binding.1, ¬ IsCapital c) (new : binding.1 ∉ bindings.map (·.1))
    (set : setVariable sectionName fields found binding = .ok found') :
    HoldsVariables sectionName fields (bindings ++ [binding]) found' := by
  have changes : found' = found ∨ ∃ key value, (∀ c ∈ key, ¬ IsCapital c) ∧
      found' = found.set key value := by
    rcases setVariable_cases set with same | ⟨key, value, whole, same⟩ | ⟨key, below, within, -, same⟩
    · exact .inl same
    · exact .inr ⟨key, value,
        fun c inKey => small c (whole ▸ List.mem_append_right _ inKey), same⟩
    · exact .inr ⟨key, _, fun c inKey => small c (within c inKey), same⟩
  refine ⟨?_, ?_, fun name single => reads_setVariable single new (holds.reads name single) set⟩
  · rcases changes with rfl | ⟨key, value, -, rfl⟩
    · exact holds.distinct
    · exact nodup_set holds.distinct
  · rcases changes with rfl | ⟨key, value, smallKey, rfl⟩
    · exact holds.small
    · intro other member
      rcases mem_keys_set.1 member with rfl | before
      · exact smallKey
      · exact holds.small other before

theorem holdsVariables_singleFields (distinct : (bindings.map (·.1)).Nodup)
    (small : ∀ binding ∈ bindings, ∀ c ∈ binding.1, ¬ IsCapital c)
    (set : singleFields bindings sectionName fields = .ok found) :
    HoldsVariables sectionName fields bindings found := by
  rw [singleFields_eq] at set
  induction bindings using List.reverseRecOn generalizing found with
  | nil =>
    cases set
    exact ⟨List.nodup_nil, nofun, fun _ _ => isTabular_none⟩
  | append_singleton earlier last ih =>
    rw [List.foldlM_append] at set
    obtain ⟨before, setBefore, setLast⟩ := exists_of_bind_eq_ok set
    obtain ⟨after, setLast, done⟩ := exists_of_bind_eq_ok setLast
    cases done
    rw [List.map_append, List.nodup_append] at distinct
    obtain ⟨distinctEarlier, -, apart⟩ := distinct
    obtain ⟨smallEarlier, smallLast⟩ := List.forall_mem_append.1 small
    exact (ih distinctEarlier smallEarlier setBefore).step
      (smallLast last (List.mem_singleton_self last))
      (fun repeated => apart _ repeated _ (List.mem_singleton_self last.1) rfl) setLast

/-- Names without capitals are the names of the section where they differ from them in case only. -/
theorem knownNames_eq_self (plain : ∀ field ∈ fields, IsPlain field.1)
    (distinct : (found.map (·.1)).Nodup)
    (small : ∀ key ∈ found.map (·.1), ∀ c ∈ key, ¬ IsCapital c) :
    knownNames fields found = found := by
  have known (key : Text) (smallKey : ∀ c ∈ key, ¬ IsCapital c) :
      ((fields.find? fun field => lower field.1 == lower key).map (·.1)).getD key = key := by
    cases same : fields.find? fun field => lower field.1 == lower key with
    | none => rfl
    | some field =>
      have plainField := plain field (List.mem_of_find?_eq_some same)
      have lowered : lower field.1 = lower key := by simpa using List.find?_some same
      rw [plainField.lower_eq] at lowered
      exact (eq_of_lower_eq smallKey (fun c inField => (plainField c inField).1) lowered.symm).symm
  refine (List.foldl_ext _ _ [] fun before field member => ?_).trans
    (Json.foldl_set [] found distinct)
  exact congrArg (Fields.set · field.2 before)
    (known field.1 (small field.1 (List.mem_map_of_mem member)))

end Sections

/-! ## Sections -/

theorem isPlain_of_mem_sectionFields :
    ∀ entry ∈ sectionFields, ∀ field ∈ entry.2, IsPlain field.1 := by decide +kernel

/-- A section that is not set as a whole is a table, and holds for every single value what its
    variable has. -/
theorem sectionValue?_eq_ok {environment : Environment} {sectionName : Text}
    {fields : List (Text × Bool)} {value? : Option Value}
    (plain : ∀ field ∈ fields, IsPlain field.1)
    (parted : environment.last? (variableStart ++ sectionName) = none)
    (set : sectionValue? (lowerNames environment) sectionName fields = .ok value?) :
    IsTabular value? ∧ IsKeyed value? ∧ ∀ name, IsSingle fields name →
      Reads (environment.last? (fieldVariable sectionName name)) (value?.bind (field? name)) := by
  rw [sectionValue?, lookup_lowerNames, parted] at set
  obtain ⟨found, setSingle, set⟩ := exists_of_bind_eq_ok set
  have small : ∀ binding ∈ lowerNames environment, ∀ c ∈ binding.1, ¬ IsCapital c := by
    intro binding member c inName
    obtain ⟨original, -, same⟩ := exists_of_mem_lowerNames (List.mem_map_of_mem member)
    exact not_isCapital_of_mem_lower c (same ▸ inName)
  have holds := holdsVariables_singleFields (nodup_lowerNames environment) small setSingle
  rw [knownNames_eq_self plain holds.distinct holds.small] at set
  have reads := holds.reads
  simp only [lookup_lowerNames] at reads
  cases Except.ok.inj set
  split
  · next empty =>
    rw [List.isEmpty_iff.1 empty] at reads
    exact ⟨isTabular_none, nofun, reads⟩
  · refine ⟨isTabular_table found, ?_, reads⟩
    rintro _ ⟨⟩
    exact holds.distinct

/-! ## All settings -/

/-- Adds a section to the settings found before. -/
def addSection (bindings : List (Text × Text)) (found : Fields)
    (entry : Text × List (Text × Bool)) : Except (Text × Flaw) Fields :=
  match sectionValue? bindings entry.1 entry.2 with
  | .error flaw => .error (entry.1, flaw)
  | .ok none => .ok found
  | .ok (some value) => .ok (found ++ [(entry.1, value)])

theorem toFields_eq (environment : Environment) :
    environment.toFields =
      sectionFields.foldlM (addSection (lowerNames environment))
        (plainSettings (lowerNames environment)) := rfl

theorem addSection_eq_ok {bindings : List (Text × Text)} {found found' : Fields}
    {entry : Text × List (Text × Bool)} (added : addSection bindings found entry = .ok found') :
    ∃ value?, sectionValue? bindings entry.1 entry.2 = .ok value? ∧
      found' = found ++ (value?.map fun value => (entry.1, value)).toList := by
  rw [addSection] at added
  split at added
  · cases added
  · next read =>
    cases added
    exact ⟨none, read, (List.append_nil _).symm⟩
  · next value read =>
    cases added
    exact ⟨some value, read, rfl⟩

theorem get?_added (found : Fields) (key : Text) (value? : Option Value) (name : Text) :
    Fields.get? (found ++ (value?.map fun value => (key, value)).toList) name =
      (found.get? name).or (if key = name then value? else none) := by
  rw [get?_append]
  cases value? with
  | none => rw [ite_self]; rfl
  | some value => exact congrArg _ (get?_cons key value [] name)

/-- Sections of different names, none of which has been found before, are added one by one. -/
theorem foldlM_addSection {bindings : List (Text × Text)} {found found' : Fields}
    {sections : List (Text × List (Text × Bool))}
    (distinct : (found.map (·.1) ++ sections.map (·.1)).Nodup)
    (added : sections.foldlM (addSection bindings) found = .ok found') :
    (found'.map (·.1)).Nodup ∧
      (∀ name, name ∉ sections.map (·.1) → found'.get? name = found.get? name) ∧
      ∀ entry ∈ sections, sectionValue? bindings entry.1 entry.2 = .ok (found'.get? entry.1) := by
  induction sections generalizing found with
  | nil =>
    cases added
    rw [List.map_nil, List.append_nil] at distinct
    exact ⟨distinct, fun _ _ => rfl, List.forall_mem_nil _⟩
  | cons entry rest ih =>
    rw [List.foldlM_cons] at added
    obtain ⟨next, addedFirst, addedRest⟩ := exists_of_bind_eq_ok added
    obtain ⟨value?, read, rfl⟩ := addSection_eq_ok addedFirst
    have fewer : ((found ++ (value?.map fun value => (entry.1, value)).toList).map (·.1) ++
        rest.map (·.1)).Sublist (found.map (·.1) ++ (entry :: rest).map (·.1)) := by
      cases value? <;> simp
    obtain ⟨distinctAll, keeps, later⟩ := ih (distinct.sublist fewer) addedRest
    rw [List.map_cons, List.nodup_append, List.nodup_cons] at distinct
    obtain ⟨-, ⟨unrepeated, -⟩, apart⟩ := distinct
    refine ⟨distinctAll, fun name absent => ?_, List.forall_mem_cons.2 ⟨?_, later⟩⟩
    · rw [List.map_cons, List.mem_cons, not_or] at absent
      rw [keeps name absent.2, get?_added, if_neg (Ne.symm absent.1), Option.or_none]
    · have new : found.get? entry.1 = none :=
        get?_eq_none_iff.2 fun before => apart _ before _ List.mem_cons_self rfl
      rw [keeps entry.1 unrepeated, get?_added, new, Option.none_or, if_pos rfl, read]

theorem get?_filterMap (value? : Text → Option Value) (names : List Text) (name : Text) :
    Fields.get? (names.filterMap fun name => (value? name).map fun value => (name, value)) name =
      if name ∈ names then value? name else none := by
  induction names with
  | nil => rfl
  | cons first rest ih =>
    rw [List.filterMap_cons]
    by_cases same : first = name
    · subst same
      rw [if_pos List.mem_cons_self]
      cases found : value? first with
      | none =>
        rw [Option.map_none]
        dsimp only
        rw [ih, found, ite_self]
      | some value => rw [Option.map_some, get?_cons, if_pos rfl]
    · have either : name ∈ first :: rest ↔ name ∈ rest := by simp [Ne.symm same]
      simp only [either]
      cases value? first with
      | none => exact ih
      | some value => rw [Option.map_some, get?_cons, if_neg same, ih]

theorem keys_filterMap (value? : Text → Option Value) (names : List Text) :
    ((names.filterMap fun name => (value? name).map fun value => (name, value)).map
      (·.1)).Sublist names := by
  induction names with
  | nil => exact List.Sublist.refl []
  | cons first rest ih =>
    rw [List.filterMap_cons]
    cases value? first with
    | none => exact ih.cons first
    | some value => exact ih.cons_cons first

theorem plainSettings_eq (bindings : List (Text × Text)) :
    plainSettings bindings = plainNames.filterMap fun name =>
      ((bindings.lookup (variableStart ++ name)).map Value.text).map fun value => (name, value) := by
  simp only [plainSettings, Option.map_map]
  rfl

/-- What an environment sets: each name once, the texts of the plain variables, and the sections. -/
theorem toFields_eq_ok {environment : Environment} {fields : Fields}
    (set : environment.toFields = .ok fields) :
    (fields.map (·.1)).Nodup ∧
      (∀ name ∈ plainNames,
        fields.get? name = (environment.last? (variableStart ++ name)).map .text) ∧
      ∀ entry ∈ sectionFields,
        sectionValue? (lowerNames environment) entry.1 entry.2 = .ok (fields.get? entry.1) := by
  have allDistinct : (plainNames ++ sectionFields.map (·.1)).Nodup := by decide
  rw [toFields_eq, plainSettings_eq] at set
  have distinct := allDistinct.sublist ((keys_filterMap (fun name =>
    ((lowerNames environment).lookup (variableStart ++ name)).map Value.text) plainNames).append
      (List.Sublist.refl (sectionFields.map (·.1))))
  obtain ⟨distinctAll, keeps, sections⟩ := foldlM_addSection distinct set
  refine ⟨distinctAll, fun name plain => ?_, sections⟩
  have apart : ∀ name ∈ plainNames, name ∉ sectionFields.map (·.1) := by decide
  rw [keeps name (apart name plain), get?_filterMap, if_pos plain, lookup_lowerNames]

end TaskTitles.Settings
