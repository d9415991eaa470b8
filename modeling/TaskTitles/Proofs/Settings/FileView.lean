import TaskTitles.Proofs.Json.Breaks
import TaskTitles.Proofs.Settings.Precedence

/-!
# The conventions of a file alone

Conventions depend on what stands under the names of their sections only.  So without variables the
conventions of a run are those of its file alone (`loadConventions_of_load`).  A file that cannot be
read as a document is refused for both, with the same message; a command has a fault of its own for a
file that is no TOML document, which it shows to its user.
-/

namespace TaskTitles

open Validation

/-! ## Sections -/

theorem Conventions.ofFields_congr {fields others : Value.Fields}
    (same : ∀ name ∈ sectionNames, fields.get? name = others.get? name) :
    ofFields fields = ofFields others := by
  simp only [sectionNames, List.forall_mem_cons] at same
  obtain ⟨tokens, dates, contexts, keywords, markers, status, -⟩ := same
  simp only [ofFields, fieldOf, tokens, dates, contexts, keywords, markers, status]

namespace Settings

open Text Value Files

/-- What passes as conventions passes also when all that is no table is left out. -/
theorem conventionsIn_of_ofFields {fields : Fields} {conventions : Conventions}
    (valid : Conventions.ofFields fields = .valid conventions) :
    conventionsIn fields = .valid conventions := by
  rw [conventionsIn, ← valid]
  refine Conventions.ofFields_congr fun name member => get?_filter fun value found => ?_
  obtain ⟨below, rfl⟩ := Conventions.isTabular_of_ofFields valid member value found
  rfl

/-! ## No variables -/

/-- No variable has a name that starts like those of settings, case aside. -/
def Environment.IsUnset (environment : Environment) : Prop :=
  ∀ binding ∈ environment, ¬ variableStart <+: lower binding.1

instance (environment : Environment) : Decidable environment.IsUnset :=
  List.decidableBAll _ environment

variable {environment : Environment}

theorem lookup_eq_none (unset : environment.IsUnset) (rest : Text) :
    (lowerNames environment).lookup (variableStart ++ rest) = none := by
  refine List.lookup_eq_none_iff.2 fun binding member => bne_iff_ne.2 fun same => ?_
  obtain ⟨original, inEnvironment, lowered⟩ := exists_of_mem_lowerNames (List.mem_map_of_mem member)
  exact unset original inEnvironment (lowered ▸ same ▸ List.prefix_append variableStart rest)

theorem singleFields_eq_nil (unset : environment.IsUnset) (sectionName : Text)
    (fields : List (Text × Bool)) :
    singleFields (lowerNames environment) sectionName fields = .ok [] := by
  rw [singleFields_eq]
  refine foldlM_eq_ok_self fun binding member => ?_
  obtain ⟨original, inEnvironment, lowered⟩ := exists_of_mem_lowerNames (List.mem_map_of_mem member)
  rw [setVariable]
  cases led : dropLead? (variableStart ++ sectionName ++ nesting) binding.1 with
  | none => rfl
  | some rest =>
    have whole := eq_of_dropLead? led
    rw [List.append_assoc, List.append_assoc] at whole
    exact absurd (lowered ▸ whole ▸ List.prefix_append variableStart _)
      (unset original inEnvironment)

theorem toFields_eq_nil (unset : environment.IsUnset) : environment.toFields = .ok [] := by
  have plain : plainSettings (lowerNames environment) = [] := by
    rw [plainSettings_eq]
    refine List.filterMap_eq_nil_iff.2 fun name _ => ?_
    rw [lookup_eq_none unset]
    rfl
  rw [toFields_eq, plain]
  refine foldlM_eq_ok_self fun entry _ => ?_
  rw [addSection, sectionValue?, lookup_eq_none unset, singleFields_eq_nil unset]
  rfl

/-! ## Both views of a file -/

variable {look : Path → Place} {start start' : Path} {name : Text} {content : ByteArray} {t : Text}
  {flags : Fields} {settings : Settings}

theorem configFile?_named (isNamed : name ≠ [])
    (isFile : (look (.ofText name)).entry = .file content) :
    configFile? look environment (some name) start = .ok (some (.ofText name)) := by
  cases name with
  | nil => exact absurd rfl isNamed
  | cons c cs =>
    rw [configFile?, fileAt?, Place.isFile, isFile]
    rfl

theorem fieldsOf_eq {path : Path} (isFile : (look path).entry = .file content)
    (decoded : decode? content = some t) :
    fieldsOf look (some path) = (Toml.read t).mapError (.ofFile path) := by
  rw [fieldsOf, readToml, Place.read, isFile]
  simp only [decoded]

theorem loadConventions_named (path : Path) :
    loadConventions look environment (some path) start = fieldsOf look (some path) >>= fun file =>
      match conventionsIn file with
      | .valid conventions => .ok conventions
      | .invalid faults => .error (.invalid faults) := rfl

/-- Settings of a run without variables and without flags for sections have the conventions of their
    file alone. -/
theorem conventionsIn_of_settle {configPath : Option Path} {file : Fields}
    (unset : environment.IsUnset)
    (apart : ∀ name ∈ Conventions.sectionNames, flag? flags name = none)
    (settled : settle environment flags configPath file = .ok settings) :
    conventionsIn file = .valid settings.conventions := by
  obtain ⟨given, read, valid⟩ := exists_of_settle_eq_ok settled
  rw [toFields_eq_nil unset] at read
  cases read
  obtain ⟨-, -, -, -, -, conventions⟩ := of_ofFields valid
  refine conventionsIn_of_ofFields (conventions ▸ Conventions.ofFields_congr fun name member => ?_)
  have known : ∀ name ∈ Conventions.sectionNames, name ∈ names ∧ name ≠ configPathName := by decide
  have noVariables : (([] : Fields).map (·.1)).Nodup := List.nodup_nil
  rw [get?_layered noVariables (known name member).1 (known name member).2, apart name member]
  rfl

theorem message?_ofFile_eq_iff (path : Path) (flaw : Flaw) :
    (Fault.ofFile path flaw).message? =
      some ("Invalid TOML in " ++ path.toText ++ ": " ++ noToml) ↔ flaw = .malformed := by
  cases flaw with
  | malformed => exact iff_of_true rfl rfl
  | tooManyDigits digits =>
    refine iff_of_false (fun same => ?_) nofun
    have first : some 'E' = some 'I' := congrArg List.head? (Option.some.inj same)
    exact absurd first (by decide)
  | tooDeep => exact iff_of_false nofun nofun

theorem message?_shown (fault : Fault) : fault.shown.message? = fault.message? := by
  cases fault <;> rfl

theorem load_of_flaw (isNamed : name ≠ [])
    (isFile : (look (.ofText name)).entry = .file content) (decoded : decode? content = some t)
    {flaw : Flaw} (flawed : Toml.read t = .error flaw) :
    load look environment start (some name) flags =
      .error (Fault.ofFile (.ofText name) flaw).shown := by
  rw [load_eq, configFile?_named isNamed isFile]
  change (fieldsOf look (some (.ofText name))).mapError Fault.shown >>=
    settle environment flags _ = _
  rw [fieldsOf_eq isFile decoded, flawed]
  rfl

theorem loadConventions_of_flaw {path : Path} (isFile : (look path).entry = .file content)
    (decoded : decode? content = some t) {flaw : Flaw} (flawed : Toml.read t = .error flaw) :
    loadConventions look environment (some path) start = .error (.ofFile path flaw) := by
  rw [loadConventions_named, fieldsOf_eq isFile decoded, flawed]
  rfl

theorem oneFile_entry (name t : Text) :
    (oneFile name t (.ofText name)).entry = .file (encode t) := by
  rw [oneFile, if_pos rfl]

theorem decode?_encode_eq {t : Text} (free : '\r' ∉ t) : decode? (encode t) = some t := by
  rw [decode?_encode, unifyBreaks_eq free]

end Settings

/-! ## A limit of the reader -/

namespace Toml

open Text

theorem takeDigits_eq {isDigit : Char → Bool} {digits : Text} (all : ∀ c ∈ digits, isDigit c)
    (noLine : isDigit '_' = false) : takeDigits isDigit digits = (digits, []) := by
  induction digits with
  | nil => rfl
  | cons first rest ih =>
    obtain ⟨isFirst, areRest⟩ := List.forall_mem_cons.1 all
    rw [takeDigits, if_pos isFirst]
    · rw [ih areRest]
    · rintro d more rfl
      rw [areRest '_' List.mem_cons_self] at noLine
      cases noLine

/-- A numeral of sevens, with five digits at least. -/
def sevens (n : Nat) : Text := '7' :: '7' :: '7' :: '7' :: '7' :: List.replicate n '7'

theorem readDecimal?_sevens {n : Nat} (overlong : Flaw.maxDigits < n + 5) :
    readDecimal? (sevens n) = some (.error (.tooManyDigits (n + 5))) := by
  have areDigits : ∀ c ∈ sevens n, c.isDigit := by simp [sevens]
  have digits : takeDigits Char.isDigit (sevens n) = (sevens n, []) := takeDigits_eq areDigits rfl
  have whole : readWhole? (sevens n) = some (sevens n, []) := by
    rw [sevens] at digits ⊢
    rw [readWhole?, digits]
    exact fun _ same => absurd (List.head_eq_of_cons_eq same) (by decide)
  have length : (sevens n).length = n + 5 := by simp [sevens]
  have sign : readSign (sevens n) = (false, sevens n) := rfl
  rw [readDecimal?, sign]
  dsimp only
  rw [whole]
  dsimp only [Option.bind_eq_bind, Option.bind_some]
  rw [length]
  simp only [readFraction, readExponent, overlong]
  rfl

theorem readScalar_sevens {n : Nat} (overlong : Flaw.maxDigits < n + 5) :
    readScalar (sevens n) = .error (.tooManyDigits (n + 5)) := by
  rw [readScalar, readDecimal?_sevens overlong]
  rfl

theorem read_sevens {n : Nat} (overlong : Flaw.maxDigits < n + 5) :
    read ("x = [" ++ sevens n) = .error (.tooManyDigits (n + 5)) := by
  have value (fuel : Nat) : readValue (fuel + 1) 2 (sevens n) = .error (.tooManyDigits (n + 5)) := by
    rw [sevens, readValue]
    · exact readScalar_sevens overlong
    all_goals exact fun _ same => absurd (List.head_eq_of_cons_eq same) (by decide)
  have items (fuel : Nat) :
      readItems (fuel + 2) 2 (sevens n) = .error (.tooManyDigits (n + 5)) := by
    have lines : skipLines? (sevens n).length (sevens n) = some (sevens n) := rfl
    rw [readItems, lines, Flaw.require, ok_bind]
    change readValue (fuel + 1) 2 (sevens n) >>= _ = _
    rw [value]
    rfl
  have list (fuel : Nat) :
      readValue (fuel + 3) 0 ('[' :: sevens n) = .error (.tooManyDigits (n + 5)) := by
    rw [readValue]
    change readItems (fuel + 2) 2 (sevens n) >>= _ = _
    rw [items]
    rfl
  have pair (fuel : Nat) :
      readPair (fuel + 4) 0 ("x = [" ++ sevens n) = .error (.tooManyDigits (n + 5)) := by
    rw [readPair]
    change readValue (fuel + 3) 0 ('[' :: sevens n) >>= _ = _
    rw [list]
    rfl
  rw [read, readStatements]
  change (readPair ((sevens n).length + 3 + 4) 0 ("x = [" ++ sevens n) >>= _) >>= _ = _
  rw [pair]
  rfl

end Toml

end TaskTitles
