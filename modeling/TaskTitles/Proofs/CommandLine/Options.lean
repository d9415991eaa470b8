import TaskTitles.CommandLine.Run
import TaskTitles.Proofs.Settings.Precedence

/-!
# Options and settings

A command line gives all four flags, those that are left off as well, so that no lower layer ever sets
one of them (`settingsOf_options`).  A day is given only if there is one, so that without the option the
day of the environment or of the file counts.
-/

namespace TaskTitles

open Validation

namespace CommandLine

open Settings Files Calendar Value

/-! ## The flags of the options -/

namespace Globals

theorem toFields_plain (globals : Globals) :
    ∀ flag ∈ globals.toFields, Text.IsPlain flag.1 ∧ IsKeyed (some flag.2) := by
  have plain : ∀ name ∈ plainNames, Text.IsPlain name := by decide
  simp only [plainNames, List.forall_mem_cons] at plain
  obtain ⟨today, json, quiet, verbose, logJson, -⟩ := plain
  cases given : globals.today with
  | none =>
    simp only [toFields, given, List.forall_mem_cons]
    exact ⟨⟨json, nofun⟩, ⟨quiet, nofun⟩, ⟨verbose, nofun⟩, ⟨logJson, nofun⟩, nofun⟩
  | some d =>
    simp only [toFields, given, List.forall_mem_cons]
    exact ⟨⟨today, nofun⟩, ⟨json, nofun⟩, ⟨quiet, nofun⟩, ⟨verbose, nofun⟩, ⟨logJson, nofun⟩, nofun⟩

theorem flag?_toFields (globals : Globals) (name : Text) :
    flag? globals.toFields name = globals.toFields.get? name :=
  flag?_eq_get? (fun flag member => (globals.toFields_plain flag member).1) name

theorem get?_toFields (globals : Globals) :
    globals.toFields.get? "today" = globals.today.map .date ∧
    globals.toFields.get? "json_output" = some (.bool globals.json) ∧
    globals.toFields.get? "quiet" = some (.bool globals.quiet) ∧
    globals.toFields.get? "verbose" = some (.bool globals.verbose) ∧
    globals.toFields.get? "log_json" = some (.bool globals.logJson) := by
  cases given : globals.today with
  | none =>
    simp only [toFields, given]
    exact ⟨rfl, rfl, rfl, rfl, rfl⟩
  | some d =>
    simp only [toFields, given]
    exact ⟨rfl, rfl, rfl, rfl, rfl⟩

end Globals

/-! ## What the options say -/

theorem exists_of_readGlobals {words rest : List Text} {globals : Globals}
    (read : readGlobals words = .ok (globals, rest)) :
    ∃ parsed, parse root.switches false words = .ok parsed ∧
      globals.json = parsed.has "--json" ∧ globals.quiet = parsed.has "--quiet" ∧
      globals.verbose = parsed.has "--verbose" ∧ globals.logJson = parsed.has "--log-json" ∧
      (parsed.value? "--today").mapM (dayValue root "--today") = .ok globals.today := by
  obtain ⟨parsed, taken, read⟩ := exists_of_bind_eq_ok read
  obtain ⟨today, day, read⟩ := exists_of_bind_eq_ok read
  cases read
  refine ⟨parsed, ?_, rfl, rfl, rfl, rfl, day⟩
  rw [CommandLine.read] at taken
  split at taken
  · cases taken
  · next found =>
    split at taken
    · cases taken
    · cases taken
      exact found

/-! ## What the settings have -/

variable {world : World} {globals : Globals} {settings : Settings}

theorem settings_flags (loaded : settingsOf world globals = .ok settings) :
    settings.jsonOutput = globals.json ∧ settings.quiet = globals.quiet ∧
    settings.verbose = globals.verbose ∧ settings.logJson = globals.logJson := by
  obtain ⟨configPath, file, -, -, settled⟩ := exists_of_load_eq_ok loaded
  have keyed : ∀ flag ∈ globals.toFields, IsKeyed (some flag.2) :=
    fun flag member => (globals.toFields_plain flag member).2
  obtain ⟨-, json, quiet, verbose, logJson⟩ := globals.get?_toFields
  have has {name : Text} {given : Bool} {value : Settings → Bool}
      (member : Leaf.alone name bool value ∈ leaves)
      (flag : globals.toFields.get? name = some (.bool given)) : value settings = given := by
    have reads := readsField_alone settled keyed member
    rw [globals.flag?_toFields, flag] at reads
    exact (Checked.valid.inj reads).symm
  exact ⟨has (by simp [leaves]) json, has (by simp [leaves]) quiet, has (by simp [leaves]) verbose,
    has (by simp [leaves]) logJson⟩

/-- The day that is pinned is that of the first layer that has one. -/
theorem settings_today (loaded : settingsOf world globals = .ok settings) :
    ∃ configPath file,
      configFile? world.look world.environment globals.config world.directory = .ok configPath ∧
      fieldsOf world.look configPath = .ok file ∧
      ReadsField (nullable date) none ((globals.today.map .date).or
        (((world.environment.last? "t2tctl_today").map .text).or (file.get? "today")))
        settings.today := by
  obtain ⟨configPath, file, found, read, settled⟩ := exists_of_load_eq_ok loaded
  have keyed : ∀ flag ∈ globals.toFields, IsKeyed (some flag.2) :=
    fun flag member => (globals.toFields_plain flag member).2
  have member : Leaf.alone "today" (nullable date) (·.today) ∈ leaves := List.mem_cons_self
  have reads := readsField_alone settled keyed member
  rw [globals.flag?_toFields, globals.get?_toFields.1] at reads
  exact ⟨configPath, file, found, read, reads⟩

theorem run_eq_present {words later : List Text} {word : Text} {name : CommandName} {request : Request}
    (read : readGlobals words = .ok (globals, word :: later))
    (loaded : settingsOf world globals = .ok settings) (named : commandOf word later = .ok name)
    (asked : readRequest world.look name later = .ok request) :
    run world words =
      present settings world.time (execute world (engineOf world settings) request) := by
  simp only [run, read, runCommand, named, loaded, asked]

/-- The settings that a command receives.  Whether one of the four flags is set is said by the command
    line alone, whatever the environment and the file have for it.  The day that is pinned is that of the
    option, and without the option that of the environment, of the file, or none. -/
theorem settingsOf_options {words rest : List Text}
    (read : readGlobals words = .ok (globals, rest))
    (loaded : settingsOf world globals = .ok settings) :
    ∃ parsed, parse root.switches false words = .ok parsed ∧
      (settings.jsonOutput = parsed.has "--json" ∧ settings.quiet = parsed.has "--quiet" ∧
        settings.verbose = parsed.has "--verbose" ∧ settings.logJson = parsed.has "--log-json") ∧
      (∀ t, parsed.value? "--today" = some t →
        ∃ d, dayValue root "--today" t = .ok d ∧ settings.today = some d) ∧
      (parsed.value? "--today" = none → ∃ configPath file,
        configFile? world.look world.environment globals.config world.directory = .ok configPath ∧
        fieldsOf world.look configPath = .ok file ∧
        ReadsField (nullable date) none
          (((world.environment.last? "t2tctl_today").map .text).or (file.get? "today"))
          settings.today) ∧
      ∀ word later name request, rest = word :: later → commandOf word later = .ok name →
        readRequest world.look name later = .ok request →
        run world words =
          present settings world.time (execute world (engineOf world settings) request) := by
  obtain ⟨parsed, taken, json, quiet, verbose, logJson, day⟩ := exists_of_readGlobals read
  obtain ⟨sameJson, sameQuiet, sameVerbose, sameLogJson⟩ := settings_flags loaded
  obtain ⟨configPath, file, found, readFile, reads⟩ := settings_today loaded
  refine ⟨parsed, taken, ⟨sameJson.trans json, sameQuiet.trans quiet, sameVerbose.trans verbose,
    sameLogJson.trans logJson⟩, fun t given => ?_, fun leftOff => ?_, ?_⟩
  · rw [given] at day
    obtain ⟨d, valued, same⟩ := exists_of_map_eq_ok day
    rw [← same] at reads
    exact ⟨d, valued, (Checked.valid.inj reads).symm⟩
  · rw [leftOff] at day
    rw [← Except.ok.inj day] at reads
    exact ⟨configPath, file, found, readFile, reads⟩
  · rintro word later name request rfl named asked
    exact run_eq_present read loaded named asked

/-- A world without files. -/
def bareWorld (environment : Environment) : World where
  look := fun _ => { entry := .absent }
  directory := .ofText "/"
  environment
  today := ⟨2026, 10, 19, by decide⟩
  time := []

/-- One flag that is given, one that a variable only has, and a day that is left to a variable. -/
theorem settingsOf_options_verbose :
    let world := bareWorld [("T2TCTL_QUIET", "true"), ("T2TCTL_TODAY", "2026-10-21")]
    let words : List Text := ["-v", "date", "fri"]
    ∃ settings parsed, settingsOf world { verbose := true } = .ok settings ∧
      parse root.switches false words = .ok parsed ∧
      (settings.verbose = parsed.has "--verbose" ∧ settings.quiet = parsed.has "--quiet") ∧
      settings.today.map Date.isoText = some "2026-10-21" ∧
      run world words =
        present settings [] (execute world (engineOf world settings) (.date "fri")) := by
  intro world words
  obtain ⟨read, named, day⟩ : readGlobals words = .ok ({ verbose := true }, ["date", "fri"]) ∧
      commandOf "date" ["fri"] = .ok .date ∧
      (settingsOf world { verbose := true }).map (fun settings =>
        settings.today.map Date.isoText) = .ok (some "2026-10-21") := by
    decide +kernel
  obtain ⟨settings, loaded, day⟩ := exists_of_map_eq_ok day
  obtain ⟨parsed, taken, ⟨-, quiet, verbose, -⟩, -, -, presents⟩ := settingsOf_options read loaded
  exact ⟨settings, parsed, loaded, taken, ⟨verbose, quiet⟩, day,
    presents "date" ["fri"] .date (.date "fri") rfl named rfl⟩

/-- A flag that is left off is off, although its variable is set. -/
theorem settingsOf_quiet_left_off :
    let world := bareWorld [("T2TCTL_QUIET", "true"), ("T2TCTL_TODAY", "2026-10-21")]
    readGlobals ["date", "fri"] = .ok ({}, ["date", "fri"]) ∧
    world.environment.last? "t2tctl_quiet" = some "true" ∧
    Validation.bool (.text "true") = .valid true ∧
    (settingsOf world {}).map (·.quiet) = .ok false ∧
    (run world ["date", "fri"]).output = "OK  resolve_date\n  text: fri\n  date: 2026-10-23\n" := by
  decide +kernel

end CommandLine

end TaskTitles
