import TaskTitles.Proofs.Normalize.Tidy

/-!
# What agrees after a pass

The rules that couple context and folder, and those that tie the status to the title, can each undo
what an earlier one has done.  Still a pass ends with a task whose context and folder agree
(`normalize_couples`) and whose status is the one that its title asks for (`normalize_ties`).
-/

namespace TaskTitles.Engine

open Calendar Text

/-! ## Context and folder -/

/-- A special context: the letter that its folders start with, its name, and the name of the folder
    for tasks that have none. -/
structure Special where
  initial : Char
  name : Text
  defaultFolder : Text

def specials : List Special := [⟨'W', "Work", "w Work"⟩, ⟨'P', "Personal", "p Personal"⟩]

theorem sameInitial_special {special : Special} (isSpecial : special ∈ specials) {letter : Char}
    (initial : upperChar letter = [special.initial]) (rest : Text) :
    sameInitial (letter :: rest) special.name = true := by
  have upper : ∀ special ∈ specials, special.name.head?.map upperChar = some [special.initial] := by
    decide
  have known := upper special isSpecial
  cases named : special.name with
  | nil => simp [named] at known
  | cons first others =>
    rw [named] at known
    simpa [sameInitial, initial] using (Option.some.inj known).symm

/-- Context and folder of a task agree about a special context: a folder with its letter comes with
    the context, and the context comes with a folder, where the catalogs have them. -/
structure Agrees (contexts folders : Catalog) (special : Special) (task : Task) : Prop where
  follows : ∀ folder letter rest, folders.findById? task.folder = some folder →
    folder.name = letter :: rest → upperChar letter = [special.initial] →
    (∃ context ∈ contexts.entries, context.name = special.name) →
    ∃ context, contexts.entries.find? (·.name == special.name) = some context ∧
      contexts.findById? task.context = some context
  filled : ∀ context, contexts.entries.find? (·.name == special.name) = some context →
    contexts.findById? task.context = some context →
    (∃ folder ∈ folders.entries, folder.name = special.defaultFolder) →
    ∃ folder, folders.findById? task.folder = some folder

section Coupling

variable {contexts folders : Catalog} {special : Special} {task : Task}

/-- A task that neither rule for a special context changes agrees about it. -/
theorem agrees_of_isFollowing (isSpecial : special ∈ specials)
    (follows : IsFollowing contexts folders (contexts.findByName? special.name) task)
    (filled : IsFilled contexts folders (contexts.findByName? special.name)
      special.defaultFolder task) : Agrees contexts folders special task where
  follows folder letter rest found named initial known := by
    obtain ⟨context, first, sameName⟩ := Catalog.exists_findByName? known
    refine ⟨context, (contexts.findByName?_eq special.name).symm.trans first, ?_⟩
    apply follows context first folder found
    rw [named, sameName]
    exact sameInitial_special isSpecial initial rest
  filled context first inContext known := by
    rw [← contexts.findByName?_eq] at first
    obtain ⟨defaultFolder, found, -⟩ := Catalog.exists_findByName? known
    -- Without a folder the default folder would have been filled in.
    by_contra homeless
    have missing : folders.findById? task.folder = none :=
      Option.eq_none_iff_forall_not_mem.2 fun folder member => homeless ⟨folder, member⟩
    rw [filled context first inContext missing] at found
    cases found

theorem IsCoupledIn.agrees {today : Date} (coupled : (standard today).IsCoupledIn contexts folders task)
    (isSpecial : special ∈ specials) : Agrees contexts folders special task := by
  rcases List.mem_pair.1 isSpecial with rfl | rfl
  · exact agrees_of_isFollowing isSpecial coupled.work_follows coupled.work_filled
  · exact agrees_of_isFollowing isSpecial coupled.personal_follows coupled.personal_filled

end Coupling

/-- After a pass, context and folder of the task agree, and there is nothing left to couple. -/
theorem normalize_couples {today : Date} (current : today.IsCurrent) {contexts folders : Catalog}
    (distinctContexts : contexts.HasDistinctIds) (distinctFolders : folders.HasDistinctIds)
    (task : Task) :
    ∃ outcome, (standard today).normalize task (some contexts) (some folders) = .ok outcome ∧
      (∀ special ∈ specials, Agrees contexts folders special outcome.task) ∧
      (standard today).couple outcome.task (some contexts) (some folders) = (outcome.task, []) := by
  obtain ⟨lowest, threshold, horizon⟩ := Almanac.exists_horizon current
  obtain ⟨outcome, read, settled, pinned, due, normalized, -, -, -, -, rfl, -, stamped, -⟩ :=
    exists_pass horizon (some contexts) (some folders) task
  have settledCoupled : (standard today).IsCoupled (some contexts) (some folders)
      ((standard today).tied read (some contexts) (some folders)) :=
    isCoupled_tied (by simpa using distinctContexts) (by simpa using distinctFolders) read
  -- Neither the due date nor the banner has anything to do with context and folder.
  have coupled : (standard today).IsCoupled (some contexts) (some folders) outcome.task :=
    settledCoupled.congr (by rw [stamped]; rfl) (by rw [stamped]; rfl)
  exact ⟨outcome, normalized, fun special => (coupled contexts rfl folders rfl).agrees,
    coupled.couple_eq⟩

/-- A task of the work context in a private folder becomes a personal one. -/
theorem normalize_couples_garden :
    let engine := standard ⟨2024, 1, 15, by decide⟩
    let contexts := Catalog.ofList [⟨1, "Work"⟩, ⟨2, "Personal"⟩]
    let folders := Catalog.ofList [⟨5, "w Work"⟩, ⟨6, "p Garden"⟩]
    contexts.HasDistinctIds ∧ folders.HasDistinctIds ∧
      (∃ outcome, engine.normalize { title := "Prune roses", context := 1, folder := 6 }
          (some contexts) (some folders) = .ok outcome ∧
        outcome.task.context = 2 ∧
        (∀ special ∈ specials, Agrees contexts folders special outcome.task) ∧
        engine.couple outcome.task (some contexts) (some folders) = (outcome.task, [])) := by
  intro engine contexts folders
  have distinctContexts : contexts.HasDistinctIds := by simp [Catalog.HasDistinctIds, contexts]
  have distinctFolders : folders.HasDistinctIds := by simp [Catalog.HasDistinctIds, folders]
  refine ⟨distinctContexts, distinctFolders, ?_⟩
  obtain ⟨outcome, normalized, agrees, coupled⟩ :=
    @normalize_couples ⟨2024, 1, 15, by decide⟩ (by decide) contexts folders distinctContexts
      distinctFolders { title := "Prune roses", context := 1, folder := 6 }
  refine ⟨outcome, normalized, ?_, agrees, coupled⟩
  have moved : (engine.normalize { title := "Prune roses", context := 1, folder := 6 }
      (some contexts) (some folders)).map (·.task.context) = .ok 2 := by
    -- Lookups are scanned here, since hashes do not evaluate in proofs.
    simp only [normalize, couple, followFolder, fillFolder, applyPlaceholder,
      Catalog.findById?_eq, Catalog.findByName?_eq]
    decide +kernel
  rw [normalized] at moved
  exact Except.ok.inj moved

/-! ## Title and status -/

theorem tiedStatus_eq_reference_iff {project waiting reference : Bool} {status : Status}
    (present : tiedStatus project waiting reference status ≠ .hold) :
    tiedStatus project waiting reference status = .reference ↔ reference = true := by
  revert project waiting reference
  cases status <;> decide

theorem tiedStatus_eq_waiting_iff {waiting reference : Bool}
    (exclusive : (waiting && reference) = false) {status : Status}
    (present : tiedStatus false waiting reference status ≠ .hold) :
    tiedStatus false waiting reference status = .waiting ↔ waiting = true := by
  revert waiting reference
  cases status <;> decide

section Tying

variable {today : Date} {task : Task}

theorem isProject_eq_false (childless : task.children = 0)
    (untagged : ¬ ("_project" : Text) <:+: task.tagText)
    (unmarked : (standard today).marksProject task.note = false) :
    (standard today).isProject task = false := by
  have noted := (marksProject_strip today task.note).trans unmarked
  rw [marksProject] at noted
  have tagged : occursIn (standard today).conventions.markers.projectTag task.tagText = false :=
    occursIn_eq_false_iff.2 untagged
  rw [isProject, noted, tagged, childless]
  rfl

/-- A task that is tied already, and not for the future, is a reference if its title is one. -/
theorem IsTied.eq_reference_iff (tied : (standard today).IsTied task)
    (present : task.status ≠ .hold) :
    task.status = .reference ↔ ("." : Text) <+: task.title := by
  have status := congrArg Task.status tied
  rw [applyTitleStatus_eq] at status
  dsimp only at status
  rw [← status] at present ⊢
  rw [tiedStatus_eq_reference_iff present]
  exact startsWith_iff

theorem IsTied.eq_waiting_iff (tied : (standard today).IsTied task)
    (present : task.status ≠ .hold) (single : (standard today).isProject task = false) :
    task.status = .waiting ↔
      ("wf " : Text) <+: task.title ∨ ("Waiting for" : Text) <+: task.title := by
  have status := congrArg Task.status tied
  rw [applyTitleStatus_eq, single] at status
  dsimp only at status
  rw [← status] at present ⊢
  rw [tiedStatus_eq_waiting_iff (waiting_and_reference task.title) present, isWaitingTitle,
    Bool.or_eq_true, startsWith_iff, startsWith_iff]
  rfl

end Tying

/-- After a pass a task has a status.  Unless it is for the future, it is a reference if its title
    says so, and waiting if its title says so and it is no project. -/
theorem normalize_ties {today : Date} (current : today.IsCurrent)
    (contexts folders : Option Catalog) (task : Task) :
    ∃ outcome, (standard today).normalize task contexts folders = .ok outcome ∧
      outcome.task.status ≠ .none ∧
      (outcome.task.status ≠ .hold →
        (outcome.task.status = .reference ↔ ("." : Text) <+: outcome.task.title) ∧
        (outcome.task.children = 0 → ¬ ("_project" : Text) <:+: outcome.task.tagText →
          (∀ marker ∈ Conventions.standard.markers.projectNoteMarkers, ¬ marker <:+: task.note) →
          (outcome.task.status = .waiting ↔
            ("wf " : Text) <+: outcome.task.title ∨
              ("Waiting for" : Text) <+: outcome.task.title))) := by
  obtain ⟨lowest, threshold, horizon⟩ := Almanac.exists_horizon current
  obtain ⟨outcome, read, settled, pinned, due, normalized, -, -, readNote, known, settles, -,
    stamped, -⟩ := exists_pass horizon contexts folders task
  have tied : (standard today).IsTied settled := settles ▸ isTied_applyTitleStatus _
  have settledKnown : settled.status ≠ .none := settles ▸ status_tied_ne_none known
  have sameNote : settled.note = task.note := by rw [← settles, note_tied, readNote]
  refine ⟨outcome, normalized, ?_⟩
  -- The banner and the due date change nothing of what the title and the status are tied by.
  rw [stamped]
  refine ⟨settledKnown, fun present => ⟨tied.eq_reference_iff present, ?_⟩⟩
  intro childless untagged unmarked
  refine tied.eq_waiting_iff present (isProject_eq_false childless untagged ?_)
  rw [sameNote, marksProject, List.any_eq_false]
  intro marker member occurs
  exact unmarked marker member (occursIn_iff.1 occurs)

/-- A task that was filed as a reference waits, since its title says so. -/
theorem normalize_ties_waiting :
    ∃ outcome,
      (standard ⟨2024, 1, 15, by decide⟩).normalize
        { title := "Waiting for Bob /ref", note := "by phone" } none none = .ok outcome ∧
      outcome.task.status = .waiting := by
  obtain ⟨outcome, normalized, -, agrees⟩ := @normalize_ties ⟨2024, 1, 15, by decide⟩ (by decide)
    none none { title := "Waiting for Bob /ref", note := "by phone" }
  have known : (standard ⟨2024, 1, 15, by decide⟩).normalize
      { title := "Waiting for Bob /ref", note := "by phone" } none none =
      .ok {
        task := {
          title := "Waiting for Bob", note := "by phone", dueDate := 1713700800
          status := .waiting }
        changed := true, events := [.normalized 0 "Waiting for Bob"] } := by decide +kernel
  obtain rfl := Except.ok.inj (known.symm.trans normalized)
  have waits := (agrees (by decide)).2 rfl (by decide +kernel) (by decide +kernel)
  exact ⟨_, normalized, waits.2 (.inr (by decide +kernel))⟩

end TaskTitles.Engine
