import TaskTitles.Proofs.Catalog
import TaskTitles.Proofs.Normalize.Stages

/-!
# Coupling reaches a fixed point

A task is coupled when neither of the special contexts has anything to change about it
(`IsCoupled`).  In catalogs without repeated numbers, coupling makes a task coupled
(`isCoupled_couple`) and leaves a coupled task alone (`IsCoupled.couple_eq`).
-/

namespace TaskTitles

namespace Engine

open Text

variable {contexts folders : Catalog} {task : Task} {special other : Option Context}
  {defaultName otherName : Text}

/-! ## One special context -/

/-- A task whose folder starts like the special context is in that context. -/
def IsFollowing (contexts folders : Catalog) (special : Option Context) (task : Task) : Prop :=
  ∀ context ∈ special, ∀ folder ∈ folders.findById? task.folder,
    sameInitial folder.name context.name = true → contexts.findById? task.context = some context

/-- A task of the special context without a folder has no default folder to go to. -/
def IsFilled (contexts folders : Catalog) (special : Option Context) (defaultName : Text)
    (task : Task) : Prop :=
  ∀ context ∈ special, contexts.findById? task.context = some context →
    folders.findById? task.folder = none → folders.findByName? defaultName = none

theorem followFolder_cases (contexts folders : Catalog) (task : Task) (special : Option Context) :
    (IsFollowing contexts folders special task ∧
      followFolder contexts folders task special = (task, [])) ∨
    ∃ context ∈ special, ∃ folder ∈ folders.findById? task.folder,
      sameInitial folder.name context.name = true ∧
        (followFolder contexts folders task special).1 = { task with context := context.id } := by
  simp only [followFolder]
  split
  · next context folder found =>
    split
    · next moves =>
      exact .inr ⟨context, rfl, folder, found, moves.2, rfl⟩
    · next stays =>
      refine .inl ⟨?_, rfl⟩
      intro context' isSpecial folder' isFolder initial
      cases isSpecial
      rw [found, Option.mem_some_iff] at isFolder
      subst isFolder
      exact Decidable.not_not.1 fun elsewhere => stays ⟨elsewhere, initial⟩
  · next missing =>
    refine .inl ⟨?_, rfl⟩
    intro context isSpecial folder isFolder _
    exact absurd isFolder (missing context folder isSpecial)

theorem fillFolder_cases (contexts folders : Catalog) (task : Task) (special : Option Context)
    (defaultName : Text) :
    (IsFilled contexts folders special defaultName task ∧
      fillFolder contexts folders task special defaultName = task) ∨
    ∃ context ∈ special, ∃ folder ∈ folders.findByName? defaultName,
      contexts.findById? task.context = some context ∧
        fillFolder contexts folders task special defaultName = { task with folder := folder.id } := by
  simp only [fillFolder]
  split
  · exact .inl ⟨fun context isSpecial => by simp at isSpecial, rfl⟩
  · next context =>
    split
    · next homeless =>
      split
      · next folder found => exact .inr ⟨context, rfl, folder, found, homeless.1, rfl⟩
      · next missing => exact .inl ⟨fun _ _ _ _ => missing, rfl⟩
    · next placed =>
      refine .inl ⟨?_, rfl⟩
      intro context' isSpecial inContext inNone
      cases isSpecial
      exact absurd ⟨inContext, inNone⟩ placed

theorem IsFollowing.followFolder_eq (follows : IsFollowing contexts folders special task) :
    followFolder contexts folders task special = (task, []) := by
  simp only [followFolder]
  split
  · next context folder found =>
    exact if_neg fun moves => moves.1 (follows context rfl folder found moves.2)
  · rfl

theorem IsFilled.fillFolder_eq (filled : IsFilled contexts folders special defaultName task) :
    fillFolder contexts folders task special defaultName = task := by
  simp only [fillFolder]
  split
  · rfl
  · next context =>
    split
    · next homeless => rw [filled context rfl homeless.1 homeless.2]
    · rfl

/-! ## What the rules make true -/

theorem isFollowing_followFolder
    (known : ∀ context ∈ special, contexts.findById? context.id = some context) :
    IsFollowing contexts folders special (followFolder contexts folders task special).1 := by
  rcases followFolder_cases contexts folders task special with
    ⟨follows, stays⟩ | ⟨context, isSpecial, folder, -, -, moved⟩
  · rwa [stays]
  · -- The task is now in the special context, which is found under its own number.
    rw [moved]
    intro context' isSpecial' _ _ _
    cases isSpecial
    cases isSpecial'
    exact known context rfl

/-- Following one special context does not lead away from another with another initial. -/
theorem IsFollowing.followFolder (follows : IsFollowing contexts folders other task)
    (apart : ∀ context ∈ special, ∀ context' ∈ other, ∀ name,
      sameInitial name context.name = true → sameInitial name context'.name = false) :
    IsFollowing contexts folders other (followFolder contexts folders task special).1 := by
  rcases followFolder_cases contexts folders task special with
    ⟨-, stays⟩ | ⟨context, isSpecial, folder, found, initial, moved⟩
  · rwa [stays]
  · -- The folder starts like the context that the task has moved to, and so not like the other.
    rw [moved]
    intro context' isOther folder' isFolder otherInitial
    have same : folder' = folder := Option.mem_unique isFolder found
    rw [same, apart context isSpecial context' isOther folder.name initial] at otherInitial
    exact absurd otherInitial Bool.false_ne_true

theorem IsFollowing.fillFolder (follows : IsFollowing contexts folders special task) :
    IsFollowing contexts folders special
      (fillFolder contexts folders task special defaultName) := by
  rcases fillFolder_cases contexts folders task special defaultName with
    ⟨-, stays⟩ | ⟨context, isSpecial, folder, -, inContext, moved⟩
  · rwa [stays]
  · rw [moved]
    intro context' isSpecial' _ _ _
    cases isSpecial
    cases isSpecial'
    exact inContext

/-- A default folder with another initial leaves the other special context alone. -/
theorem IsFollowing.fillFolder_other (distinct : folders.HasDistinctIds)
    (follows : IsFollowing contexts folders other task)
    (apart : ∀ context ∈ other, sameInitial defaultName context.name = false) :
    IsFollowing contexts folders other
      (Engine.fillFolder contexts folders task special defaultName) := by
  rcases fillFolder_cases contexts folders task special defaultName with
    ⟨-, stays⟩ | ⟨context, isSpecial, folder, found, -, moved⟩
  · rwa [stays]
  · rw [moved]
    intro context' isOther folder' isFolder initial
    obtain ⟨named, known⟩ := distinct.findByName? found
    have same : folder' = folder := Option.mem_unique isFolder known
    rw [same, named, apart context' isOther] at initial
    exact absurd initial Bool.false_ne_true

theorem isFilled_fillFolder (distinct : folders.HasDistinctIds) :
    IsFilled contexts folders special defaultName
      (fillFolder contexts folders task special defaultName) := by
  rcases fillFolder_cases contexts folders task special defaultName with
    ⟨filled, stays⟩ | ⟨context, -, folder, found, -, moved⟩
  · rwa [stays]
  · rw [moved]
    intro _ _ _ missing
    have known := (distinct.findByName? found).2
    exact absurd known (by simp [missing])

theorem IsFilled.fillFolder (distinct : folders.HasDistinctIds)
    (filled : IsFilled contexts folders other otherName task) :
    IsFilled contexts folders other otherName
      (Engine.fillFolder contexts folders task special defaultName) := by
  rcases fillFolder_cases contexts folders task special defaultName with
    ⟨-, stays⟩ | ⟨context, -, folder, found, -, moved⟩
  · rwa [stays]
  · -- The task has a folder now.
    rw [moved]
    intro _ _ _ missing
    have known := (distinct.findByName? found).2
    exact absurd known (by simp [missing])

/-! ## Both special contexts -/

/-- Neither special context has anything to change about the task. -/
structure IsCoupledIn (engine : Engine) (contexts folders : Catalog) (task : Task) : Prop where
  work_follows : IsFollowing contexts folders
    (contexts.findByName? engine.conventions.contexts.work) task
  personal_follows : IsFollowing contexts folders
    (contexts.findByName? engine.conventions.contexts.personal) task
  work_filled : IsFilled contexts folders
    (contexts.findByName? engine.conventions.contexts.work)
    engine.conventions.contexts.defaultWorkFolder task
  personal_filled : IsFilled contexts folders
    (contexts.findByName? engine.conventions.contexts.personal)
    engine.conventions.contexts.defaultPersonalFolder task

theorem IsCoupledIn.couple_eq {engine : Engine}
    (coupled : engine.IsCoupledIn contexts folders task) :
    engine.couple task (some contexts) (some folders) = (task, []) := by
  rw [couple]
  dsimp only
  rw [coupled.work_follows.followFolder_eq]
  dsimp only
  rw [coupled.personal_follows.followFolder_eq]
  dsimp only
  rw [coupled.work_filled.fillFolder_eq, coupled.personal_filled.fillFolder_eq]
  rfl

theorem IsCoupledIn.congr {engine : Engine} (coupled : engine.IsCoupledIn contexts folders task)
    {other : Task} (sameContext : other.context = task.context)
    (sameFolder : other.folder = task.folder) : engine.IsCoupledIn contexts folders other where
  work_follows := by
    simpa only [IsFollowing, sameContext, sameFolder] using coupled.work_follows
  personal_follows := by
    simpa only [IsFollowing, sameContext, sameFolder] using coupled.personal_follows
  work_filled := by
    simpa only [IsFilled, sameContext, sameFolder] using coupled.work_filled
  personal_filled := by
    simpa only [IsFilled, sameContext, sameFolder] using coupled.personal_filled

theorem sameInitial_apart {name : Text} (work : sameInitial name "Work" = true) :
    sameInitial name "Personal" = false := by
  cases name with
  | nil => rfl
  | cons c cs =>
    have initial : upperChar c = upperChar 'W' := by simpa [sameInitial] using work
    have differ : upperChar 'W' ≠ upperChar 'P' := by decide
    simpa [sameInitial, initial] using differ

theorem isCoupledIn_couple {today : Calendar.Date} (distinctContexts : contexts.HasDistinctIds)
    (distinctFolders : folders.HasDistinctIds) (task : Task) :
    (standard today).IsCoupledIn contexts folders
      ((standard today).couple task (some contexts) (some folders)).1 := by
  have named {name : Text} : ∀ context ∈ contexts.findByName? name, context.name = name :=
    fun context found => (distinctContexts.findByName? found).1
  have known {name : Text} : ∀ context ∈ contexts.findByName? name,
      contexts.findById? context.id = some context :=
    fun context found => (distinctContexts.findByName? found).2
  have apart {name : Text} : ∀ context ∈ contexts.findByName? "Personal",
      ∀ context' ∈ contexts.findByName? "Work", sameInitial name context.name = true →
        sameInitial name context'.name = false := by
    intro context isPersonal context' isWork personal
    rw [named context isPersonal] at personal
    rw [named context' isWork, ← Bool.not_eq_true]
    exact fun work => Bool.false_ne_true ((sameInitial_apart work).symm.trans personal)
  have workFollows : IsFollowing contexts folders (contexts.findByName? "Work")
      (followFolder contexts folders task (contexts.findByName? "Work")).1 :=
    isFollowing_followFolder known
  have workStill := workFollows.followFolder fun context isPersonal context' isWork name =>
    apart context isPersonal context' isWork
  have personalFollows : IsFollowing contexts folders (contexts.findByName? "Personal")
      (followFolder contexts folders
        (followFolder contexts folders task (contexts.findByName? "Work")).1
        (contexts.findByName? "Personal")).1 :=
    isFollowing_followFolder known
  -- None of the later steps of coupling undoes what an earlier one has done.
  constructor
  case work_follows =>
    apply IsFollowing.fillFolder_other distinctFolders workStill.fillFolder
    intro context isWork
    rw [named context isWork]
    exact show sameInitial "p Personal" "Work" = false by decide
  case personal_follows =>
    refine IsFollowing.fillFolder (personalFollows.fillFolder_other distinctFolders ?_)
    intro context isPersonal
    rw [named context isPersonal]
    exact show sameInitial "w Work" "Personal" = false by decide
  case work_filled => exact (isFilled_fillFolder distinctFolders).fillFolder distinctFolders
  case personal_filled => exact isFilled_fillFolder distinctFolders

/-! ## Coupling as a whole -/

theorem followFolder_frame (contexts folders : Catalog) (task : Task) (special : Option Context) :
    ∃ context, (followFolder contexts folders task special).1 = { task with context } := by
  rcases followFolder_cases contexts folders task special with
    ⟨-, stays⟩ | ⟨context, -, folder, -, -, moved⟩
  · exact ⟨task.context, by rw [stays]⟩
  · exact ⟨context.id, moved⟩

theorem fillFolder_frame (contexts folders : Catalog) (task : Task) (special : Option Context)
    (defaultName : Text) :
    ∃ folder, fillFolder contexts folders task special defaultName = { task with folder } := by
  rcases fillFolder_cases contexts folders task special defaultName with
    ⟨-, stays⟩ | ⟨context, -, folder, -, -, moved⟩
  · exact ⟨task.folder, stays⟩
  · exact ⟨folder.id, moved⟩

theorem couple_frame (engine : Engine) (task : Task) (contexts folders : Option Catalog) :
    ∃ context folder, (engine.couple task contexts folders).1 = { task with context, folder } := by
  simp only [couple]
  split
  · next contexts folders =>
    dsimp only
    -- Two contexts may be followed, and after that two folders filled in.
    obtain ⟨workContext, followsWork⟩ :=
      followFolder_frame contexts folders task (contexts.findByName? engine.conventions.contexts.work)
    rw [followsWork]
    obtain ⟨context, followsPersonal⟩ :=
      followFolder_frame contexts folders { task with context := workContext }
        (contexts.findByName? engine.conventions.contexts.personal)
    rw [followsPersonal]
    obtain ⟨workFolder, fillsWork⟩ :=
      fillFolder_frame contexts folders { task with context }
        (contexts.findByName? engine.conventions.contexts.work)
        engine.conventions.contexts.defaultWorkFolder
    rw [fillsWork]
    obtain ⟨folder, fillsPersonal⟩ :=
      fillFolder_frame contexts folders { task with context, folder := workFolder }
        (contexts.findByName? engine.conventions.contexts.personal)
        engine.conventions.contexts.defaultPersonalFolder
    rw [fillsPersonal]
    exact ⟨context, folder, rfl⟩
  · exact ⟨task.context, task.folder, rfl⟩

theorem followFolder_rewrite (note : Text) (due : Calendar.Timestamp) (contexts folders : Catalog)
    (task : Task) (special : Option Context) :
    (followFolder contexts folders { task with note, dueDate := due } special).1 =
      { (followFolder contexts folders task special).1 with note, dueDate := due } := by
  unfold followFolder
  dsimp only
  split
  · split <;> rfl
  · rfl

theorem fillFolder_rewrite (note : Text) (due : Calendar.Timestamp) (contexts folders : Catalog)
    (task : Task) (special : Option Context) (defaultName : Text) :
    fillFolder contexts folders { task with note, dueDate := due } special defaultName =
      { fillFolder contexts folders task special defaultName with note, dueDate := due } := by
  unfold fillFolder
  dsimp only
  split
  · rfl
  · split
    · split <;> rfl
    · rfl

theorem couple_rewrite (engine : Engine) (task : Task) (contexts folders : Option Catalog)
    (note : Text) (due : Calendar.Timestamp) :
    (engine.couple { task with note, dueDate := due } contexts folders).1 =
      { (engine.couple task contexts folders).1 with note, dueDate := due } := by
  simp only [couple]
  split
  · dsimp only
    rw [followFolder_rewrite note due, followFolder_rewrite note due, fillFolder_rewrite note due,
      fillFolder_rewrite note due]
  · rfl

/-- Before dates and banner, settling changes nothing but context, folder and status. -/
theorem tied_frame (engine : Engine) (task : Task) (contexts folders : Option Catalog) :
    ∃ context folder status, engine.tied task contexts folders =
      { task with context, folder, status } := by
  obtain ⟨context, folder, coupled⟩ := couple_frame engine task contexts folders
  exact ⟨context, folder, _, by rw [tied, coupled]; rfl⟩

theorem note_tied (engine : Engine) (task : Task) (contexts folders : Option Catalog) :
    (engine.tied task contexts folders).note = task.note := by
  obtain ⟨context, folder, status, framed⟩ := tied_frame engine task contexts folders
  rw [framed]

/-- Coupling has nothing to change about the task, for want of catalogs or otherwise. -/
def IsCoupled (engine : Engine) (contexts folders : Option Catalog) (task : Task) : Prop :=
  ∀ contexts' ∈ contexts, ∀ folders' ∈ folders, engine.IsCoupledIn contexts' folders' task

theorem IsCoupled.couple_eq {engine : Engine} {contexts folders : Option Catalog}
    (coupled : engine.IsCoupled contexts folders task) :
    engine.couple task contexts folders = (task, []) := by
  cases contexts with
  | none => rfl
  | some contexts =>
    cases folders with
    | none => rfl
    | some folders => exact (coupled contexts rfl folders rfl).couple_eq

theorem IsCoupled.congr {engine : Engine} {contexts folders : Option Catalog}
    (coupled : engine.IsCoupled contexts folders task) {other : Task}
    (sameContext : other.context = task.context) (sameFolder : other.folder = task.folder) :
    engine.IsCoupled contexts folders other :=
  fun contexts' isContexts folders' isFolders =>
    (coupled contexts' isContexts folders' isFolders).congr sameContext sameFolder

/-- Coupling makes a task coupled. -/
theorem isCoupled_couple {today : Calendar.Date} {contexts folders : Option Catalog}
    (distinctContexts : ∀ catalog ∈ contexts, catalog.HasDistinctIds)
    (distinctFolders : ∀ catalog ∈ folders, catalog.HasDistinctIds) (task : Task) :
    (standard today).IsCoupled contexts folders
      ((standard today).couple task contexts folders).1 := by
  intro contexts' isContexts folders' isFolders
  cases isContexts
  cases isFolders
  exact isCoupledIn_couple (distinctContexts contexts' rfl) (distinctFolders folders' rfl) task

end Engine

end TaskTitles
