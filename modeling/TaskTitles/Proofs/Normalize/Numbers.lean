import TaskTitles.Proofs.Almanac.Words
import TaskTitles.Proofs.Normalize.Frame
import TaskTitles.Proofs.Task.Numbers

/-!
# Where the numbers of a task come from

Every number that a pass writes into a task is zero, the noon of a date, or the number of a catalog
entry (`hasNumbers_normalize`).  Each rule is looked at on its own; none of them computes with the
numbers that it finds.
-/

namespace TaskTitles

open Calendar

/-! ## Placeholders -/

namespace Almanac

variable {almanac : Almanac} {v : Timestamp}

theorem noon_of_placeholder {contextName : Option Text} {status : Status}
    (placed : almanac.placeholder contextName status = .ok v) : ∃ d, v = Timestamp.noon d := by
  obtain ⟨shifted, -, placed⟩ := exists_of_bind_eq_ok placed
  obtain ⟨d, -, same⟩ := exists_of_bind_eq_ok placed
  exact ⟨d, (Except.ok.inj same).symm⟩

end Almanac

/-! ## Rules -/

namespace Engine

variable {holds : Int → Prop} {engine : Engine} {task : Task} {contexts folders : Option Catalog}

theorem holds_takeEntry {catalog : Option Catalog} {noneWord : Text}
    {find? : Catalog → Text → Option Context} {current : Int} {words : List Text}
    (zero : holds 0) (known : ∀ c ∈ catalog, ∀ entry ∈ c.entries, holds entry.id)
    (found : ∀ (c : Catalog) word, ∀ entry ∈ find? c word, entry ∈ c.entries)
    (was : holds current) : holds (takeEntry catalog noneWord find? current words).1 := by
  simp only [takeEntry]
  split
  · exact was
  · next c =>
    split
    · dsimp only
      split
      · exact zero
      · exact was
    · -- An entry that a word finds is in the catalog, and without one the number stays.
      cases taken : (takeFirst (find? c) words).1 with
      | none => simpa [taken] using was
      | some entry =>
        obtain ⟨word, -, accepted⟩ := exists_of_takeFirst taken
        simpa [taken] using known c rfl entry (found c word entry accepted)

section Rules

variable (zero : holds 0) (noons : ∀ d, holds (Timestamp.noon d))
  (knownContexts : ∀ catalog ∈ contexts, ∀ entry ∈ catalog.entries, holds entry.id)
  (knownFolders : ∀ catalog ∈ folders, ∀ entry ∈ catalog.entries, holds entry.id)
  (was : task.HasNumbers holds)

include noons was in
theorem hasNumbers_applyDueDate {token : Option Text} {read : Task} {pin : Pin}
    {events : List Event} (dued : engine.applyDueDate task token = .ok (read, pin, events)) :
    read.HasNumbers holds := by
  cases token with
  | none =>
    obtain ⟨found, -, same⟩ := exists_of_map_eq_ok dued
    cases same
    exact was
  | some text =>
    obtain ⟨found, named, same⟩ := exists_of_bind_eq_ok dued
    cases same
    cases found with
    | none => exact was
    | some v =>
      obtain ⟨d, rfl⟩ := Almanac.noon_of_read? named
      exact { was with dueDate := noons d }

include noons was in
theorem hasNumbers_applyStartDate {token : Option Text} {started : Task}
    (begun : engine.applyStartDate task token = .ok started) : started.HasNumbers holds := by
  cases token with
  | none =>
    cases begun
    exact was
  | some text =>
    obtain ⟨found, named, same⟩ := exists_of_bind_eq_ok begun
    cases same
    cases found with
    | none => exact was
    | some v =>
      obtain ⟨d, rfl⟩ := Almanac.noon_of_read? named
      exact { was with startDate := noons d }

include zero knownContexts knownFolders was in
theorem hasNumbers_applyModifiers (engine : Engine) (pin : Pin) (words : List Text) :
    (engine.applyModifiers task pin words contexts folders).1.HasNumbers holds :=
  { was with
    context := holds_takeEntry zero knownContexts
      (fun _ _ _ found => List.mem_of_find?_eq_some found) was.context
    folder := holds_takeEntry zero knownFolders
      (fun _ _ _ found => List.mem_of_find?_eq_some found) was.folder }

theorem hasNumbers_followFolder {contexts folders : Catalog} {special : Option Context}
    (known : ∀ context ∈ special, holds context.id) (was : task.HasNumbers holds) :
    (followFolder contexts folders task special).1.HasNumbers holds := by
  rcases followFolder_cases contexts folders task special with
    ⟨-, stays⟩ | ⟨context, isSpecial, folder, -, -, moved⟩
  · rwa [stays]
  · rw [moved]
    exact { was with context := known context isSpecial }

theorem hasNumbers_fillFolder {contexts folders : Catalog} {special : Option Context}
    {defaultName : Text} (known : ∀ entry ∈ folders.entries, holds entry.id)
    (was : task.HasNumbers holds) :
    (fillFolder contexts folders task special defaultName).HasNumbers holds := by
  rcases fillFolder_cases contexts folders task special defaultName with
    ⟨-, stays⟩ | ⟨context, -, folder, found, -, moved⟩
  · rwa [stays]
  · rw [moved]
    exact { was with folder := known folder (Catalog.mem_of_findByName? found) }

include knownContexts knownFolders was in
theorem hasNumbers_couple (engine : Engine) :
    (engine.couple task contexts folders).1.HasNumbers holds := by
  simp only [couple]
  split
  · next contexts folders =>
    have special (name : Text) : ∀ context ∈ contexts.findByName? name, holds context.id :=
      fun context found => knownContexts contexts rfl context (Catalog.mem_of_findByName? found)
    have known := knownFolders folders rfl
    exact hasNumbers_fillFolder known (hasNumbers_fillFolder known
      (hasNumbers_followFolder (special _) (hasNumbers_followFolder (special _) was)))
  · exact was

include noons was in
theorem hasNumbers_applyPlaceholder {pinned : Bool} {placed : Task}
    (dated : engine.applyPlaceholder task pinned contexts = .ok placed) :
    placed.HasNumbers holds := by
  cases pinned with
  | true =>
    cases dated
    exact was
  | false =>
    rw [applyPlaceholder, if_neg Bool.false_ne_true] at dated
    obtain ⟨archived, -, dated⟩ := exists_of_bind_eq_ok dated
    split at dated
    · cases dated
      exact was
    · obtain ⟨due, found, same⟩ := exists_of_bind_eq_ok dated
      obtain ⟨d, rfl⟩ := Almanac.noon_of_placeholder found
      cases same
      exact { was with dueDate := noons d }

include zero noons knownContexts knownFolders was in
/-- What holds of zero, of the noons of all dates, of the numbers in the catalogs and of those of a
    task still holds of those of the normalized task. -/
theorem hasNumbers_normalize {outcome : Outcome}
    (normalized : engine.normalize task contexts folders = .ok outcome) :
    outcome.task.HasNumbers holds := by
  obtain ⟨tokens, tokenized, read⟩ := exists_of_bind_eq_ok normalized
  obtain ⟨⟨read, pin, events⟩, dued, starts⟩ := exists_of_bind_eq_ok read
  obtain ⟨started, begun, -⟩ := exists_of_bind_eq_ok starts
  rw [normalize_eq_settle (of_after_eq_ok tokenized) (of_after_eq_ok dued) (of_after_eq_ok begun)]
    at normalized
  -- Each rule hands the numbers on to the next one.
  have titled : ({ task with title := tokens.description } : Task).HasNumbers holds := { was with }
  have readNumbers := hasNumbers_applyDueDate noons titled (of_after_eq_ok dued)
  have startNumbers := hasNumbers_applyStartDate noons readNumbers (of_after_eq_ok begun)
  have repeated : (applyRecurrence started tokens.recurrence).HasNumbers holds :=
    { startNumbers with }
  have modified := hasNumbers_applyModifiers zero knownContexts knownFolders repeated engine pin
    tokens.modifiers
  have coupled := hasNumbers_couple knownContexts knownFolders modified engine
  obtain ⟨placed, dated, finished⟩ := exists_of_bind_eq_ok normalized
  have placedNumbers := hasNumbers_applyPlaceholder noons
    (show Task.HasNumbers holds (engine.tied _ contexts folders) from { coupled with })
    (of_after_eq_ok dated)
  rw [← Except.ok.inj finished]
  exact { placedNumbers with }

end Rules

end Engine

end TaskTitles
