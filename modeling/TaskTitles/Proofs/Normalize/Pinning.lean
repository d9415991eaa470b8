import TaskTitles.Proofs.Normalize.Banners
import TaskTitles.Proofs.Normalize.Coupling

/-!
# A pinned due date stays

Once the note says that the due date is pinned, every pass over the task keeps the due date and
writes the pin into the note again, whatever the day and the catalogs are
(`IsPinnedTo.exists_pass`).  So do all passes of a sequence (`IsPinnedTo.exists_runPasses`).
-/

namespace TaskTitles.Engine

open Calendar

/-- The day of a pass, and the catalogs that it has. -/
structure Pass where
  today : Date
  contexts : Option Catalog
  folders : Option Catalog

/-- The task after each pass of a sequence, where every pass starts from what the one before it has
    made of the task. -/
def runPasses (task : Task) : List Pass → Except Interruption (List Task)
  | [] => .ok []
  | pass :: passes => do
    let outcome ← (standard pass.today).normalize task pass.contexts pass.folders
    return outcome.task :: (← runPasses outcome.task passes)

/-- The note pins the due date of the task, and the title says nothing of dates. -/
structure IsPinnedTo (due : Timestamp) (task : Task) : Prop where
  dueDate_eq : task.dueDate = due
  noted : ({} : Note.Codec).isPinned task.note = true
  fits : task.note.length ≤ 600
  unmarked : ¬ Title.opening ['/'] <:+: task.title

variable {due : Timestamp} {task : Task}

/-- A pass keeps due date and pin. -/
theorem IsPinnedTo.exists_pass (pinned : IsPinnedTo due task) (dated : due ≠ Timestamp.blank)
    {today : Date} (current : today.IsCurrent) (contexts folders : Option Catalog) :
    ∃ outcome, (standard today).normalize task contexts folders = .ok outcome ∧
      IsPinnedTo due outcome.task := by
  obtain ⟨lowest, threshold, horizon⟩ := Almanac.exists_horizon current
  have unmarked : ¬ Title.opening ['/'] <:+: (standard today).stripReminder task.title :=
    fun occurs => pinned.unmarked (occurs.trans (stripReminder_suffix _ task.title).isInfix)
  -- The note knows of the date, so nothing is concluded from it.
  have inferred := inferPin_noted horizon (by rw [pinned.dueDate_eq]; exact dated) pinned.noted
  rw [normalize_unmarked unmarked inferred]
  let current := (standard today).defaulted
    { task with title := Text.strip ((standard today).stripReminder task.title) }
  obtain ⟨context, folder, status, framed⟩ := tied_frame (standard today) current contexts folders
  have sameNote : ((standard today).tied current contexts folders).note = task.note := by
    rw [framed]
    rfl
  have noted : (standard today).isPinned ((standard today).tied current contexts folders) .unset =
      true := by
    rw [isPinned, codec_standard, sameNote]
    exact pinned.noted
  -- A pinned date is not replaced by a placeholder, archived or not.
  have placed : (standard today).applyPlaceholder ((standard today).tied current contexts folders)
      ((standard today).isPinned ((standard today).tied current contexts folders) .unset) contexts =
      .ok ((standard today).tied current contexts folders) := by
    rw [noted, applyPlaceholder_pinned]
  obtain ⟨outcome, settled, stamped, -⟩ := settle_eq_ok task [] placed
  rw [noted] at stamped
  refine ⟨outcome, settled, ?_⟩
  rw [stamped]
  constructor
  case dueDate_eq =>
    rw [applyBanner_eq, framed]
    exact pinned.dueDate_eq
  case noted => exact isPinned_applyBanner (by rw [sameNote]; exact pinned.fits)
  case fits =>
    have limited : 0 ≤ ({} : Note.Codec).maxLength := by decide
    exact Note.Codec.length_truncate_le limited _
  case unmarked =>
    rw [applyBanner_eq, framed]
    exact fun occurs => unmarked (occurs.trans (Text.strip_isInfix _))

theorem IsPinnedTo.exists_runPasses (pinned : IsPinnedTo due task) (dated : due ≠ Timestamp.blank)
    {passes : List Pass} (current : ∀ pass ∈ passes, pass.today.IsCurrent) :
    ∃ tasks, runPasses task passes = .ok tasks ∧ tasks.length = passes.length ∧
      ∀ later ∈ tasks, IsPinnedTo due later := by
  -- Each pass hands a pinned task to the ones after it.
  induction passes generalizing task with
  | nil => exact ⟨[], rfl, rfl, fun _ member => absurd member List.not_mem_nil⟩
  | cons pass passes ih =>
    obtain ⟨outcome, normalized, still⟩ :=
      pinned.exists_pass dated (current pass List.mem_cons_self) pass.contexts pass.folders
    obtain ⟨tasks, ran, sameLength, stays⟩ :=
      ih still fun other member => current other (List.mem_cons_of_mem pass member)
    refine ⟨outcome.task :: tasks, ?_, by rw [List.length_cons, sameLength, List.length_cons], ?_⟩
    · rw [runPasses, normalized]
      dsimp only [bind, Except.bind]
      rw [ran]
      rfl
    · intro later member
      rcases List.mem_cons.1 member with rfl | inRest
      · exact still
      · exact stays later inRest

/-- A pinned due date outlasts every sequence of passes, on whatever days and with whatever
    catalogs. -/
theorem runPasses_keeps_pin {task : Task} (dated : task.dueDate ≠ Timestamp.blank)
    (fits : task.note.length ≤ 600) (noted : ({} : Note.Codec).isPinned task.note = true)
    (unmarked : ¬ (" /" : Text) <:+: task.title) {passes : List Pass}
    (current : ∀ pass ∈ passes, pass.today.IsCurrent) :
    ∃ tasks, runPasses task passes = .ok tasks ∧ tasks.length = passes.length ∧
      ∀ later ∈ tasks, later.dueDate = task.dueDate ∧
        ({} : Note.Codec).isPinned later.note = true := by
  have pinned : IsPinnedTo task.dueDate task := ⟨rfl, noted, fits, unmarked⟩
  obtain ⟨tasks, ran, sameLength, stays⟩ := pinned.exists_runPasses dated current
  exact ⟨tasks, ran, sameLength, fun later member =>
    ⟨(stays later member).dueDate_eq, (stays later member).noted⟩⟩

/-- A task that is pinned to the first second of 1970, over the whole span of days. -/
theorem runPasses_keeps_pin_first_second :
    ∃ tasks,
      runPasses { title := "Ring home", note := "~~// /a", dueDate := 1, tags := ["a/b\n"] }
        [⟨⟨1970, 1, 1, by decide⟩, none, none⟩,
          ⟨⟨9998, 12, 31, by decide⟩, some (.ofList [⟨4, "Work"⟩]), some (.ofList [])⟩] = .ok tasks ∧
      tasks.length = 2 ∧
      ∀ later ∈ tasks, later.dueDate = 1 ∧ ({} : Note.Codec).isPinned later.note = true := by
  have current : ∀ pass ∈ ([⟨⟨1970, 1, 1, by decide⟩, none, none⟩,
      ⟨⟨9998, 12, 31, by decide⟩, some (.ofList [⟨4, "Work"⟩]), some (.ofList [])⟩] : List Pass),
      pass.today.IsCurrent := by
    refine List.forall_mem_cons.2 ⟨?_, List.forall_mem_singleton.2 ?_⟩
    · decide
    · decide
  exact @runPasses_keeps_pin
    { title := "Ring home", note := "~~// /a", dueDate := 1, tags := ["a/b\n"] }
    (by decide) (by decide) (by decide) (Text.occursIn_eq_false_iff.1 (by decide)) _ current

end TaskTitles.Engine
