import TaskTitles.Proofs.Normalize.Stages

/-!
# Tying the status reaches a fixed point

No title is both that of a waiting task and that of a reference, so tying the status to the title a
second time changes nothing (`isTied_applyTitleStatus`).  Of the note it matters only whether one of
the project markers stands in it (`IsTied.congr`).
-/

namespace TaskTitles.Engine

open Calendar Text

variable {today : Date} {task : Task}

/-! ## Projects -/

def marksProject (engine : Engine) (note : Text) : Bool :=
  engine.conventions.markers.projectNoteMarkers.any fun marker => occursIn marker note

theorem projectNoteMarkers_ends :
    ∀ marker ∈ Conventions.standard.markers.projectNoteMarkers,
      StartsVisible marker ∧ EndsVisible marker := by decide

theorem marksProject_congr {note other : Text}
    (same : ∀ marker ∈ Conventions.standard.markers.projectNoteMarkers,
      (marker <:+: other ↔ marker <:+: note)) :
    (standard today).marksProject other = (standard today).marksProject note := by
  rw [Bool.eq_iff_iff, marksProject, marksProject, List.any_eq_true, List.any_eq_true]
  refine exists_congr fun marker => and_congr_right fun member => ?_
  rw [occursIn_iff, occursIn_iff]
  exact same marker member

theorem marksProject_strip (today : Date) (note : Text) :
    (standard today).marksProject (strip note) = (standard today).marksProject note := by
  apply marksProject_congr
  intro marker member
  obtain ⟨starts, ends⟩ := projectNoteMarkers_ends marker member
  exact infix_strip_iff starts ends

theorem isProject_congr {other : Task} (children : other.children = task.children)
    (tags : other.tags = task.tags)
    (marked : (standard today).marksProject other.note = (standard today).marksProject task.note) :
    (standard today).isProject other = (standard today).isProject task := by
  have noted := (marksProject_strip today other.note).trans
    (marked.trans (marksProject_strip today task.note).symm)
  rw [marksProject, marksProject] at noted
  rw [isProject, isProject, noted, children, Task.tagText, Task.tagText, tags]

/-! ## Statuses -/

/-- The status of a task, by what it is and what its title says. -/
def tiedStatus (project waiting reference : Bool) (status : Status) : Status :=
  let status := if status ≠ .hold ∧ !project then tie .waiting .nextAction waiting status else status
  if status ≠ .hold then tie .reference .nextAction reference status else status

theorem tiedStatus_tiedStatus {project waiting reference : Bool}
    (exclusive : (waiting && reference) = false) (status : Status) :
    tiedStatus project waiting reference (tiedStatus project waiting reference status) =
      tiedStatus project waiting reference status := by
  -- Finitely many statuses and kinds of titles are left to look at.
  revert project waiting reference
  cases status <;> decide

theorem tiedStatus_ne_none (project waiting reference : Bool) {status : Status}
    (known : status ≠ .none) : tiedStatus project waiting reference status ≠ .none := by
  revert project waiting reference
  cases status <;> first | contradiction | decide

theorem applyTitleStatus_eq (task : Task) :
    (standard today).applyTitleStatus task =
      { task with
        status := tiedStatus ((standard today).isProject task)
          ((standard today).isWaitingTitle task.title)
          ((standard today).isReferenceTitle task.title) task.status } := rfl

theorem waiting_and_reference (title : Text) :
    ((standard today).isWaitingTitle title && (standard today).isReferenceTitle title) = false := by
  cases title with
  | nil => rfl
  | cons c cs =>
    -- A title with a dot in front is not waiting, and no other one is a reference.
    by_cases dot : '.' = c
    · subst dot
      rfl
    · have other : (standard today).isReferenceTitle (c :: cs) = false :=
        startsWith_eq_false_iff.2 fun lead => dot (List.cons_prefix_cons.1 lead).1
      rw [other, Bool.and_false]

def IsTied (engine : Engine) (task : Task) : Prop := engine.applyTitleStatus task = task

theorem isTied_applyTitleStatus (task : Task) :
    (standard today).IsTied ((standard today).applyTitleStatus task) := by
  have same : (standard today).isProject ((standard today).applyTitleStatus task) =
      (standard today).isProject task := isProject_congr rfl rfl rfl
  rw [IsTied, applyTitleStatus_eq, same, applyTitleStatus_eq]
  dsimp only
  rw [tiedStatus_tiedStatus (waiting_and_reference task.title)]

/-- Dates do not matter for tying the status, and notes only as far as they mark projects. -/
theorem IsTied.congr (tied : (standard today).IsTied task) {note : Text} (due : Timestamp)
    (marked : (standard today).marksProject note = (standard today).marksProject task.note) :
    (standard today).IsTied { task with note, dueDate := due } := by
  have same : (standard today).isProject { task with note, dueDate := due } =
      (standard today).isProject task := isProject_congr rfl rfl marked
  have status := congrArg Task.status tied
  rw [applyTitleStatus_eq] at status
  rw [IsTied, applyTitleStatus_eq, same]
  dsimp only at status ⊢
  rw [status]

theorem status_applyTitleStatus_ne_none (known : task.status ≠ .none) :
    ((standard today).applyTitleStatus task).status ≠ .none := by
  rw [applyTitleStatus_eq]
  exact tiedStatus_ne_none _ _ _ known

end TaskTitles.Engine
