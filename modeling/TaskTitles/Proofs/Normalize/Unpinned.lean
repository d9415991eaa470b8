import TaskTitles.Proofs.Normalize.Banners
import TaskTitles.Proofs.Normalize.Coupling
import TaskTitles.Proofs.Task.Tags

/-!
# Tasks that nobody has pinned

A task without a due date, whose title marks nothing and whose note shows no banner, has no pin when
a pass settles it.  The note says so afterwards, except where the tags make the new banner look like
one with a pin (`normalize_unpinned`).
-/

namespace TaskTitles.Engine

open Calendar Text

/-- A due date that nobody has pinned is recorded as pinned only where the tags mimic a pin, and
    there it always is, as long as the banner fits. -/
theorem normalize_unpinned {today : Date} (current : today.IsCurrent)
    (contexts folders : Option Catalog) {task : Task} (unmarked : ¬ (" /" : Text) <:+: task.title)
    (undated : task.dueDate = Timestamp.blank) (unsigned : ¬ ("~~" : Text) <:+: task.note) :
    ∃ outcome, (standard today).normalize task contexts folders = .ok outcome ∧
      (({} : Note.Codec).isPinned outcome.task.note = true → Note.Codec.MimicsPin task.tags) ∧
      ((({} : Note.Codec).encode false task.tags).length ≤ 600 →
        Note.Codec.MimicsPin task.tags →
        ({} : Note.Codec).isPinned outcome.task.note = true) := by
  obtain ⟨lowest, threshold, horizon⟩ := Almanac.exists_horizon current
  have unnoted : ({} : Note.Codec).isPinned task.note = false := by
    rw [← Bool.not_eq_true, Note.Codec.isPinned_iff Note.Codec.isPlain_default]
    intro occurs
    have signs : ("~~" : Text) <:+: ({} : Note.Codec).pinMarker := by decide
    exact unsigned (signs.trans occurs)
  -- A blank date is no actual one, so no pin is inferred.
  have inferred : (standard today).inferPin task = .ok (.unset, []) :=
    inferPin_idle horizon unnoted fun actual => by
      rw [undated] at actual
      exact Int.lt_irrefl 0 actual.1
  have opened : ¬ Title.opening [(standard today).conventions.tokens.delimiter] <:+:
      (standard today).stripReminder task.title := fun occurs =>
    unmarked (occurs.trans (stripReminder_suffix _ task.title).isInfix)
  rw [normalize_unmarked opened inferred]
  generalize described : (standard today).defaulted { task with
    title := strip ((standard today).stripReminder task.title) } = defaulted
  have sameNote : defaulted.note = task.note := by rw [← described]; rfl
  have sameTags : defaulted.tags = task.tags := by rw [← described]; rfl
  obtain ⟨context, folder, status, framed⟩ :=
    tied_frame (standard today) defaulted contexts folders
  obtain ⟨outcome, due, settled, -, stamped, -⟩ :=
    exists_settled horizon task defaulted .unset [] contexts folders
  refine ⟨outcome, settled, ?_⟩
  -- Settling leaves note and tags alone, and nothing else decides on the pin.
  have unpinned : (standard today).isPinned ((standard today).tied defaulted contexts folders)
      .unset = false := by
    rw [framed]
    change ({} : Note.Codec).isPinned defaulted.note = false
    rw [sameNote, unnoted]
  have noted : outcome.task.note = ({} : Note.Codec).truncate
      (({} : Note.Codec).reconcile task.note (({} : Note.Codec).encode false task.tags)) := by
    rw [stamped, unpinned, framed, applyBanner_eq, ← sameNote, ← sameTags]
  rw [noted]
  exact Note.Codec.isPinned_reconcile_unsigned unsigned

/-- An errand with the tag of a shop gets a note that shows the tag and no pin. -/
theorem normalize_unpinned_shop :
    ∃ outcome,
      (standard ⟨2024, 1, 15, by decide⟩).normalize { title := "Buy milk", tags := ["shop"] }
        none none = .ok outcome ∧
      ({} : Note.Codec).isPinned outcome.task.note = false := by
  have unmarked : ¬ (" /" : Text) <:+: "Buy milk" := occursIn_eq_false_iff.1 (by decide)
  obtain ⟨outcome, normalized, mimics, -⟩ := @normalize_unpinned ⟨2024, 1, 15, by decide⟩
    (by decide) none none { title := "Buy milk", tags := ["shop"] } unmarked rfl (by decide)
  refine ⟨outcome, normalized, Bool.eq_false_iff.2 fun noted => ?_⟩
  exact absurd (mimics noted) (by decide)

/-- A tag that starts with the delimiter makes the note say that the due date is pinned, although
    nobody has set one. -/
theorem normalize_pins_slash_tag :
    Tags.IsDistinct ["/x"] ∧ ¬ (" /" : Text) <:+: "Ring home" ∧ ¬ ("~~" : Text) <:+: [] ∧
      ∃ outcome,
        (standard ⟨2024, 1, 15, by decide⟩).normalize { title := "Ring home", tags := ["/x"] }
          none none = .ok outcome ∧
        ({} : Note.Codec).isPinned outcome.task.note ≠ false := by
  have normalized : (standard ⟨2024, 1, 15, by decide⟩).normalize
      { title := "Ring home", tags := ["/x"] } none none =
      .ok {
        task := {
          title := "Ring home", note := "~~//x", dueDate := 1711972800, tags := ["/x"]
          status := .nextAction }
        changed := true
        events := [.normalized 0 "Ring home"] } := by decide +kernel
  refine ⟨⟨?_, by decide⟩, occursIn_eq_false_iff.1 (by decide), by decide, _, normalized, by decide⟩
  exact List.forall_mem_singleton.2 ⟨by decide, by decide⟩

end TaskTitles.Engine
