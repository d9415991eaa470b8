import TaskTitles.Proofs.Normalize.Stages
import TaskTitles.Proofs.Note.Reconciling

/-!
# The banner of a task

A pass writes the pin of the task and its tags into the note.  A pin is there to be read afterwards
(`isPinned_applyBanner`), a missing one is not read by accident (`not_isPinned_applyBanner`), and
writing the same banner again changes nothing (`applyBanner_applyBanner`).
-/

namespace TaskTitles.Engine

open Calendar Text

theorem applyBanner_eq (today : Date) (task : Task) (pinned : Bool) :
    (standard today).applyBanner task pinned =
      { task with
        note := ({} : Note.Codec).truncate
          (({} : Note.Codec).reconcile task.note (({} : Note.Codec).encode pinned task.tags)) } := rfl

/-- In a note whose banners stand at its head, a banner without line breaks is written once. -/
theorem applyBanner_applyBanner {today : Date} {task : Task} {pinned : Bool}
    (fits : task.note.length ≤ 600) (orderly : ({} : Note.Codec).IsOrderly task.note)
    (unbroken : ∀ tag ∈ task.tags, Unbroken tag) :
    (standard today).applyBanner ((standard today).applyBanner task pinned) pinned =
      (standard today).applyBanner task pinned := by
  have plain := Note.Codec.isPlain_default
  have limited : 0 ≤ ({} : Note.Codec).maxLength := by decide
  rw [applyBanner_eq, applyBanner_eq]
  congr 1
  dsimp only
  by_cases empty : ({} : Note.Codec).encode pinned task.tags = []
  · rw [empty, Note.Codec.reconcile_nil, Note.Codec.truncate_truncate limited]
    -- A banner start in the note would have to come from the empty banner.
    intro occurs
    have inNothing : ({} : Note.Codec).bannerStart <:+: [] :=
      Note.Codec.infix_of_reconcile plain limited (Note.Codec.bannerStart_visible plain)
        List.infix_rfl orderly occurs
    exact Note.Codec.bannerStart_ne_nil plain (List.infix_nil.1 inNothing)
  · exact Note.Codec.truncate_reconcile_reconcile plain limited
      (Note.Codec.isBanner_encode plain empty)
      (Note.Codec.unbroken_encode plain (Note.Codec.unbroken_labels unbroken)) fits

theorem isPinned_applyBanner {today : Date} {task : Task} (fits : task.note.length ≤ 600) :
    ({} : Note.Codec).isPinned ((standard today).applyBanner task true).note = true :=
  Note.Codec.isPinned_reconcile Note.Codec.isPlain_default (by decide) (by decide) fits task.tags

/-- A banner without a pin leaves none in a note whose banners stand at its head, unless a tag holds
    the delimiter. -/
theorem not_isPinned_applyBanner {today : Date} {task : Task}
    (orderly : ({} : Note.Codec).IsOrderly task.note) (unmarked : ∀ tag ∈ task.tags, '/' ∉ tag) :
    ({} : Note.Codec).isPinned ((standard today).applyBanner task false).note = false := by
  have plain := Note.Codec.isPlain_default
  rw [← Bool.not_eq_true, Note.Codec.isPinned_iff plain]
  intro occurs
  exact Note.Codec.not_pinMarker_infix_encode_false unmarked
    (Note.Codec.infix_of_reconcile plain (by decide) (Note.Codec.pinMarker_visible plain)
      (Note.Codec.bannerStart_prefix_pinMarker _).isInfix orderly occurs)

end TaskTitles.Engine
