import Mathlib.Data.List.Forall2
import Mathlib.Data.List.Nodup
import TaskTitles.Normalize.Engine
import TaskTitles.Proofs.Catalog
import TaskTitles.Snapshot.Basic

/-!
# Replacing the changed tasks

Replacing the changed tasks of a snapshot by their numbers comes to the same as replacing every task
by what it has become, as long as no number is repeated (`replaceTasks_eq`), and it replaces as many
tasks as have changed (`replacedCount_eq`).  Where numbers are repeated, a task that has not changed
is replaced together with one that has (`forall₂_replaceTasks`), and counted with it
(`replacedCount_eq_add`).
-/

namespace TaskTitles

def changedOf (outcomes : List Outcome) : List Task := (outcomes.filter (·.changed)).map (·.task)

/-- Whether a number is that of a task that has changed. -/
def isPushed (outcomes : List Outcome) (id : Int) : Bool := (changedOf outcomes).any (·.id == id)

/-- The outcomes of tasks that have not changed, but have the number of one that has. -/
def overwrittenOf (outcomes : List Outcome) : List Outcome :=
  outcomes.filter fun outcome => !outcome.changed && isPushed outcomes outcome.task.id

namespace Snapshot

theorem of_lastWithId?_eq_some {tasks : List Task} {id : Int} {task : Task}
    (found : lastWithId? id tasks = some task) : task ∈ tasks ∧ task.id = id :=
  ⟨List.mem_reverse.1 (List.mem_of_find?_eq_some found), by simpa using List.find?_some found⟩

@[simp] theorem replaceTasks_nil (snapshot : Snapshot) : snapshot.replaceTasks [] = snapshot := by
  simp [replaceTasks, lastWithId?]

theorem mem_replaceTasks {snapshot : Snapshot} {changed : List Task} {task : Task}
    (member : task ∈ (snapshot.replaceTasks changed).tasks) :
    task ∈ snapshot.tasks ∨ task ∈ changed := by
  obtain ⟨stored, inTasks, rfl⟩ := List.mem_map.1 member
  cases found : lastWithId? stored.id changed with
  | none => exact .inl inTasks
  | some other => exact .inr (of_lastWithId?_eq_some found).1

theorem isSome_lastWithId? (id : Int) (outcomes : List Outcome) :
    (lastWithId? id (changedOf outcomes)).isSome = isPushed outcomes id := by
  rw [lastWithId?, isPushed, Bool.eq_iff_iff, List.find?_isSome, List.any_eq_true]
  simp only [List.mem_reverse]

/-- Without repeated numbers it does not matter that the last task of a number is taken. -/
theorem lastWithId?_eq_some_iff {tasks : List Task} (distinct : (tasks.map (·.id)).Nodup) {id : Int}
    {task : Task} : lastWithId? id tasks = some task ↔ task ∈ tasks ∧ task.id = id := by
  refine ⟨of_lastWithId?_eq_some, ?_⟩
  rintro ⟨member, rfl⟩
  rw [lastWithId?]
  refine find?_of_mem ?_ (List.mem_reverse.2 member)
  rw [List.map_reverse]
  exact (List.reverse_perm _).nodup_iff.2 distinct

section Outcomes

variable {outcomes : List Outcome} (distinct : (outcomes.map (·.task.id)).Nodup)

include distinct

theorem nodup_changedOf : ((changedOf outcomes).map (·.id)).Nodup := by
  rw [changedOf, List.map_map]
  exact distinct.sublist (List.filter_sublist.map _)

theorem lastWithId?_changedOf {outcome : Outcome} (member : outcome ∈ outcomes) :
    lastWithId? outcome.task.id (changedOf outcomes) =
      if outcome.changed then some outcome.task else none := by
  cases changed : outcome.changed with
  | true =>
    rw [if_pos rfl, lastWithId?_eq_some_iff (nodup_changedOf distinct)]
    exact ⟨List.mem_map_of_mem (List.mem_filter.2 ⟨member, changed⟩), rfl⟩
  | false =>
    rw [if_neg Bool.false_ne_true, Option.eq_none_iff_forall_ne_some]
    intro task found
    obtain ⟨inChanged, sameId⟩ := (lastWithId?_eq_some_iff (nodup_changedOf distinct)).1 found
    obtain ⟨other, inFiltered, rfl⟩ := List.mem_map.1 inChanged
    obtain ⟨otherMember, otherChanged⟩ := List.mem_filter.1 inFiltered
    -- Another outcome of that number would repeat it.
    have same : other = outcome := List.inj_on_of_nodup_map distinct otherMember member sameId
    rw [same, changed] at otherChanged
    exact Bool.false_ne_true otherChanged

theorem overwrittenOf_eq_nil : overwrittenOf outcomes = [] := by
  rw [overwrittenOf, List.filter_eq_nil_iff]
  intro outcome member
  rw [← isSome_lastWithId?, lastWithId?_changedOf distinct member]
  cases outcome.changed <;> simp

end Outcomes

/-! ## All tasks at once -/

section Pairs

variable {snapshot : Snapshot} {outcomes : List Outcome}
  (distinct : (snapshot.tasks.map (·.id)).Nodup)
  (pairs : List.Forall₂ (fun (outcome : Outcome) (task : Task) => outcome.task.id = task.id ∧
    outcome.changed = decide (outcome.task ≠ task)) outcomes snapshot.tasks)

include pairs

theorem map_id_eq : outcomes.map (·.task.id) = snapshot.tasks.map (·.id) := by
  rw [← List.forall₂_eq_eq_eq, List.forall₂_map_left_iff, List.forall₂_map_right_iff]
  exact pairs.imp fun _ _ pair => pair.1

theorem forall₂_mem : List.Forall₂ (fun (outcome : Outcome) (task : Task) =>
    outcome ∈ outcomes ∧ outcome.task.id = task.id ∧
      outcome.changed = decide (outcome.task ≠ task)) outcomes snapshot.tasks :=
  (List.forall₂_and_left _ _).2 ⟨fun _ inside => inside, pairs⟩

/-- Every task that has changed is counted, and every one that has its number. -/
theorem replacedCount_eq_add :
    snapshot.replacedCount (changedOf outcomes) =
      (changedOf outcomes).length + (overwrittenOf outcomes).length := by
  have counted : snapshot.replacedCount (changedOf outcomes) =
      outcomes.countP fun outcome => isPushed outcomes outcome.task.id := by
    have ids := congrArg (List.countP (isPushed outcomes)) (map_id_eq pairs)
    rw [List.countP_map, List.countP_map] at ids
    simp only [replacedCount, isSome_lastWithId?]
    exact ids.symm
  -- Among the tasks that have changed all are pushed, and among the others those to be overwritten.
  have ofChanged : (outcomes.filter (·.changed)).countP
      (fun outcome => isPushed outcomes outcome.task.id) = (changedOf outcomes).length := by
    rw [changedOf, List.length_map, List.countP_eq_length]
    exact fun outcome member => List.any_eq_true.2
      ⟨outcome.task, List.mem_map_of_mem member, beq_self_eq_true _⟩
  have ofOthers : (outcomes.filter fun outcome => !outcome.changed).countP
      (fun outcome => isPushed outcomes outcome.task.id) = (overwrittenOf outcomes).length := by
    rw [List.countP_eq_length_filter, List.filter_filter, overwrittenOf]
    simp only [Bool.and_comm]
  rw [counted, List.countP_eq_countP_filter_add _ _ (·.changed), ofChanged, ofOthers]

/-- A task that has not changed stays as it is, unless one of its number has changed: then it is
    overwritten with such a task. -/
theorem forall₂_replaceTasks :
    List.Forall₂ (fun (outcome : Outcome) (task : Task) => outcome.changed = false →
      (outcome ∉ overwrittenOf outcomes → task = outcome.task) ∧
      (outcome ∈ overwrittenOf outcomes →
        task ∈ changedOf outcomes ∧ task.id = outcome.task.id))
      outcomes (snapshot.replaceTasks (changedOf outcomes)).tasks := by
  rw [replaceTasks, List.forall₂_map_right_iff]
  apply (forall₂_mem pairs).imp
  rintro outcome task ⟨member, sameId, changed⟩ unchanged
  have same : outcome.task = task := by simpa [unchanged] using changed
  have overwritten : outcome ∈ overwrittenOf outcomes ↔
      (lastWithId? outcome.task.id (changedOf outcomes)).isSome = true := by
    rw [overwrittenOf, List.mem_filter, unchanged, isSome_lastWithId?]
    simp [member]
  rw [overwritten, ← sameId]
  cases found : lastWithId? outcome.task.id (changedOf outcomes) with
  | none => exact ⟨fun _ => same.symm, fun pushed => absurd pushed Bool.false_ne_true⟩
  | some other => exact ⟨fun alone => absurd rfl alone, fun _ => of_lastWithId?_eq_some found⟩

theorem length_add_length_le :
    (changedOf outcomes).length + (overwrittenOf outcomes).length ≤ snapshot.tasks.length := by
  rw [← replacedCount_eq_add pairs]
  exact List.countP_le_length

/-! ## Distinct numbers -/

include distinct

theorem nodup_outcomes : (outcomes.map (·.task.id)).Nodup := by
  rwa [map_id_eq pairs]

/-- Replacing the changed tasks replaces every task by what it has become. -/
theorem replaceTasks_eq : snapshot.replaceTasks (changedOf outcomes) =
    { snapshot with tasks := outcomes.map (·.task) } := by
  have stored : List.Forall₂ (fun (outcome : Outcome) (task : Task) =>
      (lastWithId? task.id (changedOf outcomes)).getD task = outcome.task)
      outcomes snapshot.tasks := by
    apply (forall₂_mem pairs).imp
    rintro outcome task ⟨member, sameId, changed⟩
    rw [← sameId, lastWithId?_changedOf (nodup_outcomes distinct pairs) member]
    cases isChanged : outcome.changed with
    | true => rfl
    | false =>
      have same : outcome.task = task := by simpa [isChanged] using changed
      exact same.symm
  rw [replaceTasks]
  congr 1
  rw [← List.forall₂_eq_eq_eq, List.forall₂_map_left_iff, List.forall₂_map_right_iff]
  exact stored.flip

theorem replacedCount_eq :
    snapshot.replacedCount (changedOf outcomes) = (changedOf outcomes).length := by
  rw [replacedCount_eq_add pairs, overwrittenOf_eq_nil (nodup_outcomes distinct pairs)]
  rfl

end Pairs

end Snapshot

end TaskTitles
