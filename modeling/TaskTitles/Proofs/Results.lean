import Mathlib.Data.List.Forall2

/-!
# Computations that succeed

What a composed computation needs to come to a result: its steps have come to results.
-/

namespace TaskTitles

variable {ε α β : Type}

/-- Whether a computation fails for that cause. -/
instance decidableEqError [DecidableEq ε] (cause : ε) :
    (x : Except ε α) → Decidable (x = .error cause)
  | .error other => decidable_of_iff (other = cause) ⟨congrArg _, Except.error.inj⟩
  | .ok _ => isFalse nofun

theorem ok_bind (a : α) (f : α → Except ε β) : (Except.ok a >>= f) = f a := rfl

theorem exists_of_bind_eq_ok {x : Except ε α} {f : α → Except ε β} {b : β}
    (result : x >>= f = .ok b) : ∃ a, x = .ok a ∧ f a = .ok b := by
  cases x with
  | error cause => cases result
  | ok a => exact ⟨a, rfl, result⟩

theorem exists_of_map_eq_ok {f : α → β} {x : Except ε α} {b : β}
    (result : x.map f = .ok b) : ∃ a, x = .ok a ∧ f a = b := by
  cases x with
  | error cause => cases result
  | ok a => exact ⟨a, rfl, Except.ok.inj result⟩

theorem mapError_eq_ok_iff {ε' : Type} {rename : ε → ε'} {x : Except ε α} {a : α} :
    x.mapError rename = .ok a ↔ x = .ok a := by
  cases x with
  | error cause => exact iff_of_false nofun nofun
  | ok b =>
    constructor <;> intro same <;> exact congrArg _ (Except.ok.inj same)

theorem forall₂_of_mapM_eq_ok {f : α → Except ε β} {items : List α} {results : List β}
    (computed : items.mapM f = .ok results) :
    List.Forall₂ (fun result item => f item = .ok result) results items := by
  induction items generalizing results with
  | nil =>
    cases computed
    exact .nil
  | cons item rest ih =>
    rw [List.mapM_cons] at computed
    obtain ⟨result, first, computed⟩ := exists_of_bind_eq_ok computed
    obtain ⟨others, later, same⟩ := exists_of_bind_eq_ok computed
    rw [← Except.ok.inj same]
    exact .cons first (ih later)

theorem exists_of_mem_mapM {f : α → Except ε β} {items : List α} {results : List β}
    (computed : items.mapM f = .ok results) {result : β} (member : result ∈ results) :
    ∃ item ∈ items, f item = .ok result := by
  have pairs := forall₂_of_mapM_eq_ok computed
  clear computed
  induction pairs with
  | nil => exact absurd member List.not_mem_nil
  | @cons first item _ items computed _ ih =>
    rcases List.mem_cons.1 member with rfl | later
    · exact ⟨item, List.mem_cons_self, computed⟩
    · obtain ⟨other, inItems, computed⟩ := ih later
      exact ⟨other, List.mem_cons_of_mem item inItems, computed⟩

/-- Steps that all come to results of a kind come to a list of such results. -/
theorem exists_mapM_eq_ok {f : α → Except ε β} {items : List α} {isOfKind : β → Prop}
    (succeed : ∀ item ∈ items, ∃ result, f item = .ok result ∧ isOfKind result) :
    ∃ results, items.mapM f = .ok results ∧ ∀ result ∈ results, isOfKind result := by
  induction items with
  | nil => exact ⟨[], rfl, List.forall_mem_nil _⟩
  | cons item rest ih =>
    obtain ⟨first, later⟩ := List.forall_mem_cons.1 succeed
    obtain ⟨result, computed, ofKind⟩ := first
    obtain ⟨others, othersComputed, othersOfKind⟩ := ih later
    refine ⟨result :: others, ?_, List.forall_mem_cons.2 ⟨ofKind, othersOfKind⟩⟩
    rw [List.mapM_cons, computed, ok_bind, othersComputed, ok_bind]
    rfl

/-- A run of steps ends where it starts if every step leads back there. -/
theorem foldlM_eq_ok_self {step : β → α → Except ε β} {items : List α} {b : β}
    (stays : ∀ item ∈ items, step b item = .ok b) : items.foldlM step b = .ok b := by
  induction items with
  | nil => rfl
  | cons item rest ih =>
    obtain ⟨first, later⟩ := List.forall_mem_cons.1 stays
    rw [List.foldlM_cons, first, ok_bind]
    exact ih later

end TaskTitles
