import Mathlib.Data.List.Nodup
import TaskTitles.Settings.Overlay

/-!
# Tables laid over each other

What stands under a key of a table that has been laid over another one is decided key by key
(`get?_overlay`), and below a key that holds a table in either of them again name by name
(`below_laidOver`).  A value that is no table is the one of the upper table if it has one, and else
that of the lower one (`laidOver_eq_or`).
-/

namespace TaskTitles.Value

/-! ## Fields -/

theorem get?_nil (name : Text) : Fields.get? [] name = none := rfl

theorem get?_cons (key : Text) (value : Value) (fields : Fields) (name : Text) :
    Fields.get? ((key, value) :: fields) name =
      if key = name then some value else fields.get? name := by
  rw [Fields.get?, List.find?_cons]
  by_cases same : key = name
  · simp [same]
  · rw [if_neg same, beq_false_of_ne same]
    rfl

theorem get?_eq_none_iff {fields : Fields} {name : Text} :
    fields.get? name = none ↔ name ∉ fields.map (·.1) := by
  induction fields with
  | nil => exact iff_of_true rfl List.not_mem_nil
  | cons field rest ih =>
    rw [get?_cons, List.map_cons, List.mem_cons, not_or]
    split
    · next same => simp [same]
    · next other => simp [ih, Ne.symm other]

theorem get?_append (fields others : Fields) (name : Text) :
    Fields.get? (fields ++ others) name = (fields.get? name).or (others.get? name) := by
  rw [Fields.get?, List.find?_append, Option.map_or]
  rfl

/-- What stands first under a name still does once some fields are left out, if it is not among them. -/
theorem get?_filter {isKept : Text × Value → Bool} {fields : Fields} {name : Text}
    (keeps : ∀ value ∈ fields.get? name, isKept (name, value)) :
    Fields.get? (fields.filter isKept) name = fields.get? name := by
  induction fields with
  | nil => rfl
  | cons field rest ih =>
    obtain ⟨key, value⟩ := field
    rw [get?_cons] at keeps
    rw [List.filter_cons, get?_cons]
    by_cases same : key = name
    · rw [if_pos same] at keeps ⊢
      rw [same, if_pos (keeps value rfl), get?_cons, if_pos rfl]
    · rw [if_neg same] at keeps ⊢
      split
      · rw [get?_cons, if_neg same, ih keeps]
      · exact ih keeps

theorem get?_set (key : Text) (value : Value) (fields : Fields) (name : Text) :
    (fields.set key value).get? name = if key = name then some value else fields.get? name := by
  induction fields with
  | nil => rw [Fields.set, get?_cons]
  | cons field rest ih =>
    obtain ⟨k, v⟩ := field
    rw [Fields.set]
    split
    · next same => rw [get?_cons, get?_cons, same]; split <;> rfl
    · next other =>
      rw [get?_cons, get?_cons, ih]
      split
      · next here => rw [if_neg fun same => other (here.trans same.symm)]
      · rfl

theorem mem_keys_set {key name : Text} {value : Value} {fields : Fields} :
    name ∈ (fields.set key value).map (·.1) ↔ name = key ∨ name ∈ fields.map (·.1) := by
  have notThere := @get?_eq_none_iff (fields.set key value) name
  rw [get?_set] at notThere
  by_cases same : key = name
  · simp_all
  · rw [if_neg same, get?_eq_none_iff] at notThere
    rw [← not_iff_not, ← notThere, not_or]
    exact ⟨fun absent => ⟨Ne.symm same, absent⟩, And.right⟩

theorem nodup_concat {keys : List Text} {key : Text} (distinct : keys.Nodup) (new : key ∉ keys) :
    (keys ++ [key]).Nodup := by
  rw [← List.concat_eq_append]
  exact distinct.concat new

theorem nodup_set {key : Text} {value : Value} {fields : Fields}
    (distinct : (fields.map (·.1)).Nodup) : ((fields.set key value).map (·.1)).Nodup := by
  induction fields with
  | nil => exact List.nodup_singleton key
  | cons field rest ih =>
    rw [List.map_cons, List.nodup_cons] at distinct
    rw [Fields.set]
    split
    · exact List.nodup_cons.2 distinct
    · next other =>
      refine List.nodup_cons.2 ⟨fun repeated => ?_, ih distinct.2⟩
      rcases mem_keys_set.1 repeated with same | later
      · exact other same
      · exact distinct.1 later

/-! ## Overlays -/

/-- What stands under a key once the second table, which has `upper?` there, is laid over the first
    one, which has `lower?`. -/
def laidOver (lower? upper? : Option Value) : Option Value :=
  match upper? with
  | none => lower?
  | some value => some (overlayOn lower? value)

theorem get?_overlay {upper : Fields} (distinct : (upper.map (·.1)).Nodup) (lower : Fields)
    (name : Text) : (overlay lower upper).get? name = laidOver (lower.get? name) (upper.get? name) := by
  induction upper generalizing lower with
  | nil => rw [overlay]; rfl
  | cons field rest ih =>
    obtain ⟨key, value⟩ := field
    rw [List.map_cons, List.nodup_cons] at distinct
    rw [overlay, ih distinct.2, get?_cons, get?_set]
    split
    · next same =>
      -- The key does not come again.
      have last : Fields.get? rest name = none := get?_eq_none_iff.2 (same ▸ distinct.1)
      rw [last, same]
      rfl
    · rfl

theorem nodup_overlay {lower : Fields} (distinct : (lower.map (·.1)).Nodup) (upper : Fields) :
    ((overlay lower upper).map (·.1)).Nodup := by
  induction upper generalizing lower with
  | nil => rwa [overlay]
  | cons field rest ih => rw [overlay]; exact ih (nodup_set distinct)

/-! ## Tables below a key -/

variable {lower? upper? : Option Value}

/-- What stands there, if anything, is a table. -/
def IsTabular (value? : Option Value) : Prop := ∀ value ∈ value?, ∃ fields, value = table fields

/-- A table that stands there has every key once. -/
def IsKeyed (value? : Option Value) : Prop :=
  ∀ fields, value? = some (table fields) → (fields.map (·.1)).Nodup

theorem isTabular_none : IsTabular none := nofun

theorem isTabular_table (fields : Fields) : IsTabular (some (table fields)) := by
  rintro _ ⟨⟩
  exact ⟨fields, rfl⟩

theorem overlayOn_tables (below above : Fields) :
    overlayOn (some (table below)) (table above) = table (overlay below above) := by
  rw [overlayOn]

theorem overlayOn_no_table (noTable : ∀ below, lower? ≠ some (table below)) (above : Fields) :
    overlayOn lower? (table above) = table above := by
  rw [overlayOn]
  exact noTable

theorem overlayOn_of_not_table (lower? : Option Value) {value : Value}
    (single : ∀ fields, value ≠ table fields) : overlayOn lower? value = value := by
  cases value with
  | table fields => exact absurd rfl (single fields)
  | _ => rfl

/-- What is no table covers all that lies below it. -/
theorem IsTabular.of_laidOver (tabular : IsTabular (laidOver lower? upper?)) : IsTabular upper? := by
  rintro value rfl
  by_contra single
  rw [laidOver, overlayOn_of_not_table lower? (not_exists.1 single)] at tabular
  exact single (tabular value rfl)

theorem table_or_not (value? : Option Value) :
    (∃ fields, value? = some (table fields)) ∨ ∀ fields, value? ≠ some (table fields) := by
  rw [← not_exists]
  exact Classical.em _

theorem IsKeyed.laidOver (lower : IsKeyed lower?) (upper : IsKeyed upper?) :
    IsKeyed (laidOver lower? upper?) := by
  intro fields laid
  cases upper? with
  | none => exact lower fields laid
  | some value =>
    rw [Value.laidOver, Option.some.injEq] at laid
    cases value with
    | table above =>
      rcases table_or_not lower? with ⟨below, rfl⟩ | noTable
      · rw [overlayOn_tables] at laid
        cases laid
        exact nodup_overlay (lower below rfl) above
      · rw [overlayOn_no_table noTable] at laid
        cases laid
        exact upper fields rfl
    | _ => cases laid

theorem bind_field?_of_no_table (noTable : ∀ fields, lower? ≠ some (table fields)) (name : Text) :
    lower?.bind (field? name) = none := by
  cases lower? with
  | none => rfl
  | some value =>
    cases value with
    | table fields => exact absurd rfl (noTable fields)
    | _ => rfl

/-- Where the upper value is a table, names below the key are decided one by one. -/
theorem below_laidOver (tabular : IsTabular upper?) (keyed : IsKeyed upper?) (name : Text) :
    (laidOver lower? upper?).bind (field? name) =
      laidOver (lower?.bind (field? name)) (upper?.bind (field? name)) := by
  cases upper? with
  | none => rfl
  | some value =>
    obtain ⟨above, rfl⟩ := tabular value rfl
    rcases table_or_not lower? with ⟨below, rfl⟩ | noTable
    · rw [laidOver, overlayOn_tables]
      exact get?_overlay (keyed above rfl) below name
    · rw [bind_field?_of_no_table noTable, laidOver, overlayOn_no_table noTable]
      change Fields.get? above name = laidOver none (Fields.get? above name)
      cases Fields.get? above name with
      | none => rfl
      | some value =>
        rw [laidOver]
        cases value with
        | table fields => rw [overlayOn_no_table (by nofun)]
        | _ => rfl

/-- What is no table is the upper value if there is one, and else the lower value. -/
theorem laidOver_eq_or (single : ∀ fields, laidOver lower? upper? ≠ some (table fields)) :
    laidOver lower? upper? = upper?.or lower? ∧ ∀ fields, upper? ≠ some (table fields) := by
  cases upper? with
  | none => exact ⟨rfl, nofun⟩
  | some value =>
    have noTable : ∀ fields, value ≠ table fields := by
      rintro above rfl
      rcases table_or_not lower? with ⟨below, rfl⟩ | noTable
      · exact single _ (congrArg some (overlayOn_tables below above))
      · exact single above (congrArg some (overlayOn_no_table noTable above))
    refine ⟨congrArg some (overlayOn_of_not_table lower? noTable), fun fields same => ?_⟩
    exact noTable fields (Option.some.inj same)

end TaskTitles.Value
