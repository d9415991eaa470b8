import Mathlib.Data.List.Forall2
import TaskTitles.Proofs.Catalog
import TaskTitles.Proofs.Validation.Records
import TaskTitles.Report.Shape

/-!
# Data in its shape

Data whose fields stand in the order of the rules of a shape, each in its settled form and under a
name of its own, passes the check of the shape and is not changed by it (`closedRecord_eq`).  A
record that keeps other fields may have them behind those of the rules (`openRecord_eq`).
-/

namespace TaskTitles.Report.Shape

open Validation

/-- The field is the one that the rule asks for, and its value is in its settled form. -/
def FieldRule.Accepts (rule : FieldRule) (field : Text × Value) : Prop :=
  rule.1 = field.1 ∧ rule.2 field.2 = .valid field.2

/-- The fields are those of the rules, in their order. -/
abbrev Follow (rules : List FieldRule) (fields : Value.Fields) : Prop :=
  List.Forall₂ FieldRule.Accepts rules fields

/-! ## Fields -/

theorem accepts_integer (name : Text) (n : Int) : (integerField name).Accepts (name, .int n) :=
  ⟨rfl, rfl⟩

theorem accepts_bool (name : Text) (b : Bool) : (boolField name).Accepts (name, .bool b) :=
  ⟨rfl, rfl⟩

theorem accepts_text (name t : Text) : (textField name).Accepts (name, .text t) := ⟨rfl, rfl⟩

theorem accepts_nullable (name : Text) (t? : Option Text) :
    (nullableField name).Accepts (name, .ofText? t?) := by
  cases t? <;> exact ⟨rfl, rfl⟩

theorem accepts_texts (name : Text) (ts : List Text) :
    (textsField name).Accepts (name, .ofTexts ts) := by
  have valid : listOf text (.ofTexts ts) = .valid ts := listOf_map fun _ _ => rfl
  refine ⟨rfl, ?_⟩
  rw [textsField]
  dsimp only
  rw [valid]
  rfl

theorem accepts_nested {check : Value → Checked Value} {value : Value} (name : Text)
    (valid : check value = .valid value) : (nestedField name check).Accepts (name, value) :=
  ⟨rfl, valid⟩

/-! ## Records -/

variable {rules : List FieldRule} {fields : Value.Fields}

theorem Follow.names_eq (follow : Follow rules fields) : rules.map (·.1) = fields.map (·.1) := by
  induction follow with
  | nil => rfl
  | cons first _ ih => rw [List.map_cons, List.map_cons, first.1, ih]

theorem get?_of_mem (distinct : (fields.map (·.1)).Nodup) {field : Text × Value}
    (member : field ∈ fields) : fields.get? field.1 = some field.2 := by
  rw [Value.Fields.get?, find?_of_mem distinct member]
  rfl

/-- Each rule finds its field among all fields, wherever it stands there. -/
theorem settleFields_eq {all : Value.Fields} (follow : Follow rules fields)
    (found : ∀ field ∈ fields, all.get? field.1 = some field.2) :
    settleFields all rules = .valid fields := by
  induction follow with
  | nil => rfl
  | @cons rule field rules fields first _ ih =>
    obtain ⟨foundFirst, foundLater⟩ := List.forall_mem_cons.1 found
    obtain ⟨name, check⟩ := rule
    obtain ⟨rfl, valid⟩ := first
    rw [settleFields, fieldOf_eq_valid none foundFirst valid, ih foundLater]
    rfl

theorem closedRecord_eq (follow : Follow rules fields) (distinct : (rules.map (·.1)).Nodup) :
    closedRecord rules (.table fields) = .valid (.table fields) := by
  rw [follow.names_eq] at distinct
  rw [closedRecord, recordOf, settleFields_eq follow fun _ => get?_of_mem distinct]
  rfl

theorem openRecord_eq (others : Value.Fields) (follow : Follow rules fields)
    (distinct : ((fields ++ others).map (·.1)).Nodup) :
    openRecord rules (.table (fields ++ others)) = .valid (.table (fields ++ others)) := by
  have settled : settleFields (fields ++ others) rules = .valid fields :=
    settleFields_eq follow fun field member =>
      get?_of_mem distinct (List.mem_append_left others member)
  have isKnown (name : Text) : rules.any (·.1 == name) = true ↔ name ∈ fields.map (·.1) := by
    rw [← follow.names_eq, List.any_eq_true, List.mem_map]
    simp only [beq_iff_eq]
  -- The fields of the rules are not kept twice, and of the others each is kept.
  have dropped : fields.filter (fun field => !rules.any (·.1 == field.1)) = [] := by
    refine List.filter_eq_nil_iff.2 fun field member => ?_
    rw [(isKnown field.1).2 (List.mem_map_of_mem member)]
    exact Bool.false_ne_true
  have kept : others.filter (fun field => !rules.any (·.1 == field.1)) = others := by
    refine List.filter_eq_self.2 fun field member => ?_
    rw [List.map_append, List.nodup_append] at distinct
    have unknown : ¬ rules.any (·.1 == field.1) = true := fun known =>
      distinct.2.2 _ ((isKnown field.1).1 known) _ (List.mem_map_of_mem member) rfl
    rw [Bool.not_eq_true] at unknown
    rw [unknown]
    rfl
  rw [openRecord, recordOf, settled, Checked.map, List.filter_append, dropped, kept,
    List.nil_append]

end TaskTitles.Report.Shape
