import TaskTitles.Catalog
import TaskTitles.Proofs.Text.Search

/-!
# Lookups in catalogs

A catalog is looked up in five ways: by number and by exact name through its indexes, and by the
start of a name, by a name with or without its code and by a code in a scan.  Each of them is a
search with a test of its own (`exists_test`).  So each answers the first entry that matches, also
where numbers and names are repeated, and what is put behind a catalog is asked only where nothing
in front of it matches (`Catalog.lookUp?_first`).
-/

namespace TaskTitles

open Text

/-! ## First matches -/

/-- The answer is the first entry that matches, or none where no entry does. -/
def IsFirstMatch {α : Type} (isMatch : α → Prop) (entries : List α) : Option α → Prop
  | none => ∀ entry ∈ entries, ¬ isMatch entry
  | some found =>
    isMatch found ∧ ∃ before after, entries = before ++ found :: after ∧
      ∀ earlier ∈ before, ¬ isMatch earlier

/-- A scan answers the first match of what its test decides. -/
theorem find?_eq_iff_isFirstMatch {α : Type} {isMatch : α → Prop} {test : α → Bool}
    (decides : ∀ entry, test entry = true ↔ isMatch entry) {entries : List α} {answer : Option α} :
    entries.find? test = answer ↔ IsFirstMatch isMatch entries answer := by
  cases answer with
  | none => simp only [List.find?_eq_none, IsFirstMatch, decides]
  | some found =>
    simp only [List.find?_eq_some_iff_append, IsFirstMatch, ← decides, Bool.not_eq_true,
      Bool.not_eq_true']

/-! ## Names and codes -/

namespace Context

/-- The name is a code, a blank and the rest.  The code is not empty and ends at the first blank. -/
def IsCoded (c : Context) (rest : Text) : Prop :=
  ∃ code ≠ [], ' ' ∉ code ∧ c.name = code ++ ' ' :: rest

variable {c : Context}

theorem bareName_of_isCoded {rest : Text} (coded : c.IsCoded rest) : c.bareName = strip rest := by
  obtain ⟨code, nonempty, noBlank, whole⟩ := coded
  have cut : cut? " " c.name = some (code, rest) := cut?_singleton_eq_some_iff.2 ⟨whole, noBlank⟩
  obtain ⟨first, others, rfl⟩ := List.exists_cons_of_ne_nil nonempty
  rw [bareName, cut]

theorem bareName_eq_name (uncoded : ∀ rest, ¬ c.IsCoded rest) : c.bareName = c.name := by
  rw [bareName]
  split
  · next first others rest cut =>
    obtain ⟨whole, noBlank⟩ := cut?_singleton_eq_some_iff.1 cut
    exact absurd ⟨first :: others, List.cons_ne_nil first others, noBlank, whole⟩ (uncoded rest)
  · rfl

/-- What holds of the bare name holds of the rest behind a code, or of the whole name. -/
theorem bareName_iff (holds : Text → Prop) :
    holds c.name ∨ holds c.bareName ↔
      holds c.name ∨ ∃ rest, c.IsCoded rest ∧ holds (strip rest) := by
  by_cases hasCode : ∃ rest, c.IsCoded rest
  · obtain ⟨rest, coded⟩ := hasCode
    refine or_congr_right ⟨fun held => ⟨rest, coded, bareName_of_isCoded coded ▸ held⟩, ?_⟩
    rintro ⟨other, otherCoded, held⟩
    rwa [bareName_of_isCoded otherCoded]
  · have uncoded : ∀ rest, ¬ c.IsCoded rest := not_exists.1 hasCode
    have never : ¬ ∃ rest, c.IsCoded rest ∧ holds (strip rest) :=
      fun ⟨rest, coded, _⟩ => uncoded rest coded
    rw [bareName_eq_name uncoded, or_self, or_iff_left never]

end Context

/-! ## The five lookups -/

namespace Catalog

/-- What an entry of a catalog is looked up by. -/
inductive Key where
  | id (id : Int)
  | name (name : Text)
  | start (start : Text)
  | bareName (name : Text)
  | code (code : Text)

/-- Which entries a lookup is for.  Of a start as many characters count as it has, and names are
    compared without their codes as well as with them. -/
def Key.Matches : Key → Context → Prop
  | .id n, c => c.id = n
  | .name t, c => c.name = t
  | .start t, c => lower (c.name.take t.length) = lower t
  | .bareName t, c => lower c.name = lower t ∨ ∃ rest, c.IsCoded rest ∧ lower (strip rest) = lower t
  | .code t, c => ∃ rest : Text, c.name = t ++ " - " ++ rest

/-- The answer of the lookup for what is looked up. -/
def lookUp? (catalog : Catalog) : Key → Option Context
  | .id id => catalog.findById? id
  | .name name => catalog.findByName? name
  | .start start => catalog.findByStart? start
  | .bareName name => catalog.findByBareName? name
  | .code code => catalog.findByCode? code

/-- Every lookup is a scan with a test, also the ones that go through an index. -/
theorem exists_test (key : Key) :
    ∃ test : Context → Bool, (∀ entry, test entry = true ↔ key.Matches entry) ∧
      ∀ catalog : Catalog, catalog.lookUp? key = catalog.entries.find? test := by
  cases key with
  | id id => exact ⟨_, fun _ => beq_iff_eq, fun catalog => catalog.findById?_eq id⟩
  | name name => exact ⟨_, fun _ => beq_iff_eq, fun catalog => catalog.findByName?_eq name⟩
  | start start => exact ⟨_, fun _ => beq_iff_eq, fun _ => rfl⟩
  | bareName name =>
    refine ⟨_, fun entry => ?_, fun _ => rfl⟩
    rw [Bool.or_eq_true, beq_iff_eq, beq_iff_eq]
    exact Context.bareName_iff fun t => lower t = lower name
  | code code =>
    refine ⟨_, fun entry => ?_, fun _ => rfl⟩
    rw [startsWith_iff]
    exact exists_congr fun _ => eq_comm

/-- Every lookup answers the first match in the order of the entries, whether numbers and names are
    repeated or not.  Behind the entries of a catalog, others are asked where none of them
    matches. -/
theorem lookUp?_first (entries : List Context) :
    (∀ id, (ofList entries).findById? id = entries.find? (·.id == id)) ∧
      (∀ name, (ofList entries).findByName? name = entries.find? (·.name == name)) ∧
      ∀ key, (∀ answer,
          (ofList entries).lookUp? key = answer ↔ IsFirstMatch key.Matches entries answer) ∧
        ∀ more, (ofList (entries ++ more)).lookUp? key =
          ((ofList entries).lookUp? key).or ((ofList more).lookUp? key) := by
  refine ⟨fun id => findById?_eq _ id, fun name => findByName?_eq _ name, fun key => ?_⟩
  obtain ⟨test, decides, scans⟩ := exists_test key
  constructor
  · intro answer
    rw [scans, entries_ofList]
    exact find?_eq_iff_isFirstMatch decides
  · intro more
    simp only [scans, entries_ofList]
    exact List.find?_append

/-- A name with a code goes before the same name without one, if its entry does. -/
example : (ofList [⟨1, "p3. Geek"⟩, ⟨2, "geek"⟩]).lookUp? (.bareName "GEEK") =
    some ⟨1, "p3. Geek"⟩ := by decide

end Catalog

end TaskTitles
