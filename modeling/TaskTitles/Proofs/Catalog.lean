import TaskTitles.Catalog

/-!
# Numbers that are not repeated

Where no number is repeated, an entry is what is found under its number (`find?_of_mem`).
-/

namespace TaskTitles

/-- Where every key stands once, an entry is the first one with its key. -/
theorem find?_of_mem {α κ : Type} [BEq κ] [LawfulBEq κ] {key : α → κ} {entries : List α}
    (distinct : (entries.map key).Nodup) {entry : α} (member : entry ∈ entries) :
    entries.find? (key · == key entry) = some entry := by
  induction entries with
  | nil => simp at member
  | cons first rest ih =>
    rw [List.map_cons, List.nodup_cons] at distinct
    rcases List.mem_cons.1 member with rfl | later
    · simp
    · -- An entry before it has another key, or its key would be repeated.
      have other : ¬ key first = key entry := fun equal =>
        distinct.1 (equal ▸ List.mem_map_of_mem later)
      rw [List.find?_cons_of_neg (by simpa using other)]
      exact ih distinct.2 later

namespace Catalog

/-- No two entries of the catalog have the same number. -/
def HasDistinctIds (catalog : Catalog) : Prop := (catalog.entries.map (·.id)).Nodup

theorem mem_of_findByName? {catalog : Catalog} {name : Text} {entry : Context}
    (found : catalog.findByName? name = some entry) : entry ∈ catalog.entries := by
  rw [findByName?_eq] at found
  exact List.mem_of_find?_eq_some found

/-- Where a name is in the catalog, an entry with that name is found. -/
theorem exists_findByName? {catalog : Catalog} {name : Text}
    (known : ∃ entry ∈ catalog.entries, entry.name = name) :
    ∃ entry, catalog.findByName? name = some entry ∧ entry.name = name := by
  obtain ⟨entry, member, named⟩ := known
  have isFound : (catalog.entries.find? (·.name == name)).isSome = true :=
    List.find?_isSome.2 ⟨entry, member, beq_iff_eq.2 named⟩
  obtain ⟨first, found⟩ := Option.isSome_iff_exists.1 isFound
  refine ⟨first, (catalog.findByName?_eq name).trans found, ?_⟩
  simpa using List.find?_some found

/-- An entry that is found by name has that name, and is found by its number. -/
theorem HasDistinctIds.findByName? {catalog : Catalog} (distinct : catalog.HasDistinctIds)
    {name : Text} {entry : Context} (found : catalog.findByName? name = some entry) :
    entry.name = name ∧ catalog.findById? entry.id = some entry := by
  rw [findByName?_eq] at found
  refine ⟨by simpa using List.find?_some found, ?_⟩
  rw [findById?_eq]
  exact find?_of_mem distinct (List.mem_of_find?_eq_some found)

end Catalog

end TaskTitles
