import TaskTitles.Proofs.Normalize.Allotment

/-!
# Modifiers in another order

Where no two words of a title pass the same test, a category takes the same word in whatever order
the words stand, and leaves the same words over.  So the order of the modifiers decides on nothing
but the order of the tags that they add (`applyModifiers_perm`).  Two words that are the same but for
white space around them are one tag, and then the order decides on its spelling.
-/

namespace TaskTitles.Engine

/-! ## Words that are told apart -/

/-- Some words of a title in two orders.  No two of them are the same as tags, and no two pass the
    same test of a category. -/
structure IsReordering (engine : Engine) (contexts folders : Option Catalog)
    (title words others : List Text) : Prop where
  subset : words ⊆ title
  perm : words.Perm others
  distinct : (words.map Tags.key).Nodup
  single (category : Category) : ∀ test ∈ category.tests engine contexts folders,
    ∀ a ∈ words, ∀ b ∈ words, test a = true → test b = true → a = b

section Steps

variable {engine : Engine} {contexts folders : Option Catalog} {title words others : List Text}

theorem IsReordering.filter (reordering : IsReordering engine contexts folders title words others)
    (keep : Text → Bool) : IsReordering engine contexts folders title (words.filter keep)
      (others.filter keep) where
  subset := fun _ member => reordering.subset (List.mem_of_mem_filter member)
  perm := reordering.perm.filter keep
  distinct := reordering.distinct.sublist (List.filter_sublist.map Tags.key)
  single category test isTest a inWords b inWordsToo := reordering.single category test isTest
    a (List.mem_of_mem_filter inWords) b (List.mem_of_mem_filter inWordsToo)

theorem IsReordering.symm (reordering : IsReordering engine contexts folders title words others) :
    IsReordering engine contexts folders title others words where
  subset := fun _ member => reordering.subset (reordering.perm.mem_iff.2 member)
  perm := reordering.perm.symm
  distinct := (reordering.perm.map Tags.key).nodup_iff.1 reordering.distinct
  single category test isTest a inOthers b inOthersToo := reordering.single category test isTest
    a (reordering.perm.mem_iff.2 inOthers) b (reordering.perm.mem_iff.2 inOthersToo)

section First

variable {α : Type} {accept : Text → Option α}
  (single : ∀ a ∈ words, ∀ b ∈ words, (accept a).isSome = true → (accept b).isSome = true → a = b)

include single

/-- A word that is taken from distinct words is filtered out of them. -/
theorem takeFirst_eq_filter (nodup : words.Nodup) :
    takeFirst accept words =
      (words.findSome? accept, words.filter fun word => (accept word).isNone) := by
  induction words with
  | nil => rfl
  | cons word rest ih =>
    obtain ⟨fresh, restNodup⟩ := List.nodup_cons.1 nodup
    cases accepted : accept word with
    | some found =>
      have untouched : rest.filter (fun word => (accept word).isNone) = rest := by
        rw [List.filter_eq_self]
        intro other inRest
        by_contra known
        have same : word = other := single word List.mem_cons_self other
          (List.mem_cons_of_mem word inRest) (by simp [accepted])
            (by simpa [Option.isSome_iff_ne_none] using known)
        exact fresh (same ▸ inRest)
      simp [takeFirst, accepted, untouched]
    | none =>
      have taken := ih (fun a inRest b inRestToo =>
        single a (List.mem_cons_of_mem word inRest) b (List.mem_cons_of_mem word inRestToo)) restNodup
      simp [takeFirst, accepted, taken]

theorem findSome?_eq_some_iff {found : α} :
    words.findSome? accept = some found ↔ ∃ word ∈ words, accept word = some found := by
  constructor
  · exact List.exists_of_findSome?_eq_some
  · rintro ⟨word, member, accepted⟩
    cases first : words.findSome? accept with
    | none => exact absurd accepted (by simp [List.findSome?_eq_none_iff.1 first word member])
    | some other =>
      obtain ⟨word', member', accepted'⟩ := List.exists_of_findSome?_eq_some first
      have same : word = word' :=
        single word member word' member' (by simp [accepted]) (by simp [accepted'])
      rw [← accepted, ← accepted', same]

theorem findSome?_eq_of_perm
    (otherSingle : ∀ a ∈ others, ∀ b ∈ others,
      (accept a).isSome = true → (accept b).isSome = true → a = b) (perm : words.Perm others) :
    words.findSome? accept = others.findSome? accept := by
  apply Option.ext
  intro found
  rw [findSome?_eq_some_iff single, findSome?_eq_some_iff otherSingle]
  simp only [perm.mem_iff]

end First

/-! ## One step in both orders -/

theorem IsReordering.exists_takeFirst
    (reordering : IsReordering engine contexts folders title words others) (category : Category)
    {α : Type} {accept : Text → Option α}
    (known : (fun word => (accept word).isSome) ∈ category.tests engine contexts folders) :
    ∃ found left otherLeft, takeFirst accept words = (found, left) ∧
      takeFirst accept others = (found, otherLeft) ∧
      IsReordering engine contexts folders title left otherLeft := by
  have single := reordering.single category _ known
  have otherSingle := reordering.symm.single category _ known
  refine ⟨words.findSome? accept, words.filter fun word => (accept word).isNone,
    others.filter fun word => (accept word).isNone, ?_, ?_, reordering.filter _⟩
  · exact takeFirst_eq_filter single (.of_map Tags.key reordering.distinct)
  · rw [takeFirst_eq_filter otherSingle (.of_map Tags.key reordering.symm.distinct),
      findSome?_eq_of_perm single otherSingle reordering.perm]

theorem IsReordering.exists_takeLiteral
    (reordering : IsReordering engine contexts folders title words others) (category : Category)
    {literal : Text} (known : (· == literal) ∈ category.tests engine contexts folders) :
    ∃ found left otherLeft, takeLiteral literal words = (found, left) ∧
      takeLiteral literal others = (found, otherLeft) ∧
      IsReordering engine contexts folders title left otherLeft := by
  rw [← isSome_literal] at known
  obtain ⟨found, left, otherLeft, taken, otherTaken, rest⟩ :=
    reordering.exists_takeFirst category known
  exact ⟨found.isSome, left, otherLeft, by rw [takeLiteral, taken],
    by rw [takeLiteral, otherTaken], rest⟩

theorem IsReordering.exists_takeEntry
    (reordering : IsReordering engine contexts folders title words others) (category : Category)
    {catalog : Option Catalog} {noneWord : Text} {find? : Catalog → Text → Option Context}
    (current : Int)
    (known : category.tests engine contexts folders = Category.entryTests catalog noneWord find?) :
    ∃ number left otherLeft, takeEntry catalog noneWord find? current words = (number, left) ∧
      takeEntry catalog noneWord find? current others = (number, otherLeft) ∧
      IsReordering engine contexts folders title left otherLeft := by
  cases catalog with
  | none => exact ⟨current, words, others, rfl, rfl, reordering⟩
  | some catalog =>
    obtain ⟨found, left, otherLeft, taken, otherTaken, rest⟩ :=
      reordering.exists_takeLiteral category
        (show (· == noneWord) ∈ category.tests engine contexts folders by
          simp [known, Category.entryTests])
    cases found with
    | true =>
      exact ⟨_, left, otherLeft, by rw [takeEntry, taken], by rw [takeEntry, otherTaken], rest⟩
    | false =>
      obtain ⟨entry, left, otherLeft, named, otherNamed, rest⟩ := reordering.exists_takeFirst category
        (show (fun word => (find? catalog word).isSome) ∈ category.tests engine contexts folders by
          simp [known, Category.entryTests])
      refine ⟨(entry.map (·.id)).getD current, left, otherLeft, ?_, ?_, rest⟩
      · simp only [takeEntry, taken, named]
      · simp only [takeEntry, otherTaken, otherNamed]

end Steps

/-! ## All categories in both orders -/

/-- Words that are not the same as tags are added whatever tags the others have become. -/
theorem addTags_eq_append_filter {tags words : List Text} (distinct : (words.map Tags.key).Nodup) :
    addTags tags words = tags ++ words.filter fun word => !Tags.has tags word := by
  induction words generalizing tags with
  | nil => simp [addTags]
  | cons word rest ih =>
    obtain ⟨fresh, restDistinct⟩ := List.nodup_cons.1 distinct
    rw [addTags, List.foldl_cons, ← addTags, ih restDistinct]
    cases known : Tags.has tags word with
    | true => simp [known]
    | false =>
      have unaffected : ∀ other ∈ rest, Tags.has (tags ++ [word]) other = Tags.has tags other := by
        intro other inRest
        have differs : Tags.key word ≠ Tags.key other :=
          fun same => fresh (same ▸ List.mem_map_of_mem inRest)
        simp [Tags.has, differs]
      have sameRest : rest.filter (fun other => !Tags.has (tags ++ [word]) other) =
          rest.filter (fun other => !Tags.has tags other) :=
        List.filter_congr fun other inRest => by rw [unaffected other inRest]
      simp [known, sameRest]

/-- The order of modifiers that do not get in each other's way matters for the order of the added
    tags only.  Words are told apart as tags are, so by more than case and white space around them. -/
theorem applyModifiers_perm {engine : Engine} {contexts folders : Option Catalog}
    {words others : List Text} (task : Task) (pin : Pin) (perm : words.Perm others)
    (distinct : (words.map Tags.key).Nodup)
    (single : ∀ category : Category, ∀ test ∈ category.tests engine contexts folders,
      ∀ a ∈ words, ∀ b ∈ words, test a = true → test b = true → a = b) :
    ∃ kept added otherAdded,
      (kept = task.tags ∨ kept = [] ∧ engine.conventions.keywords.noTag ∈ words) ∧
      added.Perm otherAdded ∧
      (engine.applyModifiers task pin words contexts folders).1.tags = kept ++ added ∧
      engine.applyModifiers task pin others contexts folders =
        ({ (engine.applyModifiers task pin words contexts folders).1 with
            tags := kept ++ otherAdded },
          (engine.applyModifiers task pin words contexts folders).2) := by
  have reordering : IsReordering engine contexts folders words words others :=
    ⟨List.Subset.refl words, perm, distinct, single⟩
  -- Each category in turn finds the same in both orders, and leaves a reordering to the next.
  obtain ⟨priority, _, _, takesPriority, otherPriority, reordering⟩ :=
    reordering.exists_takeFirst .priority (List.mem_singleton_self _)
  obtain ⟨noDueDate, _, _, takesNoDueDate, otherNoDueDate, reordering⟩ :=
    reordering.exists_takeLiteral .noDueDate (List.mem_singleton_self _)
  obtain ⟨star, _, _, takesStar, otherStar, reordering⟩ :=
    reordering.exists_takeLiteral .star (List.mem_singleton_self _)
  obtain ⟨noStar, _, _, takesNoStar, otherNoStar, reordering⟩ :=
    reordering.exists_takeLiteral .noStar (List.mem_singleton_self _)
  obtain ⟨context, _, _, takesContext, otherContext, reordering⟩ :=
    reordering.exists_takeEntry .context task.context rfl
  obtain ⟨status, _, _, takesStatus, otherStatus, reordering⟩ :=
    reordering.exists_takeFirst .status (List.mem_singleton_self _)
  obtain ⟨folder, last, _, takesFolder, otherFolder, reordering⟩ :=
    reordering.exists_takeEntry .folder task.folder rfl
  have known : last ⊆ words := reordering.subset
  obtain ⟨noTag, left, otherLeft, takesNoTag, otherNoTag, reordering⟩ :=
    reordering.exists_takeLiteral .noTag (List.mem_singleton_self _)
  obtain ⟨kept, isKept⟩ : ∃ kept, (if noTag then [] else task.tags) = kept := ⟨_, rfl⟩
  refine ⟨kept, left.filter fun word => !Tags.has kept word,
    otherLeft.filter fun word => !Tags.has kept word, ?_, reordering.perm.filter _, ?_, ?_⟩
  · cases noTag with
    | false => exact .inl isKept.symm
    | true =>
      refine .inr ⟨isKept.symm, known ?_⟩
      by_contra absent
      have notTaken := takeLiteral_of_not_mem absent
      rw [takesNoTag] at notTaken
      exact Bool.false_ne_true notTaken.symm
  · simp only [applyModifiers, takesPriority, takesNoDueDate, takesStar, takesNoStar, takesContext,
      takesStatus, takesFolder, takesNoTag, isKept]
    exact addTags_eq_append_filter reordering.distinct
  · simp only [applyModifiers, takesPriority, takesNoDueDate, takesStar, takesNoStar, takesContext,
      takesStatus, takesFolder, takesNoTag, otherPriority, otherNoDueDate, otherStar, otherNoStar,
      otherContext, otherStatus, otherFolder, otherNoTag, isKept]
    rw [addTags_eq_append_filter reordering.symm.distinct]

/-- A word that is a keyword and the start of a context too, a folder, a status and two tags, from
    either end. -/
theorem applyModifiers_perm_star :
    let engine := standard ⟨2024, 1, 15, by decide⟩
    let task : Task := { tags := ["home"] }
    let words : List Text := ["star", "shop", "next", "bike", "rain"]
    let others : List Text := ["rain", "bike", "next", "shop", "star"]
    let contexts := Catalog.ofList [⟨4, "Starship"⟩]
    let folders := Catalog.ofList [⟨7, "s1 Shop"⟩]
    let applied := engine.applyModifiers task .unset words (some contexts) (some folders)
    words.Perm others ∧ (words.map Tags.key).Nodup ∧
      (∀ category : Category, ∀ test ∈ category.tests engine (some contexts) (some folders),
        ∀ a ∈ words, ∀ b ∈ words, test a = true → test b = true → a = b) ∧
      ∃ added otherAdded : List Text,
        added.Perm otherAdded ∧ applied.1.tags = task.tags ++ added ∧
        engine.applyModifiers task .unset others (some contexts) (some folders) =
          ({ applied.1 with tags := task.tags ++ otherAdded }, applied.2) := by
  intro engine task words others contexts folders applied
  have perm : words.Perm others := by decide
  have distinct : (words.map Tags.key).Nodup := by decide
  have single : ∀ category : Category,
      ∀ test ∈ category.tests engine (some contexts) (some folders),
        ∀ a ∈ words, ∀ b ∈ words, test a = true → test b = true → a = b := by
    intro category
    cases category <;> decide +kernel
  refine ⟨perm, distinct, single, ?_⟩
  obtain ⟨kept, added, otherAdded, keptCases, sameAdded, tags, same⟩ :=
    applyModifiers_perm task .unset perm distinct single
  cases keptCases with
  | inl all =>
    subst all
    exact ⟨added, otherAdded, sameAdded, tags, same⟩
  | inr untagged => exact absurd untagged.2 (by decide)

/-- Words that differ in white space around them make one tag, in the spelling of the first of them. -/
theorem applyModifiers_perm_trailing_blank :
    let engine := standard ⟨2024, 1, 15, by decide⟩
    let words : List Text := ["a", "a "]
    let others : List Text := ["a ", "a"]
    words.Perm others ∧ (words.map Text.lower).Nodup ∧
      (∀ category : Category, ∀ test ∈ category.tests engine none none,
        ∀ a ∈ words, ∀ b ∈ words, test a = true → test b = true → a = b) ∧
      ¬ (engine.applyModifiers {} .unset words none none).1.tags.Perm
        (engine.applyModifiers {} .unset others none none).1.tags := by
  intro engine words others
  have single : ∀ category : Category, ∀ test ∈ category.tests engine none none,
      ∀ a ∈ words, ∀ b ∈ words, test a = true → test b = true → a = b := by
    intro category
    cases category <;> decide +kernel
  exact ⟨by decide, by decide +kernel, single, by decide +kernel⟩

end TaskTitles.Engine
