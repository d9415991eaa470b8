import Mathlib.Data.List.FinRange
import TaskTitles.Proofs.Normalize.Frame

/-!
# Which words the modifiers take

Every category of modifiers takes at most one word of a title: the first of those that it knows and
that no category before it has taken.  The words that are left over become tags, unless the tag is
there already (`exists_allotment`).  A title can repeat a word, so words are told apart by their
positions.
-/

namespace TaskTitles.Engine

open Text

/-! ## Categories -/

/-- The categories of modifiers, in the order in which they look at the words. -/
inductive Category where
  | priority
  | noDueDate
  | star
  | noStar
  | context
  | status
  | folder
  | noTag
  deriving Repr, DecidableEq

namespace Category

def all : List Category :=
  [priority, noDueDate, star, noStar, context, status, folder, noTag]

/-- The categories that have looked at the words before this one. -/
def earlier (category : Category) : List Category := all.takeWhile (· ≠ category)

theorem earlier_trichotomous (category other : Category) :
    category ∈ other.earlier ∨ category = other ∨ other ∈ category.earlier := by
  cases category <;> cases other <;> decide

/-- The tests for the words of a catalog: first for the word that takes the entry off, and then for
    the names of entries.  Without a catalog no word is tested. -/
def entryTests (catalog : Option Catalog) (noneWord : Text)
    (find? : Catalog → Text → Option Context) : List (Text → Bool) :=
  match catalog with
  | none => []
  | some catalog => [(· == noneWord), fun word => (find? catalog word).isSome]

/-- The tests that a category makes on the words, one after the other until a word passes. -/
def tests (engine : Engine) (contexts folders : Option Catalog) (category : Category) :
    List (Text → Bool) :=
  let keywords := engine.conventions.keywords
  match category with
  | priority => [fun word => (Priority.ofWord? word).isSome]
  | noDueDate => [(· == keywords.noDueDate)]
  | star => [(· == keywords.star)]
  | noStar => [(· == keywords.noStar)]
  | context => entryTests contexts keywords.noContext Catalog.findByStart?
  | status => [fun word => (Status.ofWord? word).isSome]
  | folder => entryTests folders keywords.noFolder Catalog.findByBareName?
  | noTag => [(· == keywords.noTag)]

end Category

/-! ## Positions -/

/-- The position that is taken where `used` has been taken before: the first free one whose word
    passes a test, where a later test counts only if no free word passes an earlier one. -/
inductive Takes (words : List Text) (used : List (Option (Fin words.length))) :
    List (Text → Bool) → Option (Fin words.length) → Prop
  | nothing : Takes words used [] none
  | first {test : Text → Bool} {tests : List (Text → Bool)} {position : Fin words.length}
      (free : some position ∉ used) (passes : test (words.get position) = true)
      (earliest : ∀ before < position, some before ∉ used → test (words.get before) = false) :
      Takes words used (test :: tests) (some position)
  | later {test : Text → Bool} {tests : List (Text → Bool)} {taken : Option (Fin words.length)}
      (fails : ∀ position, some position ∉ used → test (words.get position) = false)
      (next : Takes words used tests taken) : Takes words used (test :: tests) taken

section Positions

variable {words : List Text} {used : List (Option (Fin words.length))}

theorem Takes.free {tests : List (Text → Bool)} {position : Fin words.length}
    (takes : Takes words used tests (some position)) : some position ∉ used := by
  generalize same : some position = taken at takes
  induction takes with
  | nothing => cases same
  | first free _ _ =>
    cases same
    exact free
  | later _ _ ih => exact ih same

/-- The positions that have not been taken, in their order. -/
def freePositions (words : List Text) (used : List (Option (Fin words.length))) :
    List (Fin words.length) :=
  (List.finRange words.length).filter (some · ∉ used)

def leftOver (words : List Text) (used : List (Option (Fin words.length))) : List Text :=
  (freePositions words used).map words.get

@[simp] theorem mem_freePositions {position : Fin words.length} :
    position ∈ freePositions words used ↔ some position ∉ used := by
  simp [freePositions]

theorem increasing_freePositions (words : List Text) (used : List (Option (Fin words.length))) :
    (freePositions words used).Pairwise (· < ·) :=
  (List.pairwise_lt_finRange words.length).filter _

@[simp] theorem leftOver_nil (words : List Text) : leftOver words [] = words := by
  simp [leftOver, freePositions]

theorem leftOver_none : leftOver words (used ++ [none]) = leftOver words used := by
  simp [leftOver, freePositions]

theorem leftOver_some (position : Fin words.length) :
    leftOver words (used ++ [some position]) =
      ((freePositions words used).filter (· ≠ position)).map words.get := by
  simp [leftOver, freePositions, List.filter_filter, not_or, and_comm]

theorem mem_leftOver {word : Text} (member : word ∈ leftOver words used) : word ∈ words := by
  obtain ⟨position, -, same⟩ := List.mem_map.1 member
  exact same ▸ List.get_mem words position

/-! ## Words that are taken -/

/-- The word that is taken from increasing positions is the first one that is accepted. -/
theorem takeFirst_cases {α : Type} (accept : Text → Option α) {n : Nat} (word : Fin n → Text)
    {positions : List (Fin n)} (increasing : positions.Pairwise (· < ·)) :
    ((∀ p ∈ positions, accept (word p) = none) ∧
      takeFirst accept (positions.map word) = (none, positions.map word)) ∨
    ∃ p ∈ positions, (accept (word p)).isSome = true ∧
      (∀ q ∈ positions, q < p → accept (word q) = none) ∧
      takeFirst accept (positions.map word) =
        (accept (word p), (positions.filter (· ≠ p)).map word) := by
  induction positions with
  | nil => exact .inl ⟨List.forall_mem_nil _, rfl⟩
  | cons p rest ih =>
    obtain ⟨above, restIncreasing⟩ := List.pairwise_cons.1 increasing
    cases accepted : accept (word p) with
    | some found =>
      have others : rest.filter (· ≠ p) = rest := by
        rw [List.filter_eq_self]
        intro q inRest
        simpa using (above q inRest).ne'
      refine .inr ⟨p, List.mem_cons_self, by simp [accepted], ?_, ?_⟩
      · intro q member below
        cases List.mem_cons.1 member with
        | inl same => exact absurd below (same ▸ lt_irrefl p)
        | inr inRest => exact absurd below (above q inRest).asymm
      · rw [List.filter_cons_of_neg (by simp), others]
        simp [takeFirst, accepted]
    | none =>
      cases ih restIncreasing with
      | inl untouched =>
        refine .inl ⟨List.forall_mem_cons.2 ⟨accepted, untouched.1⟩, ?_⟩
        simp [takeFirst, accepted, untouched.2]
      | inr touched =>
        obtain ⟨q, inRest, passes, earliest, taken⟩ := touched
        refine .inr ⟨q, List.mem_cons_of_mem p inRest, passes, ?_, ?_⟩
        · intro r member below
          cases List.mem_cons.1 member with
          | inl same => exact same ▸ accepted
          | inr inRest => exact earliest r inRest below
        · simp [takeFirst, accepted, taken, (above q inRest).ne]

/-- What one step takes from the words that are left over. -/
theorem exists_takeFirst {α : Type} (accept : Text → Option α) (words : List Text)
    (used : List (Option (Fin words.length))) :
    ∃ taken, Takes words used [fun word => (accept word).isSome] taken ∧
      takeFirst accept (leftOver words used) =
        ((taken.map words.get).bind accept, leftOver words (used ++ [taken])) := by
  cases takeFirst_cases accept words.get (increasing_freePositions words used) with
  | inl untouched =>
    refine ⟨none, .later ?_ .nothing, ?_⟩
    · intro position free
      rw [untouched.1 position (mem_freePositions.2 free), Option.isSome_none]
    · rw [leftOver_none]
      exact untouched.2
  | inr touched =>
    obtain ⟨position, member, passes, earliest, taken⟩ := touched
    refine ⟨some position, .first (mem_freePositions.1 member) passes ?_, ?_⟩
    · intro before below free
      rw [earliest before (mem_freePositions.2 free) below, Option.isSome_none]
    · rw [leftOver_some]
      exact taken

theorem isSome_literal (literal : Text) :
    (fun word => (if word = literal then some () else none).isSome) = (· == literal) := by
  funext word
  by_cases same : word = literal <;> simp [same]

theorem exists_takeLiteral (literal : Text) (words : List Text)
    (used : List (Option (Fin words.length))) :
    ∃ taken, Takes words used [(· == literal)] taken ∧
      takeLiteral literal (leftOver words used) =
        (taken.isSome, leftOver words (used ++ [taken])) := by
  obtain ⟨taken, takes, found⟩ :=
    exists_takeFirst (fun word => if word = literal then some () else none) words used
  rw [isSome_literal] at takes
  refine ⟨taken, takes, ?_⟩
  rw [takeLiteral, found]
  cases takes with
  | @first _ _ position _ passes _ =>
    have same : words.get position = literal := beq_iff_eq.1 passes
    rw [Option.map_some, Option.bind_some, if_pos same]
    rfl
  | later _ next =>
    cases next
    rfl

/-- The number that a word for an entry of a catalog stands for. -/
def entryNumber (catalog : Option Catalog) (noneWord : Text)
    (find? : Catalog → Text → Option Context) (current : Int) (word? : Option Text) : Int :=
  match catalog, word? with
  | some catalog, some word =>
    if word = noneWord then if (catalog.findById? current).isSome then 0 else current
    else ((find? catalog word).map (·.id)).getD current
  | _, _ => current

theorem exists_takeEntry (catalog : Option Catalog) (noneWord : Text)
    (find? : Catalog → Text → Option Context) (current : Int) (words : List Text)
    (used : List (Option (Fin words.length))) :
    ∃ taken, Takes words used (Category.entryTests catalog noneWord find?) taken ∧
      takeEntry catalog noneWord find? current (leftOver words used) =
        (entryNumber catalog noneWord find? current (taken.map words.get),
          leftOver words (used ++ [taken])) := by
  cases catalog with
  | none => exact ⟨none, .nothing, by rw [leftOver_none]; rfl⟩
  | some catalog =>
    obtain ⟨literal, takesLiteral, foundLiteral⟩ := exists_takeLiteral noneWord words used
    cases takesLiteral with
    | @first _ _ position free passes earliest =>
      refine ⟨some position, .first free passes earliest, ?_⟩
      have same : words.get position = noneWord := beq_iff_eq.1 passes
      rw [takeEntry, foundLiteral]
      simp only [Option.isSome_some, entryNumber, Option.map_some, if_pos same]
    | later fails next =>
      cases next
      -- Names are looked up only where the word for no entry is not left.
      obtain ⟨taken, takes, found⟩ := exists_takeFirst (find? catalog) words used
      refine ⟨taken, .later fails takes, ?_⟩
      rw [takeEntry, foundLiteral]
      simp only [Option.isSome_none, found]
      cases takes with
      | @first _ _ position free _ _ =>
        have other : words.get position ≠ noneWord := by
          simpa using fails position free
        simp only [entryNumber, Option.map_some, Option.bind_some, if_neg other]
      | later _ next =>
        cases next
        rfl

end Positions

/-! ## Words that become tags -/

/-- The positions whose words become tags beside the ones that are kept: free ones with a word that
    is the same, case aside, neither as a tag that is kept nor as one that is added before it. -/
structure Adds {n : Nat} (word : Fin n → Text) (free : Fin n → Prop) (kept : List Text)
    (added : List (Fin n)) : Prop where
  increasing : added.Pairwise (· < ·)
  mem_iff (position : Fin n) : position ∈ added ↔
    free position ∧ lower (word position) ∉ kept.map lower ∧
      ∀ before ∈ added, before < position → lower (word before) ≠ lower (word position)

section Adding

variable {n : Nat} {word : Fin n → Text} {kept : List Text} {added rest : List (Fin n)} {p : Fin n}

theorem Adds.congr {free other : Fin n → Prop} (adds : Adds word free kept added)
    (same : ∀ position, free position ↔ other position) : Adds word other kept added where
  increasing := adds.increasing
  mem_iff position := by rw [← same, adds.mem_iff]

/-- A word that is a tag already is not added. -/
theorem Adds.skip (adds : Adds word (· ∈ rest) kept added)
    (present : lower (word p) ∈ kept.map lower) : Adds word (· ∈ p :: rest) kept added where
  increasing := adds.increasing
  mem_iff q := by
    rw [adds.mem_iff, List.mem_cons]
    constructor
    · rintro ⟨inRest, fresh⟩
      exact ⟨.inr inRest, fresh⟩
    · rintro ⟨rfl | inRest, fresh⟩
      · exact absurd present fresh.1
      · exact ⟨inRest, fresh⟩

/-- A word that is added counts as a tag for the words after it. -/
theorem Adds.cons (adds : Adds word (· ∈ rest) (kept ++ [word p]) added)
    (absent : lower (word p) ∉ kept.map lower) (above : ∀ q ∈ rest, p < q) :
    Adds word (· ∈ p :: rest) kept (p :: added) := by
  have addedAbove : ∀ q ∈ added, p < q := fun q inAdded => above q ((adds.mem_iff q).1 inAdded).1
  refine ⟨List.pairwise_cons.2 ⟨addedAbove, adds.increasing⟩, fun q => ?_⟩
  have fresh_iff : lower (word q) ∉ (kept ++ [word p]).map lower ↔
      lower (word q) ∉ kept.map lower ∧ lower (word p) ≠ lower (word q) := by
    simp [not_or, eq_comm]
  rw [List.mem_cons, List.mem_cons, List.forall_mem_cons, adds.mem_iff, fresh_iff]
  constructor
  · rintro (rfl | ⟨inRest, ⟨fresh, differs⟩, first⟩)
    · -- Nothing that is added stands before the first word.
      refine ⟨.inl rfl, absent, fun below => absurd below (lt_irrefl q), ?_⟩
      intro before inAdded below
      exact absurd below (addedAbove before inAdded).asymm
    · exact ⟨.inr inRest, fresh, fun _ => differs, first⟩
  · rintro ⟨rfl | inRest, fresh, differs, first⟩
    · exact .inl rfl
    · exact .inr ⟨inRest, ⟨fresh, differs (above q inRest)⟩, first⟩

/-- Words at increasing positions that are added to tags, one after the other. -/
theorem exists_addTags {positions : List (Fin n)} (increasing : positions.Pairwise (· < ·))
    (keptTags : ∀ tag ∈ kept, Tags.IsTag tag) (isTag : ∀ p ∈ positions, Tags.IsTag (word p)) :
    ∃ added, Adds word (· ∈ positions) kept added ∧
      addTags kept (positions.map word) = kept ++ added.map word := by
  induction positions generalizing kept with
  | nil => exact ⟨[], ⟨.nil, by simp⟩, by simp [addTags]⟩
  | cons p rest ih =>
    obtain ⟨above, restIncreasing⟩ := List.pairwise_cons.1 increasing
    obtain ⟨wordTag, restTags⟩ := List.forall_mem_cons.1 isTag
    rw [List.map_cons, addTags, List.foldl_cons, ← addTags]
    cases known : Tags.has kept (word p) with
    | true =>
      have present : lower (word p) ∈ kept.map lower := by
        by_contra absent
        rw [(Tags.has_eq_false_iff keptTags wordTag).2 absent] at known
        exact Bool.false_ne_true known
      obtain ⟨added, adds, same⟩ := ih restIncreasing keptTags restTags
      exact ⟨added, adds.skip present, by rw [if_pos rfl, same]⟩
    | false =>
      have absent := (Tags.has_eq_false_iff keptTags wordTag).1 known
      have moreTags : ∀ tag ∈ kept ++ [word p], Tags.IsTag tag := by
        intro tag member
        cases List.mem_append.1 member with
        | inl before => exact keptTags tag before
        | inr last => rwa [List.mem_singleton.1 last]
      obtain ⟨added, adds, same⟩ := ih restIncreasing moreTags restTags
      refine ⟨p :: added, adds.cons absent above, ?_⟩
      rw [if_neg Bool.false_ne_true, same, List.map_cons, List.append_assoc, List.singleton_append]

end Adding

/-! ## The words of a title -/

/-- What the words of the categories make of a task and its pin, with the tags as they come out. -/
def modified (engine : Engine) (task : Task) (pin : Pin) (contexts folders : Option Catalog)
    (word? : Category → Option Text) (tags : List Text) : Task × Pin :=
  let keywords := engine.conventions.keywords
  let status := ((word? .status).bind Status.ofWord?).getD task.status
  ({ task with
      priority := ((word? .priority).bind Priority.ofWord?).getD task.priority
      starred := (task.starred || (word? .star).isSome) && !(word? .noStar).isSome
      context :=
        entryNumber contexts keywords.noContext Catalog.findByStart? task.context (word? .context)
      status := if status = .none then engine.conventions.status.default else status
      folder :=
        entryNumber folders keywords.noFolder Catalog.findByBareName? task.folder (word? .folder)
      tags },
    if (word? .noDueDate).isSome && engine.isPinned task pin then .cleared else pin)

variable {engine : Engine} {contexts folders : Option Catalog} {words : List Text}

/-- Every category takes a position, or none, after the categories before it. -/
def IsAllotment (engine : Engine) (contexts folders : Option Catalog) (words : List Text)
    (taken : Category → Option (Fin words.length)) : Prop :=
  ∀ category : Category, Takes words (category.earlier.map taken)
    (category.tests engine contexts folders) (taken category)

theorem IsAllotment.injective {taken : Category → Option (Fin words.length)}
    (allotted : IsAllotment engine contexts folders words taken) {category other : Category}
    {position : Fin words.length} (takes : taken category = some position)
    (takesToo : taken other = some position) : category = other := by
  have apart {first second : Category} (before : first ∈ second.earlier)
      (takesFirst : taken first = some position) : taken second ≠ some position := by
    intro takesSecond
    have takes := allotted second
    rw [takesSecond] at takes
    exact takes.free (takesFirst ▸ List.mem_map_of_mem before)
  rcases category.earlier_trichotomous other with before | same | after
  · exact absurd takesToo (apart before takes)
  · exact same
  · exact absurd takes (apart after takesToo)

/-- The words of a title, category by category. -/
theorem exists_applyModifiers (engine : Engine) (task : Task) (pin : Pin)
    (contexts folders : Option Catalog) (words : List Text) :
    ∃ taken, IsAllotment engine contexts folders words taken ∧
      engine.applyModifiers task pin words contexts folders =
        engine.modified task pin contexts folders (fun category => (taken category).map words.get)
          (addTags (if (taken .noTag).isSome then [] else task.tags)
            (leftOver words (Category.all.map taken))) := by
  obtain ⟨priority, takesPriority, foundPriority⟩ := exists_takeFirst Priority.ofWord? words []
  obtain ⟨noDueDate, takesNoDueDate, foundNoDueDate⟩ :=
    exists_takeLiteral engine.conventions.keywords.noDueDate words [priority]
  obtain ⟨star, takesStar, foundStar⟩ :=
    exists_takeLiteral engine.conventions.keywords.star words [priority, noDueDate]
  obtain ⟨noStar, takesNoStar, foundNoStar⟩ :=
    exists_takeLiteral engine.conventions.keywords.noStar words [priority, noDueDate, star]
  obtain ⟨context, takesContext, foundContext⟩ :=
    exists_takeEntry contexts engine.conventions.keywords.noContext Catalog.findByStart?
      task.context words [priority, noDueDate, star, noStar]
  obtain ⟨status, takesStatus, foundStatus⟩ :=
    exists_takeFirst Status.ofWord? words [priority, noDueDate, star, noStar, context]
  obtain ⟨folder, takesFolder, foundFolder⟩ :=
    exists_takeEntry folders engine.conventions.keywords.noFolder Catalog.findByBareName?
      task.folder words [priority, noDueDate, star, noStar, context, status]
  obtain ⟨noTag, takesNoTag, foundNoTag⟩ :=
    exists_takeLiteral engine.conventions.keywords.noTag words
      [priority, noDueDate, star, noStar, context, status, folder]
  refine ⟨fun
    | .priority => priority
    | .noDueDate => noDueDate
    | .star => star
    | .noStar => noStar
    | .context => context
    | .status => status
    | .folder => folder
    | .noTag => noTag, ?_, ?_⟩
  · intro category
    cases category <;> assumption
  · rw [leftOver_nil] at foundPriority
    simp only [List.nil_append, List.cons_append] at *
    rw [applyModifiers]
    simp only [foundPriority, foundNoDueDate, foundStar, foundNoStar, foundContext, foundStatus,
      foundFolder, foundNoTag, modified, Category.all, List.map_cons, List.map_nil,
      Option.isSome_map]

/-- Every word of a title is used exactly once: by the first category that takes it, or else as a
    tag, unless that is there already. -/
theorem exists_allotment {engine : Engine} {task : Task} {words : List Text} (pin : Pin)
    (contexts folders : Option Catalog) (isDistinct : Tags.IsDistinct task.tags)
    (isTag : ∀ word ∈ words, Tags.IsTag word) :
    ∃ (taken : Category → Option (Fin words.length)) (kept : List Text)
      (added : List (Fin words.length)),
      IsAllotment engine contexts folders words taken ∧
      (∀ category other position, taken category = some position → taken other = some position →
        category = other) ∧
      kept = (if (taken .noTag).isSome then [] else task.tags) ∧
      Adds words.get (fun position => ∀ category, taken category ≠ some position) kept added ∧
      engine.applyModifiers task pin words contexts folders =
        engine.modified task pin contexts folders (fun category => (taken category).map words.get)
          (kept ++ added.map words.get) ∧
      Tags.IsDistinct (kept ++ added.map words.get) := by
  obtain ⟨taken, allotted, applied⟩ :=
    exists_applyModifiers engine task pin contexts folders words
  refine ⟨taken, if (taken .noTag).isSome then [] else task.tags, ?_⟩
  have keptDistinct : Tags.IsDistinct (if (taken .noTag).isSome then [] else task.tags) := by
    split
    · exact Tags.isDistinct_nil
    · exact isDistinct
  generalize (if (taken .noTag).isSome then [] else task.tags) = kept at *
  have leftTags : ∀ word ∈ leftOver words (Category.all.map taken), Tags.IsTag word :=
    fun word member => isTag word (mem_leftOver member)
  obtain ⟨added, adds, tags⟩ := exists_addTags (increasing_freePositions words _)
    keptDistinct.isTag fun position member => leftTags _ (List.mem_map_of_mem member)
  have free (position : Fin words.length) :
      position ∈ freePositions words (Category.all.map taken) ↔
        ∀ category, taken category ≠ some position := by
    rw [mem_freePositions, List.mem_map]
    constructor
    · intro absent category takes
      exact absent ⟨category, by cases category <;> decide, takes⟩
    · rintro free ⟨category, -, takes⟩
      exact free category takes
  refine ⟨added, allotted, fun _ _ _ => allotted.injective, rfl, adds.congr free, ?_, ?_⟩
  · rw [applied, leftOver, tags]
  · rw [← tags]
    exact keptDistinct.addTags leftTags

/-- Of two words that could set the priority, and of two that name a shop, the later one is left for
    a tag; a tag that is there already is not added in another spelling. -/
theorem exists_allotment_shop :
    let engine := standard ⟨2024, 1, 15, by decide⟩
    let words : List Text := ["high", "Home", "shop", "top", "shop", "SHOP"]
    let contexts := Catalog.ofList [⟨4, "Shopping"⟩]
    let applied := engine.applyModifiers { tags := ["home"] } .unset words (some contexts) none
    Tags.IsDistinct ["home"] ∧ (∀ word ∈ words, Tags.IsTag word) ∧
      applied.1.priority = .high ∧ applied.1.context = 4 ∧
      ∃ (taken : Category → Option (Fin words.length)) (kept : List Text)
        (added : List (Fin words.length)),
        IsAllotment engine (some contexts) none words taken ∧
        Adds words.get (fun position => ∀ category, taken category ≠ some position) kept added ∧
        kept ++ added.map words.get = ["home", "top", "shop"] := by
  intro engine words contexts applied
  have isDistinct : Tags.IsDistinct ["home"] := ⟨by decide, by decide⟩
  have isTag : ∀ word ∈ words, Tags.IsTag word := by decide
  have known : applied =
      ({ priority := .high, context := 4, tags := ["home", "top", "shop"], status := .nextAction },
        .unset) := by decide +kernel
  refine ⟨isDistinct, isTag, by rw [known], by rw [known], ?_⟩
  obtain ⟨taken, kept, added, allotted, -, -, adds, outcome, -⟩ :=
    @exists_allotment engine { tags := ["home"] } words .unset (some contexts) none isDistinct isTag
  refine ⟨taken, kept, added, allotted, adds, ?_⟩
  exact (congrArg (·.1.tags) (outcome.symm.trans known))

end TaskTitles.Engine
