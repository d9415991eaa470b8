import Mathlib.Data.List.FinRange
import TaskTitles.Proofs.Task.Tags
import TaskTitles.Proofs.Text.Pieces
import TaskTitles.Proofs.Validation.Records

/-!
# Spellings of tags

Of every tag the first spelling is kept, in the order in which the tags come
(`distinct_eq_firstSpellings`), so that no tag is lost but blank ones (`exists_mem_distinct_iff`) and
a task has just the tags that it was given (`has_distinct_iff`).  Distinct tags without commas come
out of the text that joins them (`IsDistinct.ofText_toText`), and all tags that are read from a text
are such tags (`ofText_toText_ofText`).
-/

namespace TaskTitles

open Text Validation

theorem Text.lower_ne_nil {t : Text} (nonempty : t ≠ []) : lower t ≠ [] := by
  cases t with
  | nil => exact absurd rfl nonempty
  | cons c cs =>
    rw [lower, lowerAfter, lowerChar]
    split
    · exact List.cons_ne_nil _ _
    · split <;> exact List.cons_ne_nil _ _

namespace Tags

/-! ## One tag after the other -/

theorem distinctFrom_cons_of_blank {tag : Text} (blank : strip tag = []) (seen rest : List Text) :
    distinctFrom seen (tag :: rest) = distinctFrom seen rest := if_pos (.inl blank)

theorem distinctFrom_cons_of_seen {seen : List Text} {tag : Text} (known : key tag ∈ seen)
    (rest : List Text) : distinctFrom seen (tag :: rest) = distinctFrom seen rest :=
  if_pos (.inr known)

theorem distinctFrom_cons {seen : List Text} {tag : Text} (nonempty : strip tag ≠ [])
    (fresh : key tag ∉ seen) (rest : List Text) :
    distinctFrom seen (tag :: rest) = strip tag :: distinctFrom (key tag :: seen) rest :=
  if_neg (not_or.2 ⟨nonempty, fresh⟩)

/-- What has been seen is left out, and nothing else changes. -/
theorem distinctFrom_eq_filter (seen tags : List Text) :
    distinctFrom seen tags = (distinct tags).filter (lower · ∉ seen) := by
  induction tags generalizing seen with
  | nil => rfl
  | cons tag rest ih =>
    rw [distinct]
    by_cases blank : strip tag = []
    · rw [distinctFrom_cons_of_blank blank, distinctFrom_cons_of_blank blank]
      exact ih seen
    · rw [distinctFrom_cons blank List.not_mem_nil, ih [key tag]]
      by_cases known : key tag ∈ seen
      · have dropped : ¬ (decide (lower (strip tag) ∉ seen) = true) := by simpa [key] using known
        rw [distinctFrom_cons_of_seen known, ih, List.filter_cons, if_neg dropped,
          List.filter_filter]
        refine List.filter_congr fun other _ => ?_
        have apart : lower other ∉ seen → lower other ≠ key tag := fun unseen same =>
          unseen (same ▸ known)
        simpa using apart
      · have kept : decide (lower (strip tag) ∉ seen) = true := by simpa [key] using known
        rw [distinctFrom_cons blank known, ih, List.filter_cons, if_pos kept, List.filter_filter]
        refine congrArg (strip tag :: ·) (List.filter_congr fun other _ => ?_)
        simp [Bool.and_comm]

theorem distinct_cons (tag : Text) (rest : List Text) :
    distinct (tag :: rest) =
      if strip tag = [] then distinct rest
      else strip tag :: (distinct rest).filter (lower · ≠ key tag) := by
  split
  · next blank => exact distinctFrom_cons_of_blank blank [] rest
  · next nonempty =>
    rw [distinct, distinctFrom_cons nonempty List.not_mem_nil, distinctFrom_eq_filter]
    simp

/-! ## First spellings -/

/-- The tag at that position is not blank, and none before it is the same, case aside. -/
def IsFirst (tags : List Text) (position : Fin tags.length) : Prop :=
  strip (tags.get position) ≠ [] ∧
    ∀ before < position, key (tags.get before) ≠ key (tags.get position)

instance (tags : List Text) : DecidablePred (IsFirst tags) := fun position => by
  unfold IsFirst; infer_instance

/-- Every tag where it comes first, and as it is spelled there. -/
def firstSpellings (tags : List Text) : List Text :=
  ((List.finRange tags.length).filter (IsFirst tags ·)).map fun position =>
    strip (tags.get position)

section First

variable {tag : Text} {rest : List Text} {position : Fin rest.length}

theorem isFirst_zero : IsFirst (tag :: rest) 0 ↔ strip tag ≠ [] := by
  constructor
  · intro first
    exact first.1
  · intro nonempty
    exact ⟨nonempty, fun before earlier => absurd earlier (Fin.not_lt_zero before)⟩

theorem isFirst_succ :
    IsFirst (tag :: rest) position.succ ↔
      key tag ≠ key (rest.get position) ∧ IsFirst rest position := by
  constructor
  · rintro ⟨nonempty, fresh⟩
    exact ⟨fresh 0 (Fin.succ_pos position), nonempty, fun before earlier =>
      fresh before.succ (Fin.succ_lt_succ_iff.2 earlier)⟩
  · rintro ⟨other, nonempty, fresh⟩
    refine ⟨nonempty, fun before earlier => ?_⟩
    cases before using Fin.cases with
    | zero => exact other
    | succ before => exact fresh before (Fin.succ_lt_succ_iff.1 earlier)

/-- A blank tag is no other spelling of a tag that is not blank. -/
theorem isFirst_succ_of_blank (blank : strip tag = []) :
    IsFirst (tag :: rest) position.succ ↔ IsFirst rest position := by
  rw [isFirst_succ, and_iff_right_of_imp]
  rintro ⟨nonempty, -⟩
  rw [key, blank, lower_nil]
  exact (lower_ne_nil nonempty).symm

theorem firstSpellings_cons (tag : Text) (rest : List Text) :
    firstSpellings (tag :: rest) =
      if strip tag = [] then firstSpellings rest
      else strip tag :: (firstSpellings rest).filter (lower · ≠ key tag) := by
  have positions : List.finRange (tag :: rest).length =
      0 :: (List.finRange rest.length).map Fin.succ := List.finRange_succ
  rw [firstSpellings, positions, List.filter_cons, List.filter_map]
  by_cases blank : strip tag = []
  · have notFirst : ¬ IsFirst (tag :: rest) 0 := fun first => isFirst_zero.1 first blank
    rw [if_pos blank, if_neg (mt of_decide_eq_true notFirst), List.map_map]
    simp only [Function.comp_def, isFirst_succ_of_blank blank]
    rfl
  · have isFirst : IsFirst (tag :: rest) 0 := isFirst_zero.2 blank
    rw [if_neg blank, if_pos (decide_eq_true isFirst), List.map_cons, List.map_map, firstSpellings,
      List.filter_map, List.filter_filter]
    refine congrArg (strip tag :: ·) (congrArg _ (List.filter_congr fun position _ => ?_))
    have apart : IsFirst (tag :: rest) position.succ ↔
        lower (strip (rest.get position)) ≠ key tag ∧ IsFirst rest position := by
      rw [isFirst_succ, ne_comm]
      rfl
    rw [Bool.eq_iff_iff]
    simpa using apart

end First

/-- Of every tag the first spelling is kept, in the order in which they come. -/
theorem distinct_eq_firstSpellings (tags : List Text) : distinct tags = firstSpellings tags := by
  induction tags with
  | nil => rfl
  | cons tag rest ih => rw [distinct_cons, firstSpellings_cons, ih]

theorem exists_of_mem_distinct {tags : List Text} {kept : Text} (member : kept ∈ distinct tags) :
    ∃ tag ∈ tags, strip tag = kept := by
  rw [distinct_eq_firstSpellings] at member
  obtain ⟨position, -, same⟩ := List.mem_map.1 member
  exact ⟨tags.get position, List.get_mem tags position, same⟩

/-- Case and surrounding white space aside, the tags that are kept are those that are not blank. -/
theorem exists_mem_distinct_iff {tags : List Text} {k : Text} :
    (∃ kept ∈ distinct tags, lower kept = k) ↔ ∃ tag ∈ tags, strip tag ≠ [] ∧ key tag = k := by
  induction tags with
  | nil => simp [distinct, distinctFrom]
  | cons tag rest ih =>
    rw [distinct_cons]
    by_cases blank : strip tag = []
    · rw [if_pos blank, ih]
      simp [blank]
    · rw [if_neg blank]
      by_cases same : key tag = k
      · have first : lower (strip tag) = k := same
        simp [blank, same, first]
      · -- What is dropped behind the first tag has the key of that tag.
        have other : lower (strip tag) ≠ k := same
        have later : (∃ kept ∈ (distinct rest).filter (lower · ≠ key tag), lower kept = k) ↔
            ∃ kept ∈ distinct rest, lower kept = k := by
          constructor
          · rintro ⟨kept, member, equal⟩
            exact ⟨kept, List.mem_of_mem_filter member, equal⟩
          · rintro ⟨kept, member, rfl⟩
            exact ⟨kept, List.mem_filter.2 ⟨member, decide_eq_true (Ne.symm same)⟩, rfl⟩
        simp only [List.mem_cons, exists_eq_or_imp, other, same, false_or, and_false, later, ih]

theorem has_distinct_iff {tags : List Text} {label : Text} :
    has (distinct tags) label = true ↔ ∃ tag ∈ tags, strip tag ≠ [] ∧ key label = key tag := by
  have isTag := (isDistinct_distinct tags).isTag
  have kept : has (distinct tags) label = true ↔
      ∃ kept ∈ distinct tags, lower kept = key label := by
    rw [has, List.any_eq_true]
    refine exists_congr fun tag => and_congr_right fun member => ?_
    rw [beq_iff_eq, key, (isTag tag member).1]
  rw [kept, exists_mem_distinct_iff]
  simp only [eq_comm]

/-! ## Tags in one text -/

theorem distinctFrom_map {f : Text → Text} (same : ∀ tag, strip (f tag) = strip tag)
    (seen tags : List Text) : distinctFrom seen (tags.map f) = distinctFrom seen tags := by
  induction tags generalizing seen with
  | nil => rfl
  | cons tag rest ih =>
    rw [List.map_cons, distinctFrom, distinctFrom, same, ih, ih]

theorem comma_not_mem_of_mem_ofText {t tag : Text} (member : tag ∈ ofText t) : ',' ∉ tag := by
  obtain ⟨piece, inPieces, rfl⟩ := exists_of_mem_distinct member
  exact fun comma => not_mem_of_mem_splitOn inPieces ((strip_isInfix piece).subset comma)

/-- Distinct tags without commas come out of the text that the task service keeps. -/
theorem IsDistinct.ofText_toText {tags : List Text} (isDistinct : IsDistinct tags)
    (plain : ∀ tag ∈ tags, ',' ∉ tag) : ofText (toText tags) = tags := by
  cases tags with
  | nil => rfl
  | cons first rest =>
    obtain ⟨plainFirst, plainRest⟩ := List.forall_mem_cons.1 plain
    have pieces : splitOn [','] (joinWith [',', ' '] (first :: rest)) =
        first :: rest.map ([' '] ++ ·) := splitOn_joinWith (by simp) plainFirst plainRest
    have blank (tag : Text) : strip ([' '] ++ tag) = strip tag := strip_cons_of_blank rfl tag
    have spaced : distinct (first :: rest.map ([' '] ++ ·)) = distinct (first :: rest) := by
      rw [distinct_cons, distinct_cons, distinct, distinct, distinctFrom_map blank]
    change distinct (splitOn [','] (joinWith [',', ' '] (first :: rest))) = first :: rest
    rw [pieces, spaced, isDistinct.distinct_eq]

theorem ofText_toText_ofText (t : Text) : ofText (toText (ofText t)) = ofText t :=
  (isDistinct_distinct _).ofText_toText fun _ => comma_not_mem_of_mem_ofText

end Tags

namespace Task

theorem IsReadFrom.tags_eq {fields : Value.Fields} {task : Task} (read : IsReadFrom fields task)
    {tags : List Text} (given : Value.Fields.get? fields "tags" = some (.ofTexts tags)) :
    task.tags = Tags.distinct tags := by
  have settled := fieldOf_eq_valid (some []) given (tagsOf_ofTexts tags)
  rw [read.tags] at settled
  exact Checked.valid.inj settled

theorem hasTag_iff {task : Task} {tags : List Text} (settled : task.tags = Tags.distinct tags)
    (label : Text) :
    task.hasTag label = true ↔
      ∃ tag ∈ tags, strip tag ≠ [] ∧ lower (strip label) = lower (strip tag) := by
  rw [hasTag, settled]
  exact Tags.has_distinct_iff

/-- Tags that are read from a text are read again from the text that they make up.  Of a list of tags
    the first spellings are kept, and a task that is given the list has a tag exactly if the list has
    one that is the same, case and surrounding white space aside, and not blank. -/
theorem tags_keep_spellings :
    (∀ t : Text, Tags.ofText (Tags.toText (Tags.ofText t)) = Tags.ofText t) ∧
    ∀ tags : List Text,
      Tags.IsDistinct (Tags.distinct tags) ∧
      Tags.distinct tags = Tags.firstSpellings tags ∧
      (∀ tag ∈ tags, strip tag ≠ [] →
        ∃ kept ∈ Tags.distinct tags, lower kept = lower (strip tag)) ∧
      ofValue (.table [("tags", .ofTexts tags)]) = .valid { tags := Tags.distinct tags } ∧
      ∀ (fields : Value.Fields) (task : Task),
        Value.Fields.get? fields "tags" = some (.ofTexts tags) →
        ofValue (.table fields) = .valid task →
        task.tags = Tags.distinct tags ∧
        ∀ label, task.hasTag label = true ↔
          ∃ tag ∈ tags, strip tag ≠ [] ∧ lower (strip label) = lower (strip tag) := by
  refine ⟨Tags.ofText_toText_ofText, fun tags => ⟨Tags.isDistinct_distinct tags,
    Tags.distinct_eq_firstSpellings tags, fun tag member nonempty => ?_, ?_,
    fun fields task given valid => ?_⟩⟩
  · exact Tags.exists_mem_distinct_iff.2 ⟨tag, member, nonempty, rfl⟩
  · -- The other fields are left out, and so have their defaults.
    have tagsValid : fieldOf [("tags", .ofTexts tags)] "tags" tagsOf (some []) =
        .valid (Tags.distinct tags) := fieldOf_eq_valid _ rfl (tagsOf_ofTexts tags)
    exact ofValue_eq_valid_iff.2 ⟨_, rfl, rfl, rfl, rfl, rfl, rfl, rfl, rfl, rfl, rfl, rfl,
      tagsValid, rfl, rfl⟩
  · obtain ⟨_, same, read⟩ := ofValue_eq_valid_iff.1 valid
    cases same
    have settled := read.tags_eq given
    exact ⟨settled, hasTag_iff settled⟩

/-- A capital sigma is the final one at the end of a word, so that two spellings of a street are the
    same tag, and a third with another letter at its end is not. -/
theorem tags_keep_spellings_street :
    let tags : List Text := [" ΟΔΟΣ", "Milk", "\t", "οδος ", "οδοσ", "MILK"]
    let fields : Value.Fields := [("title", .null), ("tags", .ofTexts tags)]
    let task : Task := { tags := ["ΟΔΟΣ", "Milk", "οδοσ"] }
    Value.Fields.get? fields "tags" = some (.ofTexts tags) ∧ ofValue (.table fields) = .valid task ∧
      Tags.firstSpellings tags = task.tags ∧ task.hasTag "Οδος\n" = true ∧
      task.hasTag "" = false := by
  intro tags fields task
  have given : Value.Fields.get? fields "tags" = some (.ofTexts tags) := rfl
  have valid : ofValue (.table fields) = .valid task := by decide +kernel
  obtain ⟨-, distinct, -, -, built⟩ := tags_keep_spellings.2 tags
  obtain ⟨settled, hasTag⟩ := built fields task given valid
  refine ⟨given, valid, distinct.symm.trans settled.symm, ?_, ?_⟩
  · exact (hasTag _).2 ⟨"οδος ", by decide, by decide, by decide +kernel⟩
  · rw [← Bool.not_eq_true, hasTag]
    rintro ⟨tag, -, nonempty, same⟩
    exact lower_ne_nil nonempty same.symm

end Task

end TaskTitles
