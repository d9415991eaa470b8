import TaskTitles.Normalize.Modifiers
import TaskTitles.Proofs.Text.Strip

/-!
# Distinct tags

Tags are distinct when each is stripped, none is blank, and no two are the same, case aside.
Settling makes tags distinct (`isDistinct_distinct`) and changes no tags that are
(`IsDistinct.distinct_eq`), and the words that a title adds keep them so (`IsDistinct.addTags`).
-/

namespace TaskTitles

open Text

namespace Tags

/-- A text as it can stand among settled tags. -/
def IsTag (tag : Text) : Prop := strip tag = tag ∧ tag ≠ []

instance (tag : Text) : Decidable (IsTag tag) := inferInstanceAs (Decidable (_ ∧ _))

structure IsDistinct (tags : List Text) : Prop where
  isTag : ∀ tag ∈ tags, IsTag tag
  nodup : (tags.map lower).Nodup

theorem isDistinct_nil : IsDistinct [] := ⟨by simp, by simp⟩

theorem isDistinct_distinctFrom (seen raw : List Text) :
    IsDistinct (distinctFrom seen raw) ∧ ∀ tag ∈ distinctFrom seen raw, lower tag ∉ seen := by
  induction raw generalizing seen with
  | nil => exact ⟨isDistinct_nil, by simp [distinctFrom]⟩
  | cons tag rest ih =>
    rw [distinctFrom]
    split
    · exact ih seen
    · -- A tag that is kept is seen by the rest, which therefore does not repeat it.
      next fresh =>
      rw [not_or] at fresh
      obtain ⟨⟨restTags, restNodup⟩, restFresh⟩ := ih (lower (strip tag) :: seen)
      refine ⟨⟨?_, ?_⟩, ?_⟩
      · exact List.forall_mem_cons.2 ⟨⟨strip_strip tag, fresh.1⟩, restTags⟩
      · refine List.nodup_cons.2 ⟨fun repeated => ?_, restNodup⟩
        obtain ⟨other, member, same⟩ := List.mem_map.1 repeated
        exact restFresh other member (same ▸ List.mem_cons_self)
      · refine List.forall_mem_cons.2 ⟨fresh.2, fun other member inSeen => ?_⟩
        exact restFresh other member (List.mem_cons_of_mem _ inSeen)

theorem isDistinct_distinct (raw : List Text) : IsDistinct (distinct raw) :=
  (isDistinct_distinctFrom [] raw).1

theorem distinctFrom_eq_self {seen tags : List Text} (isDistinct : IsDistinct tags)
    (fresh : ∀ tag ∈ tags, lower tag ∉ seen) : distinctFrom seen tags = tags := by
  induction tags generalizing seen with
  | nil => rfl
  | cons tag rest ih =>
    obtain ⟨stripped, nonempty⟩ := isDistinct.isTag tag List.mem_cons_self
    have nodup := List.nodup_cons.1 isDistinct.nodup
    have restDistinct : IsDistinct rest :=
      ⟨fun other member => isDistinct.isTag other (List.mem_cons_of_mem tag member), nodup.2⟩
    -- No later tag has been seen: neither before, nor as the first one.
    have restFresh : ∀ other ∈ rest, lower other ∉ lower tag :: seen := by
      intro other member repeated
      cases List.mem_cons.1 repeated with
      | inl same => exact nodup.1 (same ▸ List.mem_map_of_mem member)
      | inr inSeen => exact fresh other (List.mem_cons_of_mem tag member) inSeen
    rw [distinctFrom, stripped, if_neg (not_or.2 ⟨nonempty, fresh tag List.mem_cons_self⟩),
      ih restDistinct restFresh]

theorem IsDistinct.distinct_eq {tags : List Text} (isDistinct : IsDistinct tags) :
    distinct tags = tags :=
  distinctFrom_eq_self isDistinct fun _ _ => List.not_mem_nil

theorem has_eq_false_iff {tags : List Text} {word : Text} (isTags : ∀ tag ∈ tags, IsTag tag)
    (isTag : IsTag word) : has tags word = false ↔ lower word ∉ tags.map lower := by
  rw [has, List.any_eq_false, List.mem_map]
  constructor
  · rintro absent ⟨tag, member, same⟩
    apply absent tag member
    rw [key, key, (isTags tag member).1, isTag.1, same, beq_self_eq_true]
  · intro absent tag member same
    rw [key, key, (isTags tag member).1, isTag.1, beq_iff_eq] at same
    exact absent ⟨tag, member, same⟩

/-- The words that a title adds keep tags distinct. -/
theorem IsDistinct.addTags {tags words : List Text} (isDistinct : IsDistinct tags)
    (isTag : ∀ word ∈ words, IsTag word) : IsDistinct (Engine.addTags tags words) := by
  induction words generalizing tags with
  | nil => exact isDistinct
  | cons word rest ih =>
    have wordTag := isTag word List.mem_cons_self
    have restTags : ∀ other ∈ rest, IsTag other := fun other member =>
      isTag other (List.mem_cons_of_mem word member)
    rw [Engine.addTags, List.foldl_cons]
    cases known : has tags word with
    | true =>
      rw [if_pos rfl]
      exact ih isDistinct restTags
    | false =>
      rw [if_neg Bool.false_ne_true]
      -- The word is a tag, and no tag so far is the same.
      refine ih ⟨?_, ?_⟩ restTags
      · intro tag member
        cases List.mem_append.1 member with
        | inl before => exact isDistinct.isTag tag before
        | inr added => rwa [List.mem_singleton.1 added]
      · rw [List.map_append, List.map_singleton]
        refine List.nodup_append.2 ⟨isDistinct.nodup, by simp, ?_⟩
        intro first inTags second inWord same
        rw [List.mem_singleton.1 inWord] at same
        exact (has_eq_false_iff isDistinct.isTag wordTag).1 known (same ▸ inTags)

end Tags

end TaskTitles
