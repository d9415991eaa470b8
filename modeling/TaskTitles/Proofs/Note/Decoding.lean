import TaskTitles.Proofs.Note.Reconciling
import TaskTitles.Proofs.Title.Grammar

/-!
# Reading banners

The labels of a banner stand behind the sentinel like the modifiers of a title behind its
description.  Where no tag holds the delimiter, taking them out as modifiers gives the labels back,
and the pin marker says whether the due date is pinned (`decode_encode`).  So a banner is the same as
another one exactly if both say the same (`encode_eq_encode_iff`).
-/

namespace TaskTitles.Note.Codec

open Text Title

/-- What a banner says of the pin and of the tags.  The sentinel comes out as the first modifier. -/
def decode (banner : Text) : Bool × List Text :=
  (({} : Codec).isPinned banner, (modifiersOf ['/'] banner).tail)

section Decoding

variable {pinned : Bool} {tags : List Text}

/-! ## Labels as modifiers -/

theorem mention_eq_written (shown : List Text) :
    ({} : Codec).mention shown = written '/' (shown.map (Segment.mk .modifier)) := by
  rw [mention, written, List.flatMap_map]
  rfl

theorem isValid_labels (unmarked : ∀ tag ∈ tags, '/' ∉ tag) :
    ∀ label ∈ labels tags, (Segment.mk .modifier label).IsValid '/' := by
  intro label member
  obtain ⟨nonempty, -, tag, -, rfl⟩ := mem_labels member
  exact ⟨strip_strip tag, not_mem_labels unmarked _ member, fun _ => nonempty⟩

theorem modifiersOf_mention {shown : List Text}
    (valid : ∀ label ∈ shown, (Segment.mk .modifier label).IsValid '/') {gap : Text}
    (unmarked : '/' ∉ gap) :
    modifiersOf ['/'] (gap ++ ({} : Codec).mention shown) = modifiersOf ['/'] gap ++ shown := by
  have validSegments : ∀ segment ∈ shown.map (Segment.mk .modifier), segment.IsValid '/' := by
    simpa using valid
  have modifiers : ∀ segment ∈ shown.map (Segment.mk .modifier), segment.mark = .modifier := by
    simp
  rw [mention_eq_written, modifiersOf_written (by decide) validSegments modifiers unmarked,
    List.map_map]
  simp [Function.comp_def]

theorem tail_modifiersOf_encode (unmarked : ∀ tag ∈ tags, '/' ∉ tag) (pinned : Bool) :
    (modifiersOf ['/'] (({} : Codec).encode pinned tags)).tail = labels tags := by
  have valid := isValid_labels unmarked
  have sentinel : modifiersOf ['/'] ['~', '~'] = [['~', '~']] := by decide
  cases pinned with
  | true =>
    -- Nothing stands between the two delimiters, and nothing in front of the first label.
    have split : ({} : Codec).pinMarker ++ ({} : Codec).mention (labels tags) =
        ['~', '~'] ++ '/' :: ([] ++ '/' :: ([] ++ ({} : Codec).mention (labels tags))) := rfl
    rw [encode_true isPlain_default, split, modifiersOf_append_cons (by decide),
      modifiersOf_append_cons List.not_mem_nil, modifiersOf_mention valid List.not_mem_nil, sentinel]
    rfl
  | false =>
    rw [encode_false isPlain_default]
    cases shown : labels tags with
    | nil => rfl
    | cons first rest =>
      rw [shown] at valid
      obtain ⟨validFirst, validRest⟩ := List.forall_mem_cons.1 valid
      have split : ({} : Codec).sentinel ++ (({} : Codec).mention (first :: rest)).drop 1 =
          ['~', '~'] ++ '/' :: (first ++ ({} : Codec).mention rest) := rfl
      rw [if_neg (List.cons_ne_nil first rest), split, modifiersOf_append_cons (by decide),
        modifiersOf_mention validRest validFirst.unmarked, sentinel,
        modifiersOf_of_not_mem validFirst.unmarked, validFirst.stripped,
        if_neg (validFirst.nonempty rfl)]
      rfl

/-! ## Reading back -/

theorem isPinned_encode (unmarked : ∀ tag ∈ tags, '/' ∉ tag) :
    ({} : Codec).isPinned (({} : Codec).encode pinned tags) = pinned := by
  cases pinned with
  | true =>
    rw [isPinned_iff isPlain_default, encode_true isPlain_default]
    exact List.infix_append_left
  | false =>
    rw [← Bool.not_eq_true, isPinned_iff isPlain_default]
    exact not_pinMarker_infix_encode_false unmarked

/-- A banner says what it was made of. -/
theorem decode_encode (unmarked : ∀ tag ∈ tags, '/' ∉ tag) :
    decode (({} : Codec).encode pinned tags) = (pinned, labels tags) := by
  rw [decode, isPinned_encode unmarked, tail_modifiersOf_encode unmarked]

theorem encode_congr {tags' : List Text} (same : labels tags = labels tags') :
    ({} : Codec).encode pinned tags = ({} : Codec).encode pinned tags' := by
  cases pinned with
  | true => rw [encode_true isPlain_default, encode_true isPlain_default, same]
  | false => rw [encode_false isPlain_default, encode_false isPlain_default, same]

/-- The delimiter can be seen, so a tag that holds it is not blank. -/
theorem delimiter_not_mem_of_visible (unmarked : ∀ tag ∈ tags, strip tag ≠ [] → '/' ∉ tag) :
    ∀ tag ∈ tags, '/' ∉ tag := by
  intro tag inTags member
  have visible : ∀ c ∈ ['/'], isBlank c = false := List.forall_mem_singleton.2 (by decide)
  have occurs : ['/'] <:+: strip tag :=
    (infix_strip_iff_of_forall visible).2 ((List.singleton_infix_iff '/' tag).2 member)
  exact unmarked tag inTags (occurs.ne_nil (List.cons_ne_nil '/' [])) member

end Decoding

/-- Banners whose tags are free of the delimiter are the same exactly if they agree on the pin and on
    the labels in their order, and each of them records its own pin. -/
theorem encode_eq_encode_iff {pinned pinned' : Bool} {tags tags' : List Text}
    (unmarked : ∀ tag ∈ tags, strip tag ≠ [] → '/' ∉ tag)
    (unmarked' : ∀ tag ∈ tags', strip tag ≠ [] → '/' ∉ tag) :
    (({} : Codec).encode pinned tags = ({} : Codec).encode pinned' tags' ↔
        pinned = pinned' ∧ labels tags = labels tags') ∧
      ({} : Codec).isPinned (({} : Codec).encode pinned tags) = pinned := by
  have absent := delimiter_not_mem_of_visible unmarked
  have absent' := delimiter_not_mem_of_visible unmarked'
  refine ⟨⟨fun same => ?_, ?_⟩, isPinned_encode absent⟩
  · have read : (pinned, labels tags) = (pinned', labels tags') := by
      rw [← decode_encode absent, ← decode_encode absent', same]
    exact ⟨congrArg Prod.fst read, congrArg Prod.snd read⟩
  · rintro ⟨rfl, same⟩
    exact encode_congr same

/-- Blanks around tags make no difference, and the pin does. -/
theorem encode_eq_encode_iff_spaced :
    ({} : Codec).encode true [" a b ", "\t", "~~"] = ({} : Codec).encode true ["a b", "~~"] ∧
      ({} : Codec).encode true ["a b"] ≠ ({} : Codec).encode false ["a b"] ∧
      ({} : Codec).isPinned (({} : Codec).encode false ["a b"]) = false := by
  obtain ⟨spaced, -⟩ := @encode_eq_encode_iff true true [" a b ", "\t", "~~"] ["a b", "~~"]
    (by decide) (by decide)
  obtain ⟨unpinned, recorded⟩ := @encode_eq_encode_iff false true ["a b"] ["a b"] (by decide)
    (by decide)
  refine ⟨spaced.2 ⟨rfl, by decide⟩, fun same => ?_, recorded⟩
  exact Bool.noConfusion (unpinned.1 same.symm).1

end TaskTitles.Note.Codec
