import Mathlib.Data.Bool.AllAny
import TaskTitles.Note.Banner
import TaskTitles.Proofs.Text.Lines

/-!
# What banners look like

A banner is an opening followed by the labels of the tags (`encode_true`, `encode_false`).  Banners
start like banners, end visibly, have no line breaks where the tags have none, and look pinned
without a pin only where the labels of the tags do it (`pinMarker_infix_encode_false_iff`).
-/

namespace TaskTitles.Note.Codec

open Text

/-- Sentinel and delimiter can be seen, and the lines of notes are ended by line feeds. -/
structure IsPlain (codec : Codec) : Prop where
  sentinel_visible : ∀ c ∈ codec.sentinel, isBlank c = false
  delimiter_visible : ∀ c ∈ codec.delimiter, isBlank c = false
  delimiter_ne_nil : codec.delimiter ≠ []
  lineSeparator_eq : codec.lineSeparator = ['\n']

theorem isPlain_default : ({} : Codec).IsPlain where
  sentinel_visible := List.all_iff_forall_prop.1 (by decide)
  delimiter_visible := List.all_iff_forall_prop.1 (by decide)
  delimiter_ne_nil := by decide
  lineSeparator_eq := rfl

theorem isPlain_sized (room : Int) : ({ maxLength := room } : Codec).IsPlain where
  sentinel_visible := isPlain_default.sentinel_visible
  delimiter_visible := isPlain_default.delimiter_visible
  delimiter_ne_nil := isPlain_default.delimiter_ne_nil
  lineSeparator_eq := rfl

/-! ## Labels -/

/-- What banners show of tags: each one stripped, without the blank ones. -/
def labels (tags : List Text) : List Text := (tags.map strip).filter (· ≠ [])

/-- Labels as they stand in a banner, a blank and a delimiter before each. -/
def mention (codec : Codec) (labels : List Text) : Text :=
  labels.flatMap fun label => ' ' :: codec.delimiter ++ label

@[simp] theorem mention_nil (codec : Codec) : codec.mention [] = [] := rfl

@[simp] theorem mention_cons (codec : Codec) (label : Text) (labels : List Text) :
    codec.mention (label :: labels) = ' ' :: codec.delimiter ++ label ++ codec.mention labels := rfl

theorem mem_labels {label : Text} {tags : List Text} (member : label ∈ labels tags) :
    label ≠ [] ∧ EndsVisible label ∧ ∃ tag ∈ tags, label = strip tag := by
  obtain ⟨inStripped, nonempty⟩ := List.mem_filter.1 member
  obtain ⟨tag, inTags, rfl⟩ := List.mem_map.1 inStripped
  exact ⟨by simpa using nonempty, endsVisible_strip tag, tag, inTags, rfl⟩

/-- A label is a piece of a tag. -/
theorem unbroken_labels {tags : List Text} (unbroken : ∀ tag ∈ tags, Unbroken tag) :
    ∀ label ∈ labels tags, Unbroken label := by
  intro label member
  obtain ⟨-, -, tag, inTags, rfl⟩ := mem_labels member
  exact (unbroken tag inTags).mono (strip_isInfix tag)

theorem not_mem_labels {c : Char} {tags : List Text} (absent : ∀ tag ∈ tags, c ∉ tag) :
    ∀ label ∈ labels tags, c ∉ label := by
  intro label member inLabel
  obtain ⟨-, -, tag, inTags, rfl⟩ := mem_labels member
  exact absent tag inTags ((strip_isInfix tag).subset inLabel)

theorem labels_cons (tag : Text) (tags : List Text) :
    labels (tag :: tags) = if strip tag = [] then labels tags else strip tag :: labels tags := by
  by_cases blank : strip tag = [] <;> simp [labels, blank]

/-- Behind an opening longer than the sentinel, every label has a blank before it. -/
theorem addTags_of_lt {codec : Codec} {opening : Text}
    (long : codec.sentinel.length < opening.length) (tags : List Text) :
    codec.addTags opening tags = opening ++ codec.mention (labels tags) := by
  -- The opening grows with every label, and it only has to stay longer than the sentinel.
  induction tags generalizing opening with
  | nil => simp [addTags, labels]
  | cons tag tags ih =>
    have step : codec.addTags opening (tag :: tags) =
        codec.addTags (if strip tag = [] then opening
          else opening ++ [' '] ++ codec.delimiter ++ strip tag) tags := by
      simp [addTags, long]
    rw [step, labels_cons]
    by_cases blank : strip tag = []
    · simp [blank, ih long]
    · rw [if_neg blank, if_neg blank, ih (by simp only [List.length_append]; omega)]
      simp

theorem addTags_sentinel {codec : Codec} (plain : codec.IsPlain) (tags : List Text) :
    codec.addTags codec.sentinel tags =
      codec.sentinel ++ (codec.mention (labels tags)).drop 1 := by
  induction tags with
  | nil => simp [addTags, labels]
  | cons tag tags ih =>
    have step : codec.addTags codec.sentinel (tag :: tags) =
        codec.addTags (if strip tag = [] then codec.sentinel
          else codec.sentinel ++ codec.delimiter ++ strip tag) tags := by
      simp [addTags]
    rw [step, labels_cons]
    by_cases blank : strip tag = []
    · simp [blank, ih]
    · -- The first label makes the opening longer than the sentinel.
      have long : codec.sentinel.length <
          (codec.sentinel ++ codec.delimiter ++ strip tag).length := by
        have positive := List.length_pos_iff.2 plain.delimiter_ne_nil
        simp only [List.length_append]
        omega
      rw [if_neg blank, if_neg blank, addTags_of_lt long]
      simp

/-! ## Banners -/

theorem pinMarker_eq (codec : Codec) : codec.pinMarker = codec.bannerStart ++ codec.delimiter := by
  simp [pinMarker, bannerStart, Title.dueMark, times]

variable {codec : Codec}

/-- A banner that pins the due date is the pin marker with the labels. -/
theorem encode_true (plain : codec.IsPlain) (tags : List Text) :
    codec.encode true tags = codec.pinMarker ++ codec.mention (labels tags) := by
  have long : codec.sentinel.length < codec.pinMarker.length := by
    have positive := List.length_pos_iff.2 plain.delimiter_ne_nil
    simp only [pinMarker_eq, bannerStart, List.length_append]
    omega
  -- The marker is longer than the sentinel, so the banner is never taken for the bare one.
  rw [encode, if_pos rfl, addTags_of_lt long, if_neg]
  intro equal
  have lengths := congrArg List.length equal
  simp only [List.length_append] at lengths
  omega

/-- A banner without a pin is the sentinel with the labels, if there are any. -/
theorem encode_false (plain : codec.IsPlain) (tags : List Text) :
    codec.encode false tags =
      if labels tags = [] then [] else codec.sentinel ++ (codec.mention (labels tags)).drop 1 := by
  rw [encode, if_neg Bool.false_ne_true, addTags_sentinel plain]
  cases labels tags with
  | nil => simp
  | cons label rest => simp [plain.delimiter_ne_nil]

theorem encode_false_eq_nil_iff (plain : codec.IsPlain) {tags : List Text} :
    codec.encode false tags = [] ↔ labels tags = [] := by
  rw [encode_false plain]
  cases labels tags with
  | nil => simp
  | cons label rest => simp [plain.delimiter_ne_nil]

/-! ## Banners as first lines -/

/-- A text that starts like a banner and ends visibly. -/
structure IsBanner (codec : Codec) (banner : Text) : Prop where
  starts : codec.bannerStart <+: banner
  ends : EndsVisible banner

theorem bannerStart_visible (plain : codec.IsPlain) : ∀ c ∈ codec.bannerStart, isBlank c = false := by
  intro c member
  cases List.mem_append.1 member with
  | inl inSentinel => exact plain.sentinel_visible c inSentinel
  | inr inDelimiter => exact plain.delimiter_visible c inDelimiter

theorem bannerStart_ne_nil (plain : codec.IsPlain) : codec.bannerStart ≠ [] := by
  simp [bannerStart, plain.delimiter_ne_nil]

theorem bannerStart_unbroken (plain : codec.IsPlain) : Unbroken codec.bannerStart :=
  unbroken_of_forall (bannerStart_visible plain)

theorem strip_bannerStart_append (plain : codec.IsPlain) (t : Text) :
    strip (codec.bannerStart ++ t) = codec.bannerStart ++ stripEnd t :=
  strip_append (bannerStart_ne_nil plain) (startsVisible_of_forall (bannerStart_visible plain))
    (endsVisible_of_forall (bannerStart_visible plain)) t

theorem pinMarker_visible (plain : codec.IsPlain) : ∀ c ∈ codec.pinMarker, isBlank c = false := by
  intro c member
  rw [pinMarker_eq] at member
  cases List.mem_append.1 member with
  | inl inStart => exact bannerStart_visible plain c inStart
  | inr inDelimiter => exact plain.delimiter_visible c inDelimiter

theorem IsBanner.ne_nil {banner : Text} (isBanner : codec.IsBanner banner) (plain : codec.IsPlain) :
    banner ≠ [] := by
  rintro rfl
  exact bannerStart_ne_nil plain (List.prefix_nil.1 isBanner.starts)

theorem IsBanner.startsVisible {banner : Text} (isBanner : codec.IsBanner banner)
    (plain : codec.IsPlain) : StartsVisible banner := by
  obtain ⟨rest, rfl⟩ := isBanner.starts
  exact (startsVisible_of_forall (bannerStart_visible plain)).append (bannerStart_ne_nil plain) rest

theorem endsVisible_mention (plain : codec.IsPlain) {shown : List Text}
    (ends : ∀ label ∈ shown, EndsVisible label) : EndsVisible (codec.mention shown) := by
  induction shown with
  | nil => simp [EndsVisible]
  | cons label rest ih =>
    have delimiterEnds := endsVisible_of_forall plain.delimiter_visible
    have labelEnds := ends label List.mem_cons_self
    have restEnds := ih fun later member => ends later (List.mem_cons_of_mem label member)
    have behindBlank : EndsVisible (codec.delimiter ++ label ++ codec.mention rest) :=
      (delimiterEnds.append labelEnds).append restEnds
    simpa using behindBlank.prepend (by simp [plain.delimiter_ne_nil]) [' ']

theorem endsVisible_labels (tags : List Text) : ∀ label ∈ labels tags, EndsVisible label :=
  fun _ member => (mem_labels member).2.1

theorem isBanner_encode_true (plain : codec.IsPlain) (tags : List Text) :
    codec.IsBanner (codec.encode true tags) where
  starts := by
    rw [encode_true plain, pinMarker_eq, List.append_assoc]
    exact List.prefix_append _ _
  ends := by
    rw [encode_true plain]
    exact (endsVisible_of_forall (pinMarker_visible plain)).append
      (endsVisible_mention plain (endsVisible_labels tags))

theorem isBanner_encode_false (plain : codec.IsPlain) {tags : List Text}
    (nonempty : codec.encode false tags ≠ []) : codec.IsBanner (codec.encode false tags) := by
  rw [encode_false plain] at nonempty ⊢
  have mentionEnds := endsVisible_mention plain (endsVisible_labels tags)
  cases shown : labels tags with
  | nil => simp [shown] at nonempty
  | cons label rest =>
    -- The blank in front of the first label is not shown.
    rw [shown, mention_cons, List.cons_append, List.cons_append, ← List.singleton_append]
      at mentionEnds
    have behindBlank := mentionEnds.of_append
    rw [if_neg (List.cons_ne_nil label rest), mention_cons, List.cons_append, List.cons_append,
      List.drop_succ_cons, List.drop_zero]
    refine ⟨?_, behindBlank.prepend (by simp [plain.delimiter_ne_nil]) _⟩
    rw [bannerStart, List.append_assoc, ← List.append_assoc]
    exact List.prefix_append _ _

theorem isBanner_encode (plain : codec.IsPlain) {pinned : Bool} {tags : List Text}
    (nonempty : codec.encode pinned tags ≠ []) : codec.IsBanner (codec.encode pinned tags) := by
  cases pinned with
  | false => exact isBanner_encode_false plain nonempty
  | true => exact isBanner_encode_true plain tags

theorem unbroken_encode (plain : codec.IsPlain) {pinned : Bool} {tags : List Text}
    (unbroken : ∀ label ∈ labels tags, Unbroken label) : Unbroken (codec.encode pinned tags) := by
  have mentionUnbroken : Unbroken (codec.mention (labels tags)) := by
    intro c member
    obtain ⟨label, inLabels, inEntry⟩ := List.mem_flatMap.1 member
    cases List.mem_append.1 inEntry with
    | inl front =>
      rcases List.mem_cons.1 front with rfl | inDelimiter
      · decide
      · exact unbroken_of_forall plain.delimiter_visible c inDelimiter
    | inr inLabel => exact unbroken label inLabels c inLabel
  cases pinned with
  | true =>
    rw [encode_true plain]
    exact (unbroken_of_forall (pinMarker_visible plain)).append mentionUnbroken
  | false =>
    rw [encode_false plain]
    split
    · simp [Unbroken]
    · exact (unbroken_of_forall plain.sentinel_visible).append
        (mentionUnbroken.mono (List.drop_suffix 1 _).isInfix)

/-! ## Banners with and without the pin -/

theorem mention_eq_cons {shown : List Text} (nonempty : shown ≠ []) :
    codec.mention shown = ' ' :: (codec.mention shown).drop 1 := by
  cases shown with
  | nil => exact absurd rfl nonempty
  | cons label rest => rfl

/-- A pin alone is a marker, and beside labels it adds a marker and a blank at most. -/
theorem length_encode_true_le (plain : codec.IsPlain) (tags : List Text) :
    (codec.encode true tags).length ≤ (codec.encode false tags).length + codec.pinMarker.length +
      if codec.encode false tags = [] then 0 else 1 := by
  by_cases empty : labels tags = []
  · rw [if_pos ((encode_false_eq_nil_iff plain).2 empty), encode_true plain, empty, mention_nil,
      List.append_nil]
    omega
  · rw [if_neg fun nothing => empty ((encode_false_eq_nil_iff plain).1 nothing), encode_true plain,
      encode_false plain, if_neg empty, List.length_append, List.length_append, List.length_drop]
    omega

theorem unbroken_encode_true (plain : codec.IsPlain) {tags : List Text}
    (unbroken : Unbroken (codec.encode false tags)) : Unbroken (codec.encode true tags) := by
  rw [encode_true plain]
  rw [encode_false plain] at unbroken
  apply (unbroken_of_forall (pinMarker_visible plain)).append
  by_cases empty : labels tags = []
  · simp [empty, Unbroken]
  · rw [if_neg empty] at unbroken
    rw [mention_eq_cons empty]
    intro c member
    rcases List.mem_cons.1 member with rfl | behind
    · decide
    · exact unbroken c (List.mem_append_right _ behind)

/-- What starts like no part of a banner's opening stands in a banner with the pin exactly if it
    stands in the one without it. -/
theorem infix_encode_iff (plain : codec.IsPlain) {needle : Text} (nonempty : needle ≠ [])
    (other : ∀ c ∈ codec.pinMarker, needle.head? ≠ some c) (noBlank : needle.head? ≠ some ' ')
    (tags : List Text) :
    needle <:+: codec.encode true tags ↔ needle <:+: codec.encode false tags := by
  have sentinelForeign : ∀ c ∈ codec.sentinel, needle.head? ≠ some c := fun c member =>
    other c (List.mem_append_left _ member)
  rw [encode_true plain, encode_false plain, infix_append_iff_of_forall nonempty other]
  by_cases empty : labels tags = []
  · rw [if_pos empty, empty, mention_nil]
  · have blankForeign : ∀ c ∈ ([' '] : Text), needle.head? ≠ some c := by
      intro c member
      rwa [List.mem_singleton.1 member]
    rw [if_neg empty, infix_append_iff_of_forall nonempty sentinelForeign, mention_eq_cons empty,
      ← List.singleton_append, infix_append_iff_of_forall nonempty blankForeign]
    rfl

/-! ## Banners that look pinned -/

/-- What starts neither with a blank nor with the delimiter and holds no blank is mentioned only as a
    part of a label. -/
theorem infix_mention_iff {needle : Text} (nonempty : needle ≠ []) (noBlank : ' ' ∉ needle)
    (other : ∀ c ∈ codec.delimiter, needle.head? ≠ some c) (shown : List Text) :
    needle <:+: codec.mention shown ↔ ∃ label ∈ shown, needle <:+: label := by
  induction shown with
  | nil => simp [nonempty]
  | cons label rest ih =>
    have foreign : ∀ c ∈ ' ' :: codec.delimiter, needle.head? ≠ some c :=
      List.forall_mem_cons.2 ⟨fun first => noBlank (List.mem_of_head? first), other⟩
    rw [mention_cons, List.append_assoc, infix_append_iff_of_forall nonempty foreign]
    simp only [List.mem_cons, exists_eq_or_imp, ← ih]
    constructor
    · intro occurs
      -- The next entry starts with a blank, which keeps the two entries apart.
      by_cases last : rest = []
      · exact .inl (by simpa [last] using occurs)
      · rw [mention_eq_cons last] at occurs ⊢
        exact (infix_append_cons noBlank occurs).imp_right List.infix_cons
    · rintro (inLabel | inRest)
      · exact List.infix_append_of_infix_left inLabel
      · exact List.infix_append_of_infix_right inRest

/-- The labels of the tags make up a pin marker in a banner: the first one starts with the delimiter,
    which then stands twice behind the sentinel, or one of them holds a marker. -/
def MimicsPin (tags : List Text) : Prop :=
  (∃ first ∈ (labels tags).head?, ['/'] <+: first) ∨
    ∃ label ∈ labels tags, ({} : Codec).pinMarker <:+: label

instance (tags : List Text) : Decidable (MimicsPin tags) :=
  decidable_of_iff
    ((∃ first ∈ (labels tags).head?, startsWith ['/'] first = true) ∨
      ∃ label ∈ labels tags, occursIn ({} : Codec).pinMarker label = true)
    (by simp only [MimicsPin, startsWith_iff, occursIn_iff])

/-- A banner without a pin looks pinned only because of its labels. -/
theorem pinMarker_infix_encode_false_iff {tags : List Text} :
    ({} : Codec).pinMarker <:+: ({} : Codec).encode false tags ↔ MimicsPin tags := by
  have marker : ({} : Codec).pinMarker = ['~', '~', '/', '/'] := rfl
  rw [encode_false isPlain_default, MimicsPin]
  cases shown : labels tags with
  | nil =>
    rw [marker]
    simp
  | cons first rest =>
    have inMention : ({} : Codec).pinMarker <:+: ({} : Codec).mention (first :: rest) ↔
        ∃ label ∈ first :: rest, ({} : Codec).pinMarker <:+: label :=
      infix_mention_iff (by decide) (by decide) (List.forall_mem_singleton.2 (by decide)) _
    obtain ⟨c, cs, rfl⟩ := List.exists_cons_of_ne_nil (mem_labels (shown ▸ List.mem_cons_self)).1
    -- The marker is at the front, where the first label goes on with it, or behind the sentinel.
    rw [← inMention, mention_cons, marker]
    simp [List.infix_cons_iff]

/-- Without a pin and without the delimiter in a tag, a banner has no two delimiters in a row, and
    so no pin marker. -/
theorem not_pinMarker_infix_encode_false {tags : List Text} (unmarked : ∀ tag ∈ tags, '/' ∉ tag) :
    ¬ ({} : Codec).pinMarker <:+: ({} : Codec).encode false tags := by
  have absent := not_mem_labels unmarked
  rw [pinMarker_infix_encode_false_iff]
  rintro (⟨first, isFirst, starts⟩ | ⟨label, member, holds⟩)
  · exact absent first (List.mem_of_head? isFirst) (starts.subset List.mem_cons_self)
  · exact absent label member (holds.subset (by decide))

end TaskTitles.Note.Codec
