import TaskTitles.Proofs.Note.Encoding

/-!
# What reconciling leaves in a note

Reconciling ends in one of five ways (`Reconciled`).  A note keeps its text, or becomes the banner
with further lines, as far as they fit (`reconcile_cases`).  So a second reconciliation with the same
banner changes nothing (`reconcile_reconcile`), and a pin marker at the start of the banner is found
again (`isPinned_reconcile`).  What else can be seen in the note afterwards has been in a line of it
before (`infix_reconcile_cases`); where banners stand at the head of the note only, what it says of
pins is what the banner says (`infix_of_reconcile`).
-/

namespace TaskTitles.Note.Codec

open Text

variable {codec : Codec}

/-! ## Truncating -/

theorem truncate_eq_take (limited : 0 ≤ codec.maxLength) (t : Text) :
    codec.truncate t = t.take codec.maxLength.toNat := by
  rw [truncate, takeUpTo, if_pos limited]

theorem truncate_isPrefix (limited : 0 ≤ codec.maxLength) (t : Text) : codec.truncate t <+: t := by
  rw [truncate_eq_take limited]
  exact List.take_prefix _ t

theorem truncate_eq_self (limited : 0 ≤ codec.maxLength) {t : Text}
    (fits : t.length ≤ codec.maxLength.toNat) : codec.truncate t = t := by
  rw [truncate_eq_take limited, List.take_of_length_le fits]

theorem length_truncate_le (limited : 0 ≤ codec.maxLength) (t : Text) :
    (codec.truncate t).length ≤ codec.maxLength.toNat := by
  rw [truncate_eq_take limited, List.length_take]
  exact Nat.min_le_left _ _

theorem truncate_truncate (limited : 0 ≤ codec.maxLength) (t : Text) :
    codec.truncate (codec.truncate t) = codec.truncate t :=
  truncate_eq_self limited (length_truncate_le limited t)

theorem prefix_truncate (limited : 0 ≤ codec.maxLength) {front t : Text} (lead : front <+: t)
    (fits : front.length ≤ codec.maxLength.toNat) : front <+: codec.truncate t := by
  rw [truncate_eq_take limited]
  exact List.prefix_take_iff.2 ⟨lead, fits⟩

/-! ## Rebuilding -/

theorem foldl_addLine {first : Text} (nonempty : first ≠ []) (rest : List Text) :
    rest.foldl codec.addLine first = joinWith codec.lineSeparator (first :: rest) := by
  induction rest generalizing first with
  | nil => rfl
  | cons line rest ih =>
    have step : codec.addLine first line = first ++ codec.lineSeparator ++ line := by
      simp [addLine, nonempty]
    rw [List.foldl_cons, ih (by simp [step, nonempty]), step]
    cases rest <;> simp [joinWith]

/-- A needle without line feeds in a rebuilt note comes from the banner or from one of the lines. -/
theorem infix_of_foldl_addLine (plain : codec.IsPlain) {needle first : Text}
    (absent : '\n' ∉ needle) {rest : List Text} (occurs : needle <:+: rest.foldl codec.addLine first) :
    needle <:+: first ∨ ∃ line ∈ rest, needle <:+: line := by
  induction rest generalizing first with
  | nil => exact .inl occurs
  | cons line rest ih =>
    rcases ih occurs with inStep | ⟨later, member, inLater⟩
    · rw [addLine] at inStep
      split at inStep
      · exact .inr ⟨line, List.mem_cons_self, inStep⟩
      · -- The line feed between the note so far and the line is not in the needle.
        rw [plain.lineSeparator_eq, List.append_assoc] at inStep
        cases infix_append_cons absent inStep with
        | inl inFirst => exact .inl inFirst
        | inr inLine => exact .inr ⟨line, List.mem_cons_self, inLine⟩
    · exact .inr ⟨later, List.mem_cons_of_mem line member, inLater⟩

/-! ## The shapes of a reconciled note -/

def IsTail (t : Text) : Prop := t = [] ∨ ∃ more, t = '\n' :: more

theorem IsTail.stripEnd {t : Text} (isTail : IsTail t) : IsTail (stripEnd t) := by
  rcases isTail with rfl | ⟨more, rfl⟩
  · exact .inl rfl
  · rcases List.prefix_cons_iff.1 (stripEnd_isPrefix ('\n' :: more)) with empty | ⟨kept, equal, -⟩
    · exact .inl empty
    · exact .inr ⟨kept, equal⟩

theorem IsTail.take {t : Text} (isTail : IsTail t) (n : Nat) : IsTail (t.take n) := by
  rcases isTail with rfl | ⟨more, rfl⟩
  · exact .inl (List.take_nil ..)
  · cases n with
    | zero => exact .inl rfl
    | succ n => exact .inr ⟨more.take n, rfl⟩

theorem head?_lines_append {front tail : Text} (nonempty : front ≠ []) (unbroken : Unbroken front)
    (isTail : IsTail tail) : (lines (front ++ tail)).head? = some front := by
  rcases isTail with rfl | ⟨more, rfl⟩
  · rw [List.append_nil, lines_unbroken nonempty unbroken]
    rfl
  · rw [lines_append_newline unbroken]
    rfl

/-- What may become of a note that is reconciled with a banner. -/
inductive Reconciled (codec : Codec) (note banner : Text) : Text → Prop where
  /-- The first line is the banner already. -/
  | right (carries : codec.bannerStart <:+: strip note)
      (first : (lines (strip note)).head? = some banner) : Reconciled codec note banner note
  /-- The old banners have gone, and the new one stands above what is left. -/
  | rebuilt (carries : codec.bannerStart <:+: strip note)
      (other : (lines (strip note)).head? ≠ some banner) :
      Reconciled codec note banner (codec.truncate (codec.rebuild banner (lines (strip note))))
  /-- There is no banner, neither an old one nor a new one. -/
  | bare (clear : ¬ codec.bannerStart <:+: strip note) (empty : banner = []) :
      Reconciled codec note banner note
  /-- There is nothing to see in the note but the new banner. -/
  | alone (clear : ¬ codec.bannerStart <:+: strip note) (nonempty : banner ≠ [])
      (blank : strip note = []) : Reconciled codec note banner (codec.truncate banner)
  | prepended (clear : ¬ codec.bannerStart <:+: strip note) (nonempty : banner ≠ [])
      (written : strip note ≠ []) :
      Reconciled codec note banner (codec.truncate (banner ++ codec.lineSeparator ++ strip note))

theorem reconciled (codec : Codec) (note banner : Text) :
    codec.Reconciled note banner (codec.reconcile note banner) := by
  rw [reconcile]
  by_cases carries : occursIn codec.bannerStart (strip note) = true
  · rw [if_pos carries]
    dsimp only
    split
    · next first => exact .right (occursIn_iff.1 carries) first
    · next other => exact .rebuilt (occursIn_iff.1 carries) other
  · rw [if_neg carries]
    have clear : ¬ codec.bannerStart <:+: strip note := mt occursIn_iff.2 carries
    split
    · next empty => exact .bare clear empty
    · next nonempty =>
      split
      · next blank => exact .alone clear nonempty blank
      · next written => exact .prepended clear nonempty written

/-- A note that does not carry the banner gets it in front of what is left. -/
theorem reconcile_cases (plain : codec.IsPlain) {banner : Text} (nonempty : banner ≠ [])
    (note : Text) :
    ((lines (strip note)).head? = some banner ∧ codec.reconcile note banner = note) ∨
      ∃ tail, IsTail tail ∧ codec.reconcile note banner = codec.truncate (banner ++ tail) := by
  have exits := codec.reconciled note banner
  generalize codec.reconcile note banner = result at exits
  cases exits with
  | right _ first => exact .inl ⟨first, rfl⟩
  | rebuilt =>
    -- Only the lines that are no banners come behind the new one.
    right
    rw [rebuild, foldl_addLine nonempty, plain.lineSeparator_eq]
    cases (lines (strip note)).filter fun line => !codec.isBannerLine line with
    | nil => exact ⟨[], .inl rfl, by simp [joinWith]⟩
    | cons line rest =>
      refine ⟨'\n' :: joinWith ['\n'] (line :: rest), .inr ⟨_, rfl⟩, ?_⟩
      rw [joinWith_cons _ _ (List.cons_ne_nil line rest), List.append_assoc]
      rfl
  | bare _ empty => exact absurd empty nonempty
  | alone => exact .inr ⟨[], .inl rfl, by rw [List.append_nil]⟩
  | prepended =>
    right
    refine ⟨'\n' :: strip note, .inr ⟨_, rfl⟩, ?_⟩
    rw [plain.lineSeparator_eq, List.append_assoc]
    rfl

theorem truncate_reconcile (plain : codec.IsPlain) (limited : 0 ≤ codec.maxLength) {banner : Text}
    (nonempty : banner ≠ []) {note : Text} (fits : note.length ≤ codec.maxLength.toNat) :
    codec.truncate (codec.reconcile note banner) = codec.reconcile note banner := by
  rcases reconcile_cases plain nonempty note with ⟨-, untouched⟩ | ⟨tail, -, stamped⟩
  · rw [untouched, truncate_eq_self limited fits]
  · rw [stamped, truncate_truncate limited]

/-! ## Reconciling again -/

theorem IsBanner.strip_append {banner : Text} (isBanner : codec.IsBanner banner)
    (plain : codec.IsPlain) (tail : Text) : strip (banner ++ tail) = banner ++ stripEnd tail :=
  Text.strip_append (isBanner.ne_nil plain) (isBanner.startsVisible plain) isBanner.ends tail

theorem reconcile_stamped (plain : codec.IsPlain) {banner tail : Text}
    (isBanner : codec.IsBanner banner) (unbroken : Unbroken banner) (isTail : IsTail tail) :
    codec.reconcile (banner ++ tail) banner = banner ++ tail := by
  have stripped := isBanner.strip_append plain tail
  have carries : occursIn codec.bannerStart (strip (banner ++ tail)) = true := by
    rw [occursIn_iff, stripped]
    exact List.infix_append_of_infix_left isBanner.starts.isInfix
  have first : (lines (strip (banner ++ tail))).head? = some banner := by
    rw [stripped]
    exact head?_lines_append (isBanner.ne_nil plain) unbroken isTail.stripEnd
  rw [reconcile, if_pos carries, if_pos first]

/-- A banner that has been cut is replaced by itself, and cut again. -/
theorem reconcile_cut (plain : codec.IsPlain) (limited : 0 ≤ codec.maxLength)
    (room : codec.bannerStart.length ≤ codec.maxLength.toNat) {banner : Text}
    (isBanner : codec.IsBanner banner) (unbroken : Unbroken banner)
    (long : codec.maxLength.toNat < banner.length) :
    codec.reconcile (codec.truncate banner) banner = codec.truncate banner := by
  -- There is room for the start of the banner, so what is left of it still passes for one.
  obtain ⟨rest, split⟩ := prefix_truncate limited isBanner.starts room
  have stripped : strip (codec.truncate banner) = codec.bannerStart ++ stripEnd rest := by
    rw [← split, strip_bannerStart_append plain]
  have inBanner : strip (codec.truncate banner) <:+: banner :=
    (strip_isInfix _).trans (truncate_isPrefix limited banner).isInfix
  have singleLine : lines (strip (codec.truncate banner)) = [strip (codec.truncate banner)] :=
    lines_unbroken (by simp [stripped, bannerStart_ne_nil plain]) (unbroken.mono inBanner)
  have carries : occursIn codec.bannerStart (strip (codec.truncate banner)) = true := by
    rw [occursIn_iff, stripped]
    exact List.infix_append_left
  -- The banner itself is longer than anything that has been cut.
  have other : (lines (strip (codec.truncate banner))).head? ≠ some banner := by
    intro first
    rw [singleLine, List.head?_cons, Option.some.injEq] at first
    have shorter := Nat.le_trans (length_strip_le (codec.truncate banner))
      (length_truncate_le limited banner)
    rw [first] at shorter
    omega
  have isBannerLine : codec.isBannerLine (strip (codec.truncate banner)) = true := by
    rw [Codec.isBannerLine, strip_strip, stripped, startsWith_iff]
    exact List.prefix_append _ _
  rw [reconcile, if_pos carries, if_neg other, singleLine, rebuild]
  simp [isBannerLine]

/-- Where not even the start of a banner fits, what is left of it passes for text, which is cut off
    again behind the whole banner. -/
theorem reconcile_cut_start (plain : codec.IsPlain) (limited : 0 ≤ codec.maxLength)
    (narrow : codec.maxLength.toNat < codec.bannerStart.length) {banner : Text}
    (isBanner : codec.IsBanner banner) :
    codec.reconcile (codec.truncate banner) banner = codec.truncate banner := by
  have absent : occursIn codec.bannerStart (strip (codec.truncate banner)) = false := by
    rw [occursIn_eq_false_iff]
    intro occurs
    have shorter := Nat.le_trans occurs.length_le (length_strip_le (codec.truncate banner))
    have cut := length_truncate_le limited banner
    omega
  have long : codec.maxLength.toNat ≤ banner.length :=
    Nat.le_trans (Nat.le_of_lt narrow) isBanner.starts.length_le
  rw [reconcile, absent, if_neg Bool.false_ne_true, if_neg (isBanner.ne_nil plain)]
  split
  · rfl
  · rw [truncate_eq_take limited, truncate_eq_take limited, List.append_assoc,
      List.take_append_of_le_length long]

/-- A note that has been reconciled stays as it is, wherever the greatest length has cut it. -/
theorem reconcile_reconcile (plain : codec.IsPlain) (limited : 0 ≤ codec.maxLength) {banner : Text}
    (isBanner : codec.IsBanner banner) (unbroken : Unbroken banner) (note : Text) :
    codec.reconcile (codec.reconcile note banner) banner = codec.reconcile note banner := by
  rcases reconcile_cases plain (isBanner.ne_nil plain) note with
    ⟨-, untouched⟩ | ⟨tail, isTail, stamped⟩
  · rw [untouched, untouched]
  · rw [stamped]
    -- Either the banner is cut and nothing stands behind it, or it is whole and its tail is cut.
    cases Nat.lt_or_ge codec.maxLength.toNat banner.length with
    | inl long =>
      have cut : codec.truncate (banner ++ tail) = codec.truncate banner := by
        rw [truncate_eq_take limited, truncate_eq_take limited,
          List.take_append_of_le_length (Nat.le_of_lt long)]
      rw [cut]
      cases Nat.lt_or_ge codec.maxLength.toNat codec.bannerStart.length with
      | inl narrow => exact reconcile_cut_start plain limited narrow isBanner
      | inr room => exact reconcile_cut plain limited room isBanner unbroken long
    | inr short =>
      have whole : codec.truncate (banner ++ tail) =
          banner ++ tail.take (codec.maxLength.toNat - banner.length) := by
        rw [truncate_eq_take limited, List.take_append, List.take_of_length_le short]
      rw [whole, reconcile_stamped plain isBanner unbroken (isTail.take _)]

/-- What has been reconciled and cut is reconciled and cut already. -/
theorem truncate_reconcile_reconcile (plain : codec.IsPlain) (limited : 0 ≤ codec.maxLength)
    {banner : Text} (isBanner : codec.IsBanner banner) (unbroken : Unbroken banner) {note : Text}
    (fits : note.length ≤ codec.maxLength.toNat) :
    codec.truncate (codec.reconcile (codec.truncate (codec.reconcile note banner)) banner) =
      codec.truncate (codec.reconcile note banner) := by
  have uncut := truncate_reconcile plain limited (isBanner.ne_nil plain) fits
  rw [uncut, reconcile_reconcile plain limited isBanner unbroken, uncut]

/-! ## Pins -/

theorem isPinned_iff (plain : codec.IsPlain) {note : Text} :
    codec.isPinned note = true ↔ codec.pinMarker <:+: note := by
  rw [isPinned, occursIn_iff, infix_strip_iff_of_forall (pinMarker_visible plain)]

theorem bannerStart_prefix_pinMarker (codec : Codec) : codec.bannerStart <+: codec.pinMarker := by
  rw [pinMarker_eq]
  exact List.prefix_append _ _

theorem isPinned_reconcile (plain : codec.IsPlain) (limited : 0 ≤ codec.maxLength)
    (room : codec.pinMarker.length ≤ codec.maxLength.toNat) {note : Text}
    (fits : note.length ≤ codec.maxLength.toNat) (tags : List Text) :
    codec.isPinned (codec.truncate (codec.reconcile note (codec.encode true tags))) = true := by
  have isBanner := isBanner_encode_true plain tags
  have pins : codec.pinMarker <+: codec.encode true tags := by
    rw [encode_true plain]
    exact List.prefix_append _ _
  rw [isPinned_iff plain]
  rcases reconcile_cases plain (isBanner.ne_nil plain) note with
    ⟨first, untouched⟩ | ⟨tail, -, stamped⟩
  · -- The first line of the note is the banner already.
    rw [untouched, truncate_eq_self limited fits]
    have inStripped := (mem_lines (List.mem_of_head? first)).2
    exact (pins.isInfix.trans inStripped).trans (strip_isInfix note)
  · rw [stamped, truncate_truncate limited]
    exact (prefix_truncate limited (List.prefix_append_of_prefix pins) room).isInfix

/-! ## What stands in a reconciled note -/

theorem not_isBannerLine_of_mem {note line : Text}
    (unmarked : ¬ codec.bannerStart <:+: strip note) (member : line ∈ lines (strip note)) :
    codec.isBannerLine line = false := by
  rw [Codec.isBannerLine, startsWith_eq_false_iff]
  intro starts
  exact unmarked ((starts.isInfix.trans (strip_isInfix line)).trans (mem_lines member).2)

/-- What can be seen in a reconciled note comes from the banner or from a line of the note, and that
    line is no old banner unless the note has been left alone. -/
theorem infix_reconcile_cases (plain : codec.IsPlain) (limited : 0 ≤ codec.maxLength) {needle : Text}
    (nonempty : needle ≠ []) (visible : ∀ c ∈ needle, isBlank c = false) {note banner : Text}
    (occurs : needle <:+: codec.reconcile note banner) :
    needle <:+: banner ∨ ∃ line ∈ lines (strip note), needle <:+: line ∧
      ((lines (strip note)).head? = some banner ∨ codec.isBannerLine line = false) := by
  have needleUnbroken := unbroken_of_forall visible
  have exists_line (inStripped : needle <:+: strip note) :
      ∃ line ∈ lines (strip note), needle <:+: line :=
    (infix_iff_exists_line nonempty needleUnbroken).1 inStripped
  -- Without a banner start in the note, none of its lines is a banner.
  have kept (clear : ¬ codec.bannerStart <:+: strip note) (inStripped : needle <:+: strip note) :
      ∃ line ∈ lines (strip note), needle <:+: line ∧
        ((lines (strip note)).head? = some banner ∨ codec.isBannerLine line = false) := by
    obtain ⟨line, member, inLine⟩ := exists_line inStripped
    exact ⟨line, member, inLine, .inr (not_isBannerLine_of_mem clear member)⟩
  have exits := codec.reconciled note banner
  generalize codec.reconcile note banner = result at exits occurs
  cases exits with
  | right _ first =>
    obtain ⟨line, member, inLine⟩ := exists_line ((infix_strip_iff_of_forall visible).2 occurs)
    exact .inr ⟨line, member, inLine, .inl first⟩
  | rebuilt =>
    have inRebuilt := occurs.trans (truncate_isPrefix limited _).isInfix
    apply (infix_of_foldl_addLine plain needleUnbroken.newline_not_mem inRebuilt).imp_right
    rintro ⟨line, inRest, inLine⟩
    obtain ⟨member, notBanner⟩ := List.mem_filter.1 inRest
    exact ⟨line, member, inLine, .inr (by simpa using notBanner)⟩
  | bare clear => exact .inr (kept clear ((infix_strip_iff_of_forall visible).2 occurs))
  | alone => exact .inl (occurs.trans (truncate_isPrefix limited _).isInfix)
  | prepended clear =>
    have inWhole := occurs.trans (truncate_isPrefix limited _).isInfix
    rw [plain.lineSeparator_eq, List.append_assoc] at inWhole
    exact (infix_append_cons needleUnbroken.newline_not_mem inWhole).imp_right (kept clear)

/-! ## Notes with banners at their head only -/

/-- Banner starts stand on the first line only, and there only if the note starts with one. -/
structure IsOrderly (codec : Codec) (note : Text) : Prop where
  later : ∀ line ∈ (lines (strip note)).tail, occursIn codec.bannerStart line = false
  first : ∀ line ∈ (lines (strip note)).head?,
    occursIn codec.bannerStart line = true → startsWith codec.bannerStart (strip note) = true

theorem IsOrderly.isBannerLine {note line : Text} (orderly : codec.IsOrderly note)
    (plain : codec.IsPlain) (member : line ∈ lines (strip note))
    (marked : codec.bannerStart <:+: line) :
    (lines (strip note)).head? = some line ∧ codec.isBannerLine line = true := by
  obtain ⟨head, rest, split⟩ := List.exists_cons_of_ne_nil (List.ne_nil_of_mem member)
  -- No later line has a banner start in it.
  have isHead : line = head := by
    rw [split] at member
    cases List.mem_cons.1 member with
    | inl here => exact here
    | inr inRest =>
      have unmarked := orderly.later line (by rwa [split])
      exact absurd marked (occursIn_eq_false_iff.1 unmarked)
  subst isHead
  refine ⟨by rw [split]; rfl, ?_⟩
  have noteStarts : codec.bannerStart <+: strip note :=
    startsWith_iff.1 (orderly.first line (by rw [split]; rfl) (occursIn_iff.2 marked))
  obtain ⟨behind, equal⟩ := prefix_head_lines noteStarts (bannerStart_unbroken plain)
    (by rw [split]; rfl)
  rw [Codec.isBannerLine, startsWith_iff, ← equal, strip_bannerStart_append plain]
  exact List.prefix_append _ _

/-- What an orderly note holds of banners after it is reconciled comes from the banner. -/
theorem infix_of_reconcile (plain : codec.IsPlain) (limited : 0 ≤ codec.maxLength) {needle : Text}
    (visible : ∀ c ∈ needle, isBlank c = false) (marks : codec.bannerStart <:+: needle)
    {note banner : Text} (orderly : codec.IsOrderly note)
    (occurs : needle <:+: codec.truncate (codec.reconcile note banner)) : needle <:+: banner := by
  have nonempty : needle ≠ [] := marks.ne_nil (bannerStart_ne_nil plain)
  rcases infix_reconcile_cases plain limited nonempty visible
    (occurs.trans (truncate_isPrefix limited _).isInfix) with inBanner | ⟨line, member, inLine, old⟩
  · exact inBanner
  · -- The line is the first of the note, and a banner.
    obtain ⟨isFirst, isBannerLine⟩ := orderly.isBannerLine plain member (marks.trans inLine)
    rcases old with first | notBanner
    · rw [first, Option.some.injEq] at isFirst
      rwa [isFirst]
    · simp [isBannerLine] at notBanner

/-! ## Notes without a sentinel -/

/-- A banner without a pin that comes to a note without a sentinel looks pinned exactly if its
    labels make it so, as far as it fits. -/
theorem isPinned_reconcile_unsigned {note : Text} {tags : List Text}
    (unsigned : ¬ ({} : Codec).sentinel <:+: note) :
    let stamped := ({} : Codec).truncate
      (({} : Codec).reconcile note (({} : Codec).encode false tags))
    (({} : Codec).isPinned stamped = true → MimicsPin tags) ∧
      ((({} : Codec).encode false tags).length ≤ 600 → MimicsPin tags →
        ({} : Codec).isPinned stamped = true) := by
  have plain := isPlain_default
  have limited : 0 ≤ ({} : Codec).maxLength := by decide
  have unmarked : ¬ ({} : Codec).pinMarker <:+: strip note := fun occurs =>
    unsigned (List.IsInfix.trans (by decide) (occurs.trans (strip_isInfix note)))
  intro stamped
  rw [isPinned_iff plain, ← pinMarker_infix_encode_false_iff]
  constructor
  · intro occurs
    have inReconciled := occurs.trans (truncate_isPrefix limited _).isInfix
    rcases infix_reconcile_cases plain limited (by decide) (pinMarker_visible plain)
      inReconciled with inBanner | ⟨line, member, inLine, -⟩
    · exact inBanner
    · exact absurd (inLine.trans (mem_lines member).2) unmarked
  · intro fits inBanner
    have nonempty : ({} : Codec).encode false tags ≠ [] := inBanner.ne_nil (by decide)
    rcases reconcile_cases plain nonempty note with ⟨first, -⟩ | ⟨tail, -, equal⟩
    · -- The banner would be a line of the note.
      have inNote := inBanner.trans (mem_lines (List.mem_of_head? first)).2
      exact absurd inNote unmarked
    · have whole : stamped = ({} : Codec).truncate (({} : Codec).encode false tags ++ tail) := by
        rw [← truncate_truncate limited, ← equal]
      rw [whole]
      exact inBanner.trans (prefix_truncate limited (List.prefix_append _ tail) fits).isInfix

theorem reconcile_nil {note : Text}
    (unmarked : ¬ codec.bannerStart <:+: note) : codec.reconcile note [] = note := by
  have absent : occursIn codec.bannerStart (strip note) = false :=
    occursIn_eq_false_iff.2 fun occurs => unmarked (occurs.trans (strip_isInfix note))
  simp [reconcile, absent]

end TaskTitles.Note.Codec
