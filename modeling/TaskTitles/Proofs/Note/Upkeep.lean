import TaskTitles.Proofs.Note.Reconciling
import TaskTitles.Proofs.Text.VisibleLines

/-!
# The lines of a reconciled note

What the user has written into a note are its visible lines that are no banners (`userLines`).
Reconciling puts the banner on the first line, or takes every banner away where it is empty, and
keeps the lines of the user (`reconcile?_encode_lines`).  Doing it again changes nothing, even if the
banner has been cut (`reconcile?_encode_again`).
-/

namespace TaskTitles.Note.Codec

open Text

variable {codec : Codec}

/-- The visible lines of a note that do not start like a banner. -/
def userLines (codec : Codec) (note : Text) : List Text :=
  (visibleLines note).filter fun line => !startsWith codec.bannerStart line

/-! ## Lines of the user -/

theorem userLines_strip (note : Text) : codec.userLines (strip note) = codec.userLines note := by
  rw [userLines, userLines, visibleLines_strip]

theorem userLines_append_newline (front back : Text) :
    codec.userLines (front ++ '\n' :: back) = codec.userLines front ++ codec.userLines back := by
  rw [userLines, visibleLines_append_break isBreak_newline, List.filter_append, userLines, userLines]

theorem userLines_eq_flatMap (note : Text) :
    codec.userLines note = (lines note).flatMap codec.userLines := by
  rw [userLines, visibleLines_eq_flatMap, List.filter_flatMap]
  rfl

theorem userLines_of_isBannerLine {line : Text} (unbroken : Unbroken line)
    (isBannerLine : codec.isBannerLine line = true) : codec.userLines line = [] := by
  rw [Codec.isBannerLine] at isBannerLine
  rw [userLines, visibleLines_unbroken unbroken]
  by_cases blank : strip line = [] <;> simp [blank, isBannerLine]

/-- Leaving out the lines that are banners leaves the lines of the user. -/
theorem flatMap_userLines_filter {pieces : List Text} (unbroken : ∀ line ∈ pieces, Unbroken line) :
    (pieces.filter fun line => !codec.isBannerLine line).flatMap codec.userLines =
      pieces.flatMap codec.userLines := by
  induction pieces with
  | nil => rfl
  | cons line rest ih =>
    obtain ⟨here, later⟩ := List.forall_mem_cons.1 unbroken
    cases marked : codec.isBannerLine line with
    | true => simp [marked, userLines_of_isBannerLine here marked, ih later]
    | false => simp [marked, ih later]

theorem not_isBannerLine_of_visibleLines (plain : codec.IsPlain) {note : Text}
    (unmarked : ∀ line ∈ visibleLines note, startsWith codec.bannerStart line = false) :
    ∀ line ∈ lines note, codec.isBannerLine line = false := by
  intro line member
  rw [Codec.isBannerLine]
  by_cases blank : strip line = []
  · rw [blank, startsWith_eq_false_iff, List.prefix_nil]
    exact bannerStart_ne_nil plain
  · exact unmarked (strip line) (mem_visibleLines.2 ⟨blank, line, member, rfl⟩)

/-! ## Rebuilding -/

section Rebuilding

variable (plain : codec.IsPlain)

include plain

theorem visibleLines_addLine (note line : Text) :
    visibleLines (codec.addLine note line) = visibleLines note ++ visibleLines line := by
  rw [addLine, plain.lineSeparator_eq]
  by_cases empty : note = []
  · simp [empty]
  · rw [if_neg empty, List.append_assoc]
    exact visibleLines_append_break isBreak_newline note line

theorem visibleLines_foldl_addLine (first : Text) (rest : List Text) :
    visibleLines (rest.foldl codec.addLine first) =
      visibleLines first ++ rest.flatMap visibleLines := by
  induction rest generalizing first with
  | nil => simp
  | cons line rest ih => simp [ih, visibleLines_addLine plain]

/-- A rebuilt note has the lines that the user has written, below the banner. -/
theorem userLines_rebuild {banner : Text} (foreign : codec.userLines banner = []) (note : Text) :
    codec.userLines (codec.rebuild banner (lines note)) = codec.userLines note := by
  have unbroken : ∀ line ∈ lines note, Unbroken line := fun _ member => (mem_lines member).1
  rw [userLines, rebuild, visibleLines_foldl_addLine plain, List.filter_append, List.filter_flatMap,
    ← userLines, foreign, List.nil_append, userLines_eq_flatMap note]
  exact flatMap_userLines_filter unbroken

theorem length_addLine_le (note line : Text) :
    (codec.addLine note line).length ≤ note.length + (line.length + 1) := by
  rw [addLine, plain.lineSeparator_eq]
  split
  · simp only [List.nil_append]
    omega
  · simp only [List.length_append, List.length_singleton]
    omega

theorem length_rebuild_le (banner : Text) (pieces : List Text) :
    (codec.rebuild banner pieces).length ≤
      banner.length + (pieces.flatMap fun line => line ++ ['\n']).length := by
  rw [rebuild]
  induction pieces generalizing banner with
  | nil => simp
  | cons line rest ih =>
    rw [List.flatMap_cons, List.length_append, List.length_append, List.length_singleton,
      List.filter_cons]
    split
    · rw [List.foldl_cons]
      have longer := length_addLine_le plain banner line
      have behind := ih (codec.addLine banner line)
      omega
    · have behind := ih banner
      omega

/-- Rebuilding adds no more than the banner and one line separator. -/
theorem length_rebuild_lines_le (banner note : Text) :
    (codec.rebuild banner (lines (strip note))).length ≤ note.length + banner.length + 1 := by
  have rebuilt := length_rebuild_le plain banner (lines (strip note))
  have ended := length_flatMap_lines_le (strip note)
  have shorter := length_strip_le note
  omega

end Rebuilding

/-! ## Reconciling -/

section Reconciling

variable (plain : codec.IsPlain) (limited : 0 ≤ codec.maxLength) {note banner : Text}

include plain

theorem reconcile?_eq_some (note banner : Text) :
    codec.reconcile? note banner = some (codec.reconcile note banner) := by
  rw [reconcile?, if_neg fun missing => bannerStart_ne_nil plain missing.1]

include limited

theorem userLines_reconcile (foreign : codec.userLines banner = [])
    (fits : note.length + banner.length + 1 ≤ codec.maxLength.toNat) :
    codec.userLines (codec.reconcile note banner) = codec.userLines note := by
  have exits := codec.reconciled note banner
  generalize codec.reconcile note banner = result at exits
  cases exits with
  | right => rfl
  | rebuilt =>
    have rebuilt := length_rebuild_lines_le plain banner note
    rw [truncate_eq_self limited (Nat.le_trans rebuilt fits), userLines_rebuild plain foreign,
      userLines_strip]
  | bare => rfl
  | alone _ _ blank =>
    rw [truncate_eq_self limited (by omega), foreign, ← userLines_strip note, blank]
    rfl
  | prepended =>
    have shorter := length_strip_le note
    have uncut : (banner ++ '\n' :: strip note).length ≤ codec.maxLength.toNat := by
      simp only [List.length_append, List.length_cons]
      omega
    rw [plain.lineSeparator_eq, List.append_assoc, List.singleton_append,
      truncate_eq_self limited uncut, userLines_append_newline, foreign, userLines_strip,
      List.nil_append]

theorem head?_lines_reconcile (isBanner : codec.IsBanner banner) (unbroken : Unbroken banner)
    (fits : banner.length ≤ codec.maxLength.toNat) :
    (lines (strip (codec.reconcile note banner))).head? = some banner := by
  rcases reconcile_cases plain (isBanner.ne_nil plain) note with
    ⟨first, untouched⟩ | ⟨tail, isTail, stamped⟩
  · rwa [untouched]
  · rw [stamped, truncate_eq_take limited, List.take_append, List.take_of_length_le fits,
      isBanner.strip_append plain]
    exact head?_lines_append (isBanner.ne_nil plain) unbroken (isTail.take _).stripEnd

/-- Without a banner to write, the note has none afterwards. -/
theorem not_isBannerLine_reconcile_nil (fits : note.length + 1 ≤ codec.maxLength.toNat) :
    ∀ line ∈ lines (codec.reconcile note []), codec.isBannerLine line = false := by
  have exits := codec.reconciled note []
  generalize codec.reconcile note [] = result at exits
  cases exits with
  | right carries first =>
    -- A stripped note does not start with a blank line.
    obtain ⟨c, cs, split⟩ : ∃ c cs, strip note = c :: cs :=
      List.exists_cons_of_ne_nil (carries.ne_nil (bannerStart_ne_nil plain))
    have visible : isBlank c = false := startsVisible_strip note c (by rw [split]; rfl)
    have lead : [c] <+: strip note := by simp [split]
    have unbroken : Unbroken [c] :=
      List.forall_mem_singleton.2 (isBreak_eq_false_of_visible visible)
    have leadLine := prefix_head_lines lead unbroken first
    simp at leadLine
  | rebuilt =>
    have rebuilt := length_rebuild_lines_le plain [] note
    rw [truncate_eq_self limited (Nat.le_trans rebuilt fits)]
    -- What can be seen in the rebuilt note comes from the lines that have been kept.
    refine not_isBannerLine_of_visibleLines plain fun line member => ?_
    rw [rebuild, visibleLines_foldl_addLine plain, visibleLines_nil, List.nil_append,
      List.mem_flatMap] at member
    obtain ⟨whole, kept, inWhole⟩ := member
    obtain ⟨inNote, notBanner⟩ := List.mem_filter.1 kept
    rw [visibleLines_unbroken (mem_lines inNote).1] at inWhole
    split at inWhole
    · cases inWhole
    · rw [List.mem_singleton.1 inWhole]
      simpa [Codec.isBannerLine] using notBanner
  | bare clear =>
    intro line member
    rw [Codec.isBannerLine, startsWith_eq_false_iff]
    intro starts
    have inNote := (starts.isInfix.trans (strip_isInfix line)).trans (mem_lines member).2
    exact clear ((infix_strip_iff_of_forall (bannerStart_visible plain)).2 inNote)
  | alone _ nonempty => exact absurd rfl nonempty
  | prepended _ nonempty => exact absurd rfl nonempty

end Reconciling

/-! ## Banners of tags -/

theorem userLines_encode (plain : codec.IsPlain) {pinned : Bool} {tags : List Text}
    (unbroken : ∀ tag ∈ tags, Unbroken tag) : codec.userLines (codec.encode pinned tags) = [] := by
  by_cases empty : codec.encode pinned tags = []
  · rw [empty]
    rfl
  · have isBanner := isBanner_encode plain empty
    have trimmed : strip (codec.encode pinned tags) = codec.encode pinned tags :=
      strip_eq_self_iff.2 ⟨isBanner.startsVisible plain, isBanner.ends⟩
    apply userLines_of_isBannerLine (unbroken_encode plain (unbroken_labels unbroken))
    rw [Codec.isBannerLine, trimmed, startsWith_iff]
    exact isBanner.starts

/-- Where everything fits, a reconciled note has the banner on its first line, or no banner at all
    where there is nothing to say, and the lines of the user are the same. -/
theorem reconcile?_encode_lines (plain : codec.IsPlain) {note : Text} {pinned : Bool}
    {tags : List Text} (unbroken : ∀ tag ∈ tags, Unbroken tag)
    (fits : note.length + (codec.encode pinned tags).length + codec.lineSeparator.length ≤
      codec.maxLength) :
    let banner := codec.encode pinned tags
    ∃ result, codec.reconcile? note banner = some result ∧
      (banner ≠ [] → (lines (strip result)).head? = some banner) ∧
      (banner = [] → ∀ line ∈ lines result, codec.isBannerLine line = false) ∧
      codec.userLines result = codec.userLines note := by
  intro banner
  rw [plain.lineSeparator_eq, List.length_singleton] at fits
  have limited : 0 ≤ codec.maxLength := by omega
  have room : note.length + banner.length + 1 ≤ codec.maxLength.toNat := by
    change note.length + (codec.encode pinned tags).length + 1 ≤ codec.maxLength.toNat
    omega
  refine ⟨_, reconcile?_eq_some plain note banner, fun nonempty => ?_, fun empty => ?_, ?_⟩
  · exact head?_lines_reconcile plain limited (isBanner_encode plain nonempty)
      (unbroken_encode plain (unbroken_labels unbroken)) (by omega)
  · rw [empty] at room ⊢
    exact not_isBannerLine_reconcile_nil plain limited (by simpa using room)
  · exact userLines_reconcile plain limited (userLines_encode plain unbroken) room

/-- An old banner goes, and the text around it stays, whether there is a new banner or not. -/
theorem reconcile?_encode_lines_milk :
    (∃ result,
      ({} : Codec).reconcile? "Buy milk.\r\n ~~/old \n\n eggs" (({} : Codec).encode true ["shop"]) =
        some result ∧
      (lines (strip result)).head? = some ("~~// /shop" : Text) ∧
      ({} : Codec).userLines result = (["Buy milk.", "eggs"] : List Text)) ∧
    ∃ result,
      ({} : Codec).reconcile? "Buy milk.\r\n ~~/old \n\n eggs" (({} : Codec).encode false []) =
        some result ∧
      (∀ line ∈ lines result, ({} : Codec).isBannerLine line = false) ∧
      ({} : Codec).userLines result = (["Buy milk.", "eggs"] : List Text) := by
  obtain ⟨pinned, reconciled, first, -, kept⟩ := @reconcile?_encode_lines {} isPlain_default
    "Buy milk.\r\n ~~/old \n\n eggs" true ["shop"] (by decide) (by decide)
  obtain ⟨bare, reconciledBare, -, clear, keptBare⟩ := @reconcile?_encode_lines {} isPlain_default
    "Buy milk.\r\n ~~/old \n\n eggs" false [] (by decide) (by decide)
  exact ⟨⟨pinned, reconciled, (first (by decide)).trans (by decide), kept.trans (by decide)⟩,
    ⟨bare, reconciledBare, clear (by decide), keptBare.trans (by decide)⟩⟩

/-- Writing a banner into a note again leaves the note as it is, also where there was no room for the
    whole banner. -/
theorem reconcile?_encode_again (plain : codec.IsPlain) (limited : 0 ≤ codec.maxLength)
    {pinned : Bool} {tags : List Text} (unbroken : ∀ tag ∈ tags, Unbroken tag)
    (nonempty : codec.encode pinned tags ≠ []) (note : Text) :
    ∃ result, codec.reconcile? note (codec.encode pinned tags) = some result ∧
      codec.reconcile? result (codec.encode pinned tags) = some result := by
  refine ⟨_, reconcile?_eq_some plain note _, ?_⟩
  rw [reconcile?_eq_some plain, reconcile_reconcile plain limited (isBanner_encode plain nonempty)
    (unbroken_encode plain (unbroken_labels unbroken))]

/-- A banner that has been cut behind a blank, or so short that it does not even start like one. -/
theorem reconcile?_encode_again_cut :
    (({ maxLength := 5 } : Codec).reconcile? "Buy milk."
        (({ maxLength := 5 } : Codec).encode true ["shop"]) = some "~~// " ∧
      ({ maxLength := 5 } : Codec).reconcile? "~~// "
        (({ maxLength := 5 } : Codec).encode true ["shop"]) = some "~~// ") ∧
    ({ maxLength := 2 } : Codec).reconcile? "Buy milk."
        (({ maxLength := 2 } : Codec).encode true ["shop"]) = some "~~" ∧
      ({ maxLength := 2 } : Codec).reconcile? "~~"
        (({ maxLength := 2 } : Codec).encode true ["shop"]) = some "~~" := by
  obtain ⟨five, writtenFive, againFive⟩ := @reconcile?_encode_again { maxLength := 5 }
    (isPlain_sized 5) (by decide) true ["shop"] (by decide) (by decide) "Buy milk."
  obtain ⟨two, writtenTwo, againTwo⟩ := @reconcile?_encode_again { maxLength := 2 }
    (isPlain_sized 2) (by decide) true ["shop"] (by decide) (by decide) "Buy milk."
  obtain rfl : five = "~~// " := Option.some.inj (writtenFive.symm.trans (by decide))
  obtain rfl : two = "~~" := Option.some.inj (writtenTwo.symm.trans (by decide))
  exact ⟨⟨writtenFive, againFive⟩, writtenTwo, againTwo⟩

end TaskTitles.Note.Codec
