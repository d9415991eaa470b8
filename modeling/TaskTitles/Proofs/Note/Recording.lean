import TaskTitles.Proofs.Note.Reconciling

/-!
# The pin state that a note records

Reconciling writes the given pin state into the note, and what the note says of a pin elsewhere goes
with the old banner lines.  The exception is a note that has the banner for its first line already:
it is left alone with all its further banner lines, and one of these may still hold a pin
(`isPinned_reconcile_encode`).
-/

namespace TaskTitles.Note.Codec

open Text

/-- Pin markers stand only on lines that are banners. -/
def IsMarkedByBanners (codec : Codec) (note : Text) : Prop :=
  ∀ line ∈ lines note, codec.pinMarker <:+: line → codec.isBannerLine line = true

instance (codec : Codec) (note : Text) : Decidable (codec.IsMarkedByBanners note) :=
  decidable_of_iff
    (∀ line ∈ lines note, occursIn codec.pinMarker line = true → codec.isBannerLine line = true)
    (by simp only [IsMarkedByBanners, occursIn_iff])

/-- Stripping the note turns none of its lines into a banner or back. -/
theorem IsMarkedByBanners.isBannerLine {codec : Codec} {note : Text}
    (marked : codec.IsMarkedByBanners note) {line : Text} (member : line ∈ lines (strip note))
    (pins : codec.pinMarker <:+: line) : codec.isBannerLine line = true := by
  obtain ⟨whole, inNote, same, occurs⟩ := exists_of_mem_lines_strip member
  have isBannerLine := marked whole inNote (pins.trans occurs)
  rwa [Codec.isBannerLine, same] at isBannerLine

/-- A note with a pin that has the banner for its first line is left alone. -/
theorem reconcile_of_head {codec : Codec} {note banner : Text}
    (first : (lines (strip note)).head? = some banner) (noted : codec.isPinned note = true) :
    codec.reconcile note banner = note := by
  rw [isPinned, occursIn_iff] at noted
  have carries : codec.bannerStart <:+: strip note :=
    (bannerStart_prefix_pinMarker codec).isInfix.trans noted
  rw [reconcile, if_pos (occursIn_iff.2 carries), if_pos first]

/-- The note says what the banner says, except that a note with the banner for its first line goes on
    saying what it said before. -/
theorem isPinned_reconcile_encode {room : Int} {note : Text} {pinned : Bool} {tags : List Text}
    (marked : ({ maxLength := room } : Codec).IsMarkedByBanners note)
    (unmarked : ∀ tag ∈ tags, '/' ∉ tag)
    (fits : note.length + (({ maxLength := room } : Codec).encode pinned tags).length + 1 ≤ room) :
    let codec : Codec := { maxLength := room }
    codec.isPinned (codec.reconcile note (codec.encode pinned tags)) =
      (pinned || decide ((lines (strip note)).head? = some (codec.encode pinned tags)) &&
        codec.isPinned note) := by
  intro codec
  have plain : codec.IsPlain := isPlain_sized room
  have limited : 0 ≤ codec.maxLength := by
    change 0 ≤ room
    omega
  have noteFits : note.length ≤ codec.maxLength.toNat := by
    change note.length ≤ room.toNat
    omega
  rw [Bool.eq_iff_iff, Bool.or_eq_true, Bool.and_eq_true, decide_eq_true_eq]
  constructor
  · intro noted
    rw [isPinned_iff plain] at noted
    have nonempty : codec.pinMarker ≠ [] :=
      (bannerStart_prefix_pinMarker codec).isInfix.ne_nil (bannerStart_ne_nil plain)
    rcases infix_reconcile_cases plain limited nonempty (pinMarker_visible plain) noted with
      inBanner | ⟨line, member, inLine, first | notBanner⟩
    · -- The pin comes from the banner.
      cases pinned with
      | false => exact absurd inBanner (not_pinMarker_infix_encode_false unmarked)
      | true => exact .inl rfl
    · refine .inr ⟨first, ?_⟩
      rw [isPinned, occursIn_iff]
      exact inLine.trans (mem_lines member).2
    · have isBannerLine : codec.isBannerLine line = true := marked.isBannerLine member inLine
      rw [notBanner] at isBannerLine
      cases isBannerLine
  · rintro (rfl | ⟨first, noted⟩)
    · have isBanner := isBanner_encode_true plain tags
      have markerFits : codec.pinMarker.length ≤ codec.maxLength.toNat := by
        change note.length + (codec.encode true tags).length + 1 ≤ room at fits
        change codec.pinMarker.length ≤ room.toNat
        rw [encode_true plain, List.length_append] at fits
        omega
      rw [← truncate_reconcile plain limited (isBanner.ne_nil plain) noteFits]
      exact isPinned_reconcile plain limited markerFits noteFits tags
    · rwa [reconcile_of_head first noted]

/-- An old banner below the text of a note takes its pin with it. -/
theorem isPinned_reconcile_encode_milk :
    ({} : Codec).isPinned
      (({} : Codec).reconcile "Buy milk.\n~~// /shop" (({} : Codec).encode false ["shop"])) = false := by
  have recorded := @isPinned_reconcile_encode 600 "Buy milk.\n~~// /shop" false ["shop"] (by decide)
    (by decide) (by decide)
  -- The first line of the note is no banner.
  exact recorded.trans (by decide)

/-- A second banner survives with its pin below a first line that is the new banner already. -/
theorem reconcile_encode_keeps_stray_pin :
    ({} : Codec).IsMarkedByBanners "~~/a\n~~//" ∧
      ("~~/a\n~~//" : Text).length + (({} : Codec).encode false ["a"]).length + 1 ≤ 600 ∧
      ({} : Codec).reconcile "~~/a\n~~//" (({} : Codec).encode false ["a"]) = "~~/a\n~~//" ∧
      ({} : Codec).isPinned
        (({} : Codec).reconcile "~~/a\n~~//" (({} : Codec).encode false ["a"])) ≠ false := by
  decide

end TaskTitles.Note.Codec
