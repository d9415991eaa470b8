import TaskTitles.Proofs.Note.Reconciling

/-!
# Exchanging the banner of a note

A note is a body of lines that are no banners, with a banner above it or without one.  Reconciling
exchanges the banner and keeps the body (`reconcile_headed`, `reconcile_bare`).  A short note that a
banner leaves alone is of this form (`head_of_fixed`, `unmarked_of_fixed`), so putting a pin on it
and taking the pin off again gives the note back.
-/

namespace TaskTitles.Note.Codec

open Text

variable {codec : Codec}

def headed (banner : Text) (body : List Text) : Text := joinWith ['\n'] (banner :: body)

theorem headed_nil (banner : Text) : headed banner [] = banner := rfl

theorem headed_of_ne_nil (banner : Text) {body : List Text} (nonempty : body ≠ []) :
    headed banner body = banner ++ '\n' :: joinWith ['\n'] body := by
  rw [headed, joinWith_cons _ _ nonempty, List.append_assoc]
  rfl

theorem length_headed (banner : Text) (body : List Text) :
    (headed banner body).length =
      banner.length + if body = [] then 0 else 1 + (joinWith ['\n'] body).length := by
  by_cases empty : body = []
  · rw [if_pos empty, empty, headed_nil, Nat.add_zero]
  · rw [if_neg empty, headed_of_ne_nil banner empty, List.length_append, List.length_cons,
      Nat.add_comm 1]

theorem infix_headed (banner : Text) (body : List Text) : banner <:+: headed banner body := by
  by_cases empty : body = []
  · subst empty
    exact List.infix_rfl
  · rw [headed_of_ne_nil banner empty]
    exact List.infix_append_left

theorem headed_injective {first second : Text} {body : List Text}
    (equal : headed first body = headed second body) : first = second := by
  by_cases empty : body = []
  · rwa [empty, headed_nil, headed_nil] at equal
  · rw [headed_of_ne_nil _ empty, headed_of_ne_nil _ empty] at equal
    exact List.append_cancel_right equal

/-! ## Bodies -/

/-- Lines that are no banners, and that a note gives back when they stand below its first line. -/
structure IsBody (codec : Codec) (body : List Text) : Prop where
  unmarked : ∀ line ∈ body, codec.isBannerLine line = false
  lines_eq : lines (joinWith ['\n'] body) = body
  ends : body ≠ [] → EndsVisible ('\n' :: joinWith ['\n'] body)

theorem IsBanner.isBannerLine {banner : Text} (isBanner : codec.IsBanner banner)
    (plain : codec.IsPlain) : codec.isBannerLine banner = true := by
  have trimmed : strip banner = banner :=
    strip_eq_self_iff.2 ⟨isBanner.startsVisible plain, isBanner.ends⟩
  rw [Codec.isBannerLine, trimmed, startsWith_iff]
  exact isBanner.starts

theorem IsBody.filter_eq {body : List Text} (isBody : codec.IsBody body) :
    (body.filter fun line => !codec.isBannerLine line) = body :=
  List.filter_eq_self.2 fun line member => by rw [isBody.unmarked line member]; rfl

section Headed

variable {banner : Text} {body : List Text} (plain : codec.IsPlain)
  (isBanner : codec.IsBanner banner) (isBody : codec.IsBody body)

include plain isBanner isBody

theorem strip_headed : strip (headed banner body) = headed banner body := by
  refine strip_eq_self_iff.2 ⟨?_, ?_⟩
  · have starts := isBanner.startsVisible plain
    by_cases empty : body = []
    · rwa [empty, headed_nil]
    · rw [headed_of_ne_nil banner empty]
      exact starts.append (isBanner.ne_nil plain) _
  · by_cases empty : body = []
    · rw [empty, headed_nil]
      exact isBanner.ends
    · rw [headed_of_ne_nil banner empty]
      exact (isBody.ends empty).prepend (List.cons_ne_nil _ _) banner

theorem lines_headed (unbroken : Unbroken banner) : lines (headed banner body) = banner :: body := by
  by_cases empty : body = []
  · rw [empty, headed_nil]
    exact lines_unbroken (isBanner.ne_nil plain) unbroken
  · rw [headed_of_ne_nil banner empty, lines_append_newline unbroken, isBody.lines_eq]

/-- Another banner takes the place of the one above the body. -/
theorem reconcile_headed (unbroken : Unbroken banner) {other : Text} (differ : banner ≠ other) :
    codec.reconcile (headed banner body) other =
      codec.truncate (body.foldl codec.addLine other) := by
  have carries : occursIn codec.bannerStart (headed banner body) = true :=
    occursIn_iff.2 (isBanner.starts.isInfix.trans (infix_headed banner body))
  have first : (lines (headed banner body)).head? ≠ some other := by
    rw [lines_headed plain isBanner isBody unbroken, List.head?_cons]
    exact fun equal => differ (Option.some.inj equal)
  rw [reconcile, strip_headed plain isBanner isBody, if_pos carries, if_neg first, rebuild,
    lines_headed plain isBanner isBody unbroken, List.filter_cons,
    isBanner.isBannerLine plain, isBody.filter_eq]
  rfl

theorem reconcile_bare (trimmed : strip (joinWith ['\n'] body) = joinWith ['\n'] body) :
    codec.reconcile (joinWith ['\n'] body) banner = codec.truncate (headed banner body) := by
  have nonempty := isBanner.ne_nil plain
  rw [reconcile, trimmed]
  split
  · -- Nothing but a mention of a banner start can have been found, as no line is a banner.
    have first : (lines (joinWith ['\n'] body)).head? ≠ some banner := by
      rw [isBody.lines_eq]
      intro head
      have unmarked := isBody.unmarked banner (List.mem_of_head? head)
      rw [isBanner.isBannerLine plain] at unmarked
      exact Bool.noConfusion unmarked
    rw [if_neg first, rebuild, isBody.lines_eq, isBody.filter_eq, foldl_addLine nonempty,
      plain.lineSeparator_eq]
    rfl
  · by_cases empty : body = []
    · subst empty
      rfl
    · have written : joinWith ['\n'] body ≠ [] := by
        intro blank
        have noLines := isBody.lines_eq
        rw [blank, lines_nil] at noLines
        exact empty noLines.symm
      rw [if_neg written, headed_of_ne_nil banner empty, plain.lineSeparator_eq, List.append_assoc]
      rfl

end Headed

/-! ## Notes that a banner leaves alone -/

theorem truncate_eq_of_short (limited : 0 ≤ codec.maxLength) {t : Text}
    (short : (codec.truncate t).length < codec.maxLength.toNat) : codec.truncate t = t := by
  apply truncate_eq_self limited
  rw [truncate_eq_take limited, List.length_take] at short
  omega

theorem length_foldl_addLine_le (body : List Text) :
    (body.foldl codec.addLine []).length ≤ (joinWith codec.lineSeparator body).length := by
  induction body with
  | nil => exact Nat.le_refl _
  | cons line rest ih =>
    have step : codec.addLine [] line = line := by simp [addLine]
    rw [List.foldl_cons, step]
    by_cases blank : line = []
    · subst blank
      apply Nat.le_trans ih
      cases rest <;> simp [joinWith]
    · exact Nat.le_of_eq (congrArg List.length (foldl_addLine blank rest))

section Fixed

variable {note : Text} (trimmed : strip note = note)
  (feeds : ∀ c ∈ note, isBreak c = true → c = '\n')

include trimmed feeds

theorem isBody_lines (unmarked : ∀ line ∈ lines note, codec.isBannerLine line = false) :
    codec.IsBody (lines note) ∧ joinWith ['\n'] (lines note) = note := by
  have ends := (strip_eq_self_iff.1 trimmed).2
  have joined := joinWith_lines feeds ends
  refine ⟨⟨unmarked, by rw [joined], fun nonempty => ?_⟩, joined⟩
  rw [joined]
  refine ends.prepend ?_ ['\n']
  rintro rfl
  exact nonempty rfl

theorem isBody_tail {first : Text} {body : List Text} (split : lines note = first :: body)
    (unmarked : ∀ line ∈ body, codec.isBannerLine line = false) :
    codec.IsBody body ∧ headed first body = note ∧ Unbroken first := by
  have ends := (strip_eq_self_iff.1 trimmed).2
  have joined : headed first body = note := by
    rw [headed, ← split]
    exact joinWith_lines feeds ends
  have unbroken : Unbroken first := (mem_lines (by rw [split]; exact List.mem_cons_self)).1
  refine ⟨⟨unmarked, ?_, fun nonempty => ?_⟩, joined, unbroken⟩
  · by_cases empty : body = []
    · subst empty
      rfl
    · rw [← joined, headed_of_ne_nil first empty, lines_append_newline unbroken] at split
      exact (List.cons.inj split).2
  · rw [← joined, headed_of_ne_nil first nonempty] at ends
    exact ends.of_append

variable (plain : codec.IsPlain) (limited : 0 ≤ codec.maxLength)
  (later : ∀ line ∈ (lines note).tail, codec.isBannerLine line = false)

include plain limited later

/-- A note that no banner leaves alone has no banner line. -/
theorem unmarked_of_fixed (fixed : codec.truncate (codec.reconcile note []) = note) :
    ∀ line ∈ lines note, codec.isBannerLine line = false := by
  cases split : lines note with
  | nil => exact fun line member => absurd member List.not_mem_nil
  | cons first body =>
    rw [split] at later
    refine List.forall_mem_cons.2 ⟨?_, later⟩
    rw [← Bool.not_eq_true]
    intro marked
    obtain ⟨isBody, joined, -⟩ := isBody_tail trimmed feeds split later
    have lead : codec.bannerStart <:+: first :=
      (startsWith_iff.1 marked).isInfix.trans (strip_isInfix first)
    have member : first ∈ lines note := by rw [split]; exact List.mem_cons_self
    have carries : occursIn codec.bannerStart note = true :=
      occursIn_iff.2 (lead.trans (mem_lines member).2)
    have nonempty : first ≠ [] := lead.ne_nil (bannerStart_ne_nil plain)
    -- The banner line would go, and the note would be shorter.
    have result : codec.reconcile note [] = codec.truncate (body.foldl codec.addLine []) := by
      have other : (first :: body).head? ≠ some [] := fun equal => nonempty (Option.some.inj equal)
      rw [reconcile, trimmed, if_pos carries, split]
      dsimp only
      rw [if_neg other, rebuild, List.filter_cons, marked, isBody.filter_eq]
      rfl
    rw [result, truncate_truncate limited] at fixed
    have shorter := (truncate_isPrefix limited (body.foldl codec.addLine [])).length_le
    have bodyLength : (body.foldl codec.addLine []).length ≤ _ := length_foldl_addLine_le body
    have positive := List.length_pos_iff.2 nonempty
    rw [fixed] at shorter
    have whole := length_headed first body
    rw [joined] at whole
    rw [plain.lineSeparator_eq] at bodyLength
    by_cases empty : body = []
    · rw [if_pos empty] at whole
      subst empty
      simp only [List.foldl_nil, List.length_nil] at shorter
      omega
    · rw [if_neg empty] at whole
      omega

omit feeds later in
theorem occursIn_of_fixed {banner : Text} (isBanner : codec.IsBanner banner)
    (short : note.length < codec.maxLength.toNat)
    (fixed : codec.truncate (codec.reconcile note banner) = note) :
    occursIn codec.bannerStart note = true := by
  have exits := codec.reconciled note banner
  generalize codec.reconcile note banner = result at exits fixed
  cases exits with
  | right carries _ => rwa [trimmed, ← occursIn_iff] at carries
  | rebuilt carries _ => rwa [trimmed, ← occursIn_iff] at carries
  | bare _ empty => exact absurd empty (isBanner.ne_nil plain)
  | alone _ nonempty blank =>
    rw [truncate_truncate limited] at fixed
    have uncut := truncate_eq_of_short limited (by rw [fixed]; exact short)
    exact absurd (uncut.symm.trans (fixed.trans (trimmed.symm.trans blank))) nonempty
  | prepended =>
    -- The banner would go in front, and the note would be longer.
    rw [truncate_truncate limited, trimmed] at fixed
    have uncut := truncate_eq_of_short limited (by rw [fixed]; exact short)
    have longer := congrArg List.length (uncut.symm.trans fixed)
    simp only [List.length_append, plain.lineSeparator_eq, List.length_singleton] at longer
    omega

/-- A note that a banner leaves alone has it for its first line. -/
theorem head_of_fixed {banner : Text} (isBanner : codec.IsBanner banner)
    (short : note.length < codec.maxLength.toNat)
    (fixed : codec.truncate (codec.reconcile note banner) = note) :
    (lines note).head? = some banner := by
  have nonempty := isBanner.ne_nil plain
  have carries := occursIn_of_fixed trimmed plain limited isBanner short fixed
  by_cases first : (lines note).head? = some banner
  · exact first
  exfalso
  rw [reconcile, trimmed, if_pos carries] at fixed
  dsimp only at fixed
  rw [if_neg first, truncate_truncate limited] at fixed
  have uncut := truncate_eq_of_short limited (by rw [fixed]; exact short)
  rw [uncut, rebuild, foldl_addLine nonempty, plain.lineSeparator_eq] at fixed
  cases split : lines note with
  | nil =>
    rw [split] at fixed
    have empty : note = [] := Decidable.not_not.1 fun written => lines_ne_nil written split
    exact nonempty (fixed.trans empty)
  | cons line body =>
    rw [split] at later
    obtain ⟨isBody, joined, -⟩ := isBody_tail trimmed feeds split later
    rw [split, List.filter_cons, isBody.filter_eq] at fixed
    cases marked : codec.isBannerLine line with
    | true =>
      -- Over the same body, only the same first line gives the same note.
      rw [marked] at fixed
      have same : banner = line := headed_injective (fixed.trans joined.symm)
      exact first (by rw [split, same]; rfl)
    | false =>
      -- The first line would stay below the banner, and the note would be longer.
      rw [marked] at fixed
      have longer := congrArg List.length fixed
      change (headed banner (line :: body)).length = note.length at longer
      rw [length_headed, if_neg (List.cons_ne_nil line body), ← joined, headed] at longer
      omega

end Fixed

/-! ## A pin put on and taken off -/

/-- The body of a note under the banner of its tags, without a pin. -/
structure IsUnder (codec : Codec) (tags : List Text) (body : List Text) (note : Text) : Prop where
  isBody : codec.IsBody body
  trimmed : strip note = note
  unbroken : Unbroken (codec.encode false tags)
  note_eq : note =
    if codec.encode false tags = [] then joinWith ['\n'] body
    else headed (codec.encode false tags) body

section Pins

variable {tags body : List Text} {note : Text} (plain : codec.IsPlain)
  (limited : 0 ≤ codec.maxLength)

include plain limited

theorem exists_isUnder (trimmed : strip note = note)
    (feeds : ∀ c ∈ note, isBreak c = true → c = '\n')
    (later : ∀ line ∈ (lines note).tail, codec.isBannerLine line = false)
    (short : note.length < codec.maxLength.toNat)
    (fixed : codec.truncate (codec.reconcile note (codec.encode false tags)) = note) :
    ∃ body, codec.IsUnder tags body note := by
  by_cases empty : codec.encode false tags = []
  · rw [empty] at fixed
    have unmarked := unmarked_of_fixed trimmed feeds plain limited later fixed
    obtain ⟨isBody, joined⟩ := isBody_lines trimmed feeds unmarked
    exact ⟨lines note, isBody, trimmed, by simp [empty, Unbroken], by rw [if_pos empty, joined]⟩
  · have isBanner := isBanner_encode_false plain empty
    -- Such a note has the banner of its tags on its first line, and the body below it.
    have first := head_of_fixed trimmed feeds plain limited later isBanner short fixed
    obtain ⟨body, split⟩ : ∃ body, lines note = codec.encode false tags :: body := by
      cases split : lines note with
      | nil => simp [split] at first
      | cons line body =>
        rw [split, List.head?_cons, Option.some.injEq] at first
        exact ⟨body, by rw [first]⟩
    rw [split, List.tail_cons] at later
    obtain ⟨isBody, joined, unbroken⟩ := isBody_tail trimmed feeds split later
    exact ⟨body, isBody, trimmed, unbroken, by rw [if_neg empty, joined]⟩

omit limited in
theorem IsUnder.differ (under : codec.IsUnder tags body note)
    (unnoted : ¬ codec.pinMarker <:+: note) :
    codec.encode true tags ≠ codec.encode false tags := by
  -- Otherwise the note would be under a banner that holds the pin marker.
  intro same
  have pins := isBanner_encode_true plain tags
  have noteEq := under.note_eq
  rw [if_neg (by rw [← same]; exact pins.ne_nil plain)] at noteEq
  refine unnoted (List.IsInfix.trans ?_ (noteEq ▸ infix_headed _ body))
  rw [← same, encode_true plain]
  exact List.infix_append_left

/-- The pin takes the place of the banner, above the same body. -/
theorem IsUnder.reconcile_pin (under : codec.IsUnder tags body note)
    (unnoted : ¬ codec.pinMarker <:+: note)
    (short : note.length + codec.pinMarker.length < codec.maxLength.toNat) :
    codec.truncate (codec.reconcile note (codec.encode true tags)) =
      headed (codec.encode true tags) body := by
  have pins := isBanner_encode_true plain tags
  have size := length_encode_true_le plain tags
  have whole := length_headed (codec.encode true tags) body
  have differ := under.differ plain unnoted
  have noteEq := under.note_eq
  by_cases empty : codec.encode false tags = []
  · -- There is no banner yet, so the pin goes above the whole note.
    rw [if_pos empty] at noteEq size
    rw [empty, List.length_nil, Nat.zero_add, Nat.add_zero] at size
    have trimmed := under.trimmed
    rw [noteEq] at trimmed short ⊢
    rw [reconcile_bare plain pins under.isBody trimmed, truncate_truncate limited]
    apply truncate_eq_self limited
    split at whole <;> omega
  · rw [if_neg empty] at noteEq size
    have isBanner := isBanner_encode_false plain empty
    have noteLength := length_headed (codec.encode false tags) body
    rw [noteEq] at short ⊢
    rw [reconcile_headed plain isBanner under.isBody under.unbroken differ.symm,
      foldl_addLine (pins.ne_nil plain), truncate_truncate limited, plain.lineSeparator_eq]
    apply truncate_eq_self limited
    change (headed (codec.encode true tags) body).length ≤ _
    by_cases alone : body = []
    · rw [if_pos alone] at whole noteLength
      omega
    · rw [if_neg alone] at whole noteLength
      omega

omit limited in
theorem IsUnder.foldl_addLine_eq (under : codec.IsUnder tags body note) :
    body.foldl codec.addLine (codec.encode false tags) = note := by
  have noteEq := under.note_eq
  by_cases empty : codec.encode false tags = []
  · rw [if_pos empty] at noteEq
    rw [empty]
    cases body with
    | nil => exact noteEq.symm
    | cons line rest =>
      -- A trimmed note does not begin with a blank line, so joining starts with its first line.
      have written : line ≠ [] := by
        rintro rfl
        have starts := (strip_eq_self_iff.1 under.trimmed).1
        cases rest with
        | nil => simpa [joinWith] using under.isBody.lines_eq
        | cons next rest =>
          rw [noteEq] at starts
          exact absurd (starts '\n' rfl) (by decide)
      have step : codec.addLine [] line = line := by simp [addLine]
      rw [List.foldl_cons, step, foldl_addLine written, plain.lineSeparator_eq, noteEq]
  · rw [if_neg empty] at noteEq
    rw [foldl_addLine empty, plain.lineSeparator_eq, noteEq]
    rfl

/-- Taking the pin off gives the note back. -/
theorem IsUnder.reconcile_unpin (under : codec.IsUnder tags body note)
    (unnoted : ¬ codec.pinMarker <:+: note) (fits : note.length ≤ codec.maxLength.toNat) :
    codec.truncate (codec.reconcile (headed (codec.encode true tags) body)
      (codec.encode false tags)) = note := by
  have pins := isBanner_encode_true plain tags
  have unbroken := unbroken_encode_true plain under.unbroken
  rw [reconcile_headed plain pins under.isBody unbroken (under.differ plain unnoted),
    truncate_truncate limited, under.foldl_addLine_eq plain]
  exact truncate_eq_self limited fits

omit limited in
/-- What cannot stand at the opening of a banner stands in the note with the pin as in the note. -/
theorem IsUnder.infix_pin_iff (under : codec.IsUnder tags body note) {needle : Text}
    (nonempty : needle ≠ []) (unbroken : Unbroken needle)
    (other : ∀ c ∈ codec.pinMarker, needle.head? ≠ some c) (noBlank : needle.head? ≠ some ' ') :
    needle <:+: headed (codec.encode true tags) body ↔ needle <:+: note := by
  have pins := isBanner_encode_true plain tags
  have bannerIff := infix_encode_iff plain nonempty other noBlank tags
  have noteEq := under.note_eq
  -- A needle without line breaks is looked for line by line.
  have inLines (first : Text) : (∃ line ∈ first :: body, needle <:+: line) ↔
      needle <:+: first ∨ ∃ line ∈ body, needle <:+: line := by
    simp only [List.mem_cons, or_and_right, exists_or, exists_eq_left]
  rw [infix_iff_exists_line nonempty unbroken,
    lines_headed plain pins under.isBody (unbroken_encode_true plain under.unbroken),
    infix_iff_exists_line nonempty unbroken, inLines, bannerIff]
  by_cases empty : codec.encode false tags = []
  · rw [if_pos empty] at noteEq
    rw [noteEq, under.isBody.lines_eq, empty, List.infix_nil]
    exact or_iff_right nonempty
  · rw [if_neg empty] at noteEq
    rw [noteEq, lines_headed plain (isBanner_encode_false plain empty) under.isBody under.unbroken,
      inLines]

end Pins

end TaskTitles.Note.Codec
