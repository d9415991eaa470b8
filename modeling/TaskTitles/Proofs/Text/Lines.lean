import Mathlib.Data.List.Induction
import TaskTitles.Proofs.Text.Strip

/-!
# Lines of texts

A text without line breaks is a line by itself, and a line feed behind it opens the lines of the
rest (`lines_append_newline`).  A needle without line breaks occurs in a text exactly when it occurs
in one of its lines (`infix_iff_exists_line`), and a text that is broken by line feeds only is its
lines joined again (`joinWith_lines`).  Stripping a text takes blanks away from its lines and nothing
else (`exists_of_mem_lines_strip`).
-/

namespace TaskTitles.Text

def Unbroken (t : Text) : Prop := ∀ c ∈ t, isBreak c = false

instance (t : Text) : Decidable (Unbroken t) := List.decidableBAll _ t

/-! ## Line breaks -/

theorem isBlank_of_isBreak {c : Char} (isBreakChar : isBreak c = true) : isBlank c = true := by
  simp only [isBreak, breakRanges, Ranges.holds, List.any_cons, List.any_nil, Bool.or_false,
    Bool.or_eq_true, Bool.and_eq_true, decide_eq_true_eq] at isBreakChar
  simp only [isBlank, blankRanges, Ranges.holds, List.any_cons, List.any_nil, Bool.or_false,
    Bool.or_eq_true, Bool.and_eq_true, decide_eq_true_eq]
  -- Each range of breaks lies in one of the ranges of blanks.
  omega

theorem isBreak_eq_false_of_visible {c : Char} (visible : isBlank c = false) : isBreak c = false := by
  cases isBreakChar : isBreak c with
  | false => rfl
  | true => simp [isBlank_of_isBreak isBreakChar] at visible

@[simp] theorem isBreak_newline : isBreak '\n' = true := by decide

theorem Unbroken.newline_not_mem {t : Text} (unbroken : Unbroken t) : '\n' ∉ t := fun member => by
  simpa using unbroken '\n' member

theorem unbroken_of_forall {t : Text} (visible : ∀ c ∈ t, isBlank c = false) : Unbroken t :=
  fun c member => isBreak_eq_false_of_visible (visible c member)

theorem Unbroken.append {front back : Text} (frontUnbroken : Unbroken front)
    (backUnbroken : Unbroken back) : Unbroken (front ++ back) := by
  intro c member
  cases List.mem_append.1 member with
  | inl inFront => exact frontUnbroken c inFront
  | inr inBack => exact backUnbroken c inBack

theorem Unbroken.mono {part t : Text} (unbroken : Unbroken t) (occurs : part <:+: t) :
    Unbroken part := fun c member => unbroken c (occurs.subset member)

/-! ## Equations -/

@[simp] theorem consFirst_nil (c : Char) : consFirst c [] = [[c]] := rfl

@[simp] theorem consFirst_cons (c : Char) (piece : Text) (pieces : List Text) :
    consFirst c (piece :: pieces) = (c :: piece) :: pieces := rfl

theorem lines_cons {c : Char} (noBreak : isBreak c = false) (cs : Text) :
    lines (c :: cs) = consFirst c (lines cs) := by
  rw [lines]
  · simp [noBreak]
  · rintro cs' rfl -
    simp [isBreak, breakRanges, Ranges.holds] at noBreak

@[simp] theorem lines_newline (cs : Text) : lines ('\n' :: cs) = [] :: lines cs := by
  rw [lines]
  · simp
  · intro cs' impossible
    simp at impossible

theorem lines_break {c : Char} (isBreakChar : isBreak c = true) {cs : Text}
    (single : ¬ (c = '\r' ∧ cs.head? = some '\n')) : lines (c :: cs) = [] :: lines cs := by
  rw [lines]
  · rw [if_pos isBreakChar]
  · rintro rest rfl rfl
    exact single ⟨rfl, rfl⟩

theorem lines_unbroken {t : Text} (nonempty : t ≠ []) (unbroken : Unbroken t) : lines t = [t] := by
  induction t with
  | nil => exact absurd rfl nonempty
  | cons c cs ih =>
    rw [lines_cons (unbroken c List.mem_cons_self)]
    by_cases last : cs = []
    · simp [last]
    · rw [ih last fun d member => unbroken d (List.mem_cons_of_mem c member)]
      rfl

/-- What stands in front of a line break is a line. -/
theorem lines_append {front t : Text} {rest : List Text} (unbroken : Unbroken front)
    (opened : lines t = [] :: rest) : lines (front ++ t) = front :: rest := by
  induction front with
  | nil => simpa using opened
  | cons c front ih =>
    rw [List.cons_append, lines_cons (unbroken c List.mem_cons_self),
      ih fun d member => unbroken d (List.mem_cons_of_mem c member)]
    rfl

theorem lines_append_newline {front : Text} (unbroken : Unbroken front) (back : Text) :
    lines (front ++ '\n' :: back) = front :: lines back :=
  lines_append unbroken (lines_newline back)

/-! ## Line by line -/

/-- What stands between two lines: a carriage return with a line feed, or a single break. -/
inductive IsLineEnd : Text → Prop where
  | pair : IsLineEnd ['\r', '\n']
  | single {c : Char} (isBreakChar : isBreak c = true) : IsLineEnd [c]

theorem IsLineEnd.isBreak {gap : Text} (lineEnd : IsLineEnd gap) : ∀ c ∈ gap, isBreak c = true := by
  cases lineEnd with
  | pair => exact List.all_eq_true.1 rfl
  | single isBreakChar => simpa using isBreakChar

theorem IsLineEnd.ne_nil {gap : Text} (lineEnd : IsLineEnd gap) : gap ≠ [] := by
  cases lineEnd <;> simp

/-- What holds of a text and its lines, because it holds of the empty text, of a single line, and of
    a line in front of a line end and further text. -/
theorem lines_induction {motive : Text → List Text → Prop} (nil : motive [] [])
    (last : ∀ line, line ≠ [] → Unbroken line → motive line [line])
    (step : ∀ line gap rest, Unbroken line → IsLineEnd gap → motive rest (lines rest) →
      motive (line ++ gap ++ rest) (line :: lines rest)) (t : Text) : motive t (lines t) := by
  -- The characters of the line that is being read are collected in `line`.
  suffices collected : ∀ line, Unbroken line →
      (line = [] → motive t (lines t)) ∧
        (line ≠ [] → motive (line ++ t) (line.foldr consFirst (lines t))) from
    (collected [] (by simp [Unbroken])).1 rfl
  -- A line that has been collected ends at a line end, or with the text.
  have grow (line : Text) (lines : List Text) :
      line.foldr consFirst ([] :: lines) = line :: lines := by
    induction line with
    | nil => rfl
    | cons c cs ih => simp [ih]
  have whole (line : Text) (nonempty : line ≠ []) : line.foldr consFirst [] = [line] := by
    induction line with
    | nil => exact absurd rfl nonempty
    | cons c cs ih =>
      by_cases single : cs = []
      · simp [single]
      · simp [ih single]
  fun_induction lines t with
  | case1 =>
    intro line unbroken
    refine ⟨fun _ => nil, fun nonempty => ?_⟩
    rw [whole line nonempty, List.append_nil]
    exact last line nonempty unbroken
  | case2 cs ih =>
    have rest := (ih [] (by simp [Unbroken])).1 rfl
    intro line unbroken
    refine ⟨fun _ => step [] _ cs (by simp [Unbroken]) .pair rest, fun _ => ?_⟩
    rw [grow]
    simpa using step line _ cs unbroken .pair rest
  | case3 c cs _ isBreakChar ih =>
    have rest := (ih [] (by simp [Unbroken])).1 rfl
    intro line unbroken
    refine ⟨fun _ => step [] _ cs (by simp [Unbroken]) (.single isBreakChar) rest, fun _ => ?_⟩
    rw [grow]
    simpa using step line _ cs unbroken (.single isBreakChar) rest
  | case4 c cs _ noBreak ih =>
    intro line unbroken
    -- No line ends here: the character joins the line that is being read.
    have longer : Unbroken (line ++ [c]) := unbroken.append (by simpa [Unbroken] using noBreak)
    have read := (ih (line ++ [c]) longer).2 (by simp)
    rw [List.foldr_append] at read
    refine ⟨?_, fun _ => by simpa using read⟩
    rintro rfl
    simpa using read

theorem mem_lines {line t : Text} (member : line ∈ lines t) : Unbroken line ∧ line <:+: t := by
  induction t using lines_induction generalizing line with
  | nil => simp at member
  | last whole _ unbroken =>
    rw [List.mem_singleton.1 member]
    exact ⟨unbroken, List.infix_rfl⟩
  | step first gap rest unbroken _ ih =>
    rcases List.mem_cons.1 member with rfl | later
    · exact ⟨unbroken, by simp [List.append_assoc, List.infix_append_left]⟩
    · obtain ⟨lineUnbroken, occurs⟩ := ih later
      exact ⟨lineUnbroken, List.infix_append_of_infix_right occurs⟩

theorem lines_ne_nil {t : Text} (nonempty : t ≠ []) : lines t ≠ [] := by
  induction t using lines_induction with
  | nil => exact absurd rfl nonempty
  | last line _ _ => exact List.cons_ne_nil line []
  | step line _ rest _ _ _ => exact List.cons_ne_nil line (lines rest)

theorem prefix_head_lines {front line t : Text} (lead : front <+: t) (unbroken : Unbroken front)
    (first : (lines t).head? = some line) : front <+: line := by
  induction t using lines_induction with
  | nil => simp at first
  | last whole _ _ =>
    rw [List.head?_cons, Option.some.injEq] at first
    rwa [← first]
  | step whole gap rest _ lineEnd _ =>
    rw [List.head?_cons, Option.some.injEq] at first
    subst first
    rw [List.append_assoc] at lead
    rcases List.prefix_or_prefix_of_prefix lead (List.prefix_append whole _) with
      inside | ⟨beyond, rfl⟩
    · exact inside
    · -- What reaches beyond the line would start with a line break.
      obtain ⟨d, ds, gapSplit⟩ := List.exists_cons_of_ne_nil lineEnd.ne_nil
      have isBreakChar := lineEnd.isBreak d (by simp [gapSplit])
      rw [List.prefix_append_right_inj, gapSplit] at lead
      cases beyond with
      | nil => simp
      | cons e beyond =>
        obtain ⟨rfl, -⟩ := List.cons_prefix_cons.1 lead
        simp [unbroken e (by simp)] at isBreakChar

/-- A needle without line breaks occurs in a text exactly when it occurs in one of its lines. -/
theorem infix_iff_exists_line {needle t : Text} (nonempty : needle ≠ [])
    (unbroken : Unbroken needle) :
    needle <:+: t ↔ ∃ line ∈ lines t, needle <:+: line := by
  constructor
  · intro occurs
    induction t using lines_induction with
    | nil => exact absurd (List.infix_nil.1 occurs) nonempty
    | last line _ _ => exact ⟨line, List.mem_singleton_self line, occurs⟩
    | step line gap rest _ lineEnd ih =>
      have absent {c : Char} (isBreakChar : isBreak c = true) : c ∉ needle := fun member => by
        simp [unbroken c member] at isBreakChar
      -- No character of the line end is in the needle, which thus stands on one side of it.
      have sides : needle <:+: line ∨ needle <:+: rest := by
        cases lineEnd with
        | pair =>
          rw [List.append_assoc] at occurs
          apply (infix_append_cons (absent (by decide)) occurs).imp_right
          intro behind
          have other : needle.head? ≠ some '\n' := fun first =>
            absent isBreak_newline (List.mem_of_head? first)
          exact infix_of_infix_cons other nonempty behind
        | single isBreakChar =>
          rw [List.append_assoc] at occurs
          exact infix_append_cons (absent isBreakChar) occurs
      cases sides with
      | inl inLine => exact ⟨line, List.mem_cons_self, inLine⟩
      | inr inRest =>
        obtain ⟨later, member, inLater⟩ := ih inRest
        exact ⟨later, List.mem_cons_of_mem line member, inLater⟩
  · rintro ⟨line, member, occurs⟩
    exact occurs.trans (mem_lines member).2

/-- Lines that line feeds alone have ended give the text back when they are joined. -/
theorem joinWith_lines {t : Text} (feeds : ∀ c ∈ t, isBreak c = true → c = '\n')
    (ends : EndsVisible t) : joinWith ['\n'] (lines t) = t := by
  induction t using lines_induction with
  | nil => rfl
  | last line _ _ => rfl
  | step line gap rest _ lineEnd ih =>
    have gapEq : gap = ['\n'] := by
      cases lineEnd with
      | pair => exact absurd (feeds '\r' (by simp) (by decide)) (by decide)
      | single isBreakChar => rw [feeds _ (by simp) isBreakChar]
    subst gapEq
    -- A line end that ends the text would be blank.
    have restNonempty : rest ≠ [] := by
      rintro rfl
      have visible := ends '\n' (by simp)
      exact absurd visible (by decide)
    have restEnds : EndsVisible rest := ends.of_append
    have restFeeds : ∀ c ∈ rest, isBreak c = true → c = '\n' := fun c member =>
      feeds c (List.mem_append_right _ member)
    rw [joinWith_cons _ _ (lines_ne_nil restNonempty), ih restFeeds restEnds]

/-! ## Lines of stripped texts -/

/-- What may become of lines when a character is put behind the text: it joins the last line, or
    stands behind all of them. -/
inductive Grows (c : Char) : List Text → List Text → Prop where
  | behind (pieces extra : List Text) : Grows c pieces (pieces ++ extra)
  | joined (front : List Text) (last : Text) : Grows c (front ++ [last]) (front ++ [last ++ [c]])

theorem Grows.cons {c : Char} {before after : List Text} (grows : Grows c before after)
    (line : Text) : Grows c (line :: before) (line :: after) := by
  cases grows with
  | behind _ extra => exact .behind (line :: before) extra
  | joined front last => exact .joined (line :: front) last

theorem Grows.consFirst {c : Char} {before after : List Text} (grows : Grows c before after)
    (nonempty : before ≠ []) (d : Char) : Grows c (consFirst d before) (consFirst d after) := by
  cases grows with
  | behind _ extra =>
    obtain ⟨line, rest, rfl⟩ := List.exists_cons_of_ne_nil nonempty
    exact .behind ((d :: line) :: rest) extra
  | joined front last =>
    cases front with
    | nil => exact .joined [] (d :: last)
    | cons line front => exact .joined ((d :: line) :: front) last

theorem Grows.exists_mem {c : Char} {before after : List Text} (grows : Grows c before after)
    {line : Text} (member : line ∈ before) :
    ∃ whole ∈ after, whole = line ∨ whole = line ++ [c] := by
  cases grows with
  | behind _ extra => exact ⟨line, List.mem_append_left extra member, .inl rfl⟩
  | joined front last =>
    cases List.mem_append.1 member with
    | inl inFront => exact ⟨line, List.mem_append_left _ inFront, .inl rfl⟩
    | inr isLast =>
      rw [List.mem_singleton.1 isLast]
      exact ⟨last ++ [c], List.mem_append_right front (List.mem_singleton_self _), .inr rfl⟩

theorem grows_lines (c : Char) (t : Text) : Grows c (lines t) (lines (t ++ [c])) := by
  fun_induction lines t with
  | case1 => exact .behind [] (lines [c])
  | case2 cs ih => exact ih.cons []
  | case3 d cs notPair isBreakChar ih =>
    by_cases pair : d = '\r' ∧ (cs ++ [c]).head? = some '\n'
    · -- The line feed that is added completes the line end.
      obtain ⟨rfl, first⟩ := pair
      cases cs with
      | nil =>
        obtain rfl : c = '\n' := by simpa using first
        exact .behind [[]] []
      | cons e cs =>
        obtain rfl : e = '\n' := by simpa using first
        exact absurd rfl (notPair cs rfl)
    · rw [List.cons_append, lines_break isBreakChar pair]
      exact ih.cons []
  | case4 d cs _ noBreak ih =>
    rw [List.cons_append, lines_cons (by simpa using noBreak)]
    by_cases last : cs = []
    · subst last
      by_cases isBreakChar : isBreak c = true
      · rw [List.nil_append, lines_break isBreakChar (by simp)]
        exact .behind [[d]] []
      · rw [List.nil_append, lines_cons (by simpa using isBreakChar)]
        exact .joined [] [d]
    · exact ih.consFirst (lines_ne_nil last) d

theorem exists_lines_cons (c : Char) {t line : Text} (member : line ∈ lines t) :
    ∃ whole ∈ lines (c :: t), whole = line ∨ whole = c :: line := by
  by_cases isBreakChar : isBreak c = true
  · by_cases pair : c = '\r' ∧ t.head? = some '\n'
    · obtain ⟨rfl, first⟩ := pair
      cases t with
      | nil => cases member
      | cons d t =>
        obtain rfl : d = '\n' := by simpa using first
        rw [lines_newline] at member
        exact ⟨line, member, .inl rfl⟩
    · rw [lines_break isBreakChar pair]
      exact ⟨line, List.mem_cons_of_mem [] member, .inl rfl⟩
  · rw [lines_cons (by simpa using isBreakChar)]
    obtain ⟨first, rest, split⟩ := List.exists_cons_of_ne_nil (List.ne_nil_of_mem member)
    rw [split] at member ⊢
    rcases List.mem_cons.1 member with rfl | later
    · exact ⟨c :: line, List.mem_cons_self, .inr rfl⟩
    · exact ⟨line, List.mem_cons_of_mem _ later, .inl rfl⟩

theorem exists_of_mem_lines_stripStart {t line : Text} (member : line ∈ lines (stripStart t)) :
    ∃ whole ∈ lines t, strip whole = strip line ∧ line <:+: whole := by
  induction t with
  | nil => exact ⟨line, member, rfl, List.infix_rfl⟩
  | cons c cs ih =>
    by_cases blank : isBlank c = true
    · have dropped : stripStart (c :: cs) = stripStart cs := by simp [stripStart, blank]
      obtain ⟨inner, inLines, same, occurs⟩ := ih (dropped ▸ member)
      obtain ⟨whole, inWhole, rfl | rfl⟩ := exists_lines_cons c inLines
      · exact ⟨_, inWhole, same, occurs⟩
      · exact ⟨_, inWhole, by rw [strip_cons_of_blank blank, same], List.infix_cons occurs⟩
    · rw [stripStart_of_not_blank (by simpa using blank)] at member
      exact ⟨line, member, rfl, List.infix_rfl⟩

theorem exists_of_mem_lines_stripEnd {t line : Text} (member : line ∈ lines (stripEnd t)) :
    ∃ whole ∈ lines t, strip whole = strip line ∧ line <:+: whole := by
  induction t using List.reverseRecOn with
  | nil => exact ⟨line, member, rfl, List.infix_rfl⟩
  | append_singleton t c ih =>
    by_cases blank : isBlank c = true
    · rw [stripEnd_append_of_blank blank] at member
      obtain ⟨inner, inLines, same, occurs⟩ := ih member
      obtain ⟨whole, inWhole, rfl | rfl⟩ := (grows_lines c t).exists_mem inLines
      · exact ⟨_, inWhole, same, occurs⟩
      · exact ⟨_, inWhole, by rw [strip_append_of_blank blank, same],
          List.infix_append_of_infix_left occurs⟩
    · have kept : stripEnd (t ++ [c]) = t ++ [c] := by
        simp [stripEnd_eq_reverse, stripStart, blank]
      rw [kept] at member
      exact ⟨line, member, rfl, List.infix_rfl⟩

/-- A line of the stripped text is a line of the text, but for blanks at its ends. -/
theorem exists_of_mem_lines_strip {t line : Text} (member : line ∈ lines (strip t)) :
    ∃ whole ∈ lines t, strip whole = strip line ∧ line <:+: whole := by
  obtain ⟨inner, inLines, sameInner, inInner⟩ := exists_of_mem_lines_stripEnd member
  obtain ⟨whole, inWhole, same, occurs⟩ := exists_of_mem_lines_stripStart inLines
  exact ⟨whole, inWhole, same.trans sameInner, inInner.trans occurs⟩

end TaskTitles.Text
