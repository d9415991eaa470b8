import TaskTitles.Proofs.Text.Strip

/-!
# Pieces of texts

A text is split at a mark into what stands before its first occurrence and the pieces of the rest
(`splitOn_append_cons`), and a mark that is repeated holds no other character (`not_mem_times`).
Neither splitting nor stripping loses or repeats a character that is visible and no separator
(`count_splitOn`, `count_strip`).
-/

namespace TaskTitles.Text

/-! ## Splitting at a mark -/

section Marks

variable {mark : Char}

theorem startsWith_singleton (c : Char) (cs : Text) :
    startsWith [mark] (c :: cs) = decide (mark = c) := by
  by_cases same : mark = c <;> simp [startsWith, dropLead?, same]

theorem splitOn_cons (c : Char) (cs : Text) :
    splitOn [mark] (c :: cs) =
      if mark = c then [] :: splitOn [mark] cs else consFirst c (splitOn [mark] cs) := by
  simp [splitOn, splitFrom, startsWith_singleton]

theorem splitOn_of_not_mem {t : Text} (absent : mark ∉ t) : splitOn [mark] t = [t] := by
  induction t with
  | nil => rfl
  | cons c cs ih =>
    obtain ⟨other, later⟩ := not_or.1 (mt List.mem_cons.2 absent)
    rw [splitOn_cons, if_neg other, ih later]
    rfl

theorem splitOn_append_cons {front : Text} (absent : mark ∉ front) (back : Text) :
    splitOn [mark] (front ++ mark :: back) = front :: splitOn [mark] back := by
  induction front with
  | nil => simp [splitOn_cons]
  | cons c front ih =>
    obtain ⟨other, later⟩ := not_or.1 (mt List.mem_cons.2 absent)
    rw [List.cons_append, splitOn_cons, if_neg other, ih later]
    rfl

theorem not_mem_of_mem_splitOn {t piece : Text} (member : piece ∈ splitOn [mark] t) :
    mark ∉ piece := by
  induction t generalizing piece with
  | nil =>
    have empty : piece = [] := by simpa [splitOn, splitFrom] using member
    simp [empty]
  | cons c cs ih =>
    rw [splitOn_cons] at member
    split at member
    · cases member with
      | head => exact List.not_mem_nil
      | tail _ later => exact ih later
    · next other =>
      -- The character belongs to the first piece of the rest, which is there.
      cases pieces : splitOn [mark] cs with
      | nil => exact absurd pieces (splitFrom_ne_nil _ _ _)
      | cons first rest =>
        rw [pieces] at ih member
        cases member with
        | head => exact mt List.mem_cons.1 (not_or.2 ⟨other, ih List.mem_cons_self⟩)
        | tail _ later => exact ih (List.mem_cons_of_mem first later)

/-- Pieces without the mark come out of the text that joins them, but for the gap that stands
    between a mark and the next piece. -/
theorem splitOn_joinWith {gap first : Text} {rest : List Text} (absentGap : mark ∉ gap)
    (absent : mark ∉ first) (absentRest : ∀ piece ∈ rest, mark ∉ piece) :
    splitOn [mark] (joinWith (mark :: gap) (first :: rest)) = first :: rest.map (gap ++ ·) := by
  induction rest generalizing first with
  | nil => exact splitOn_of_not_mem absent
  | cons next rest ih =>
    obtain ⟨absentNext, absentLater⟩ := List.forall_mem_cons.1 absentRest
    have joined : joinWith (mark :: gap) (first :: next :: rest) =
        first ++ mark :: joinWith (mark :: gap) ((gap ++ next) :: rest) := by
      cases rest <;> simp [joinWith]
    rw [joined, splitOn_append_cons absent, ih (by simp [absentGap, absentNext]) absentLater,
      List.map_cons]

end Marks

/-! ## Repeated characters -/

theorem times_singleton (n : Nat) (c : Char) : times n [c] = List.replicate n c := by
  induction n with
  | zero => rfl
  | succ n ih => simp [times, ih, List.replicate_succ]

theorem not_mem_times {mark c : Char} (other : c ≠ mark) (n : Nat) : c ∉ times n [mark] := by
  rw [times_singleton]
  exact fun member => other (List.eq_of_mem_replicate member)

/-! ## Counting characters -/

variable {c : Char}

theorem count_stripStart (visible : isBlank c = false) (t : Text) :
    (stripStart t).count c = t.count c := by
  induction t with
  | nil => rfl
  | cons d ds ih =>
    by_cases blank : isBlank d = true
    · -- The character that is dropped is another one.
      have other : d ≠ c := fun same => by simp [same, visible] at blank
      simpa [stripStart, blank, other] using ih
    · rw [stripStart_of_not_blank (by simpa using blank)]

theorem count_strip (visible : isBlank c = false) (t : Text) : (strip t).count c = t.count c := by
  rw [strip, stripEnd_eq_reverse, List.count_reverse, count_stripStart visible, List.count_reverse,
    count_stripStart visible]

theorem count_joinWith {sep : Text} (absent : c ∉ sep) (pieces : List Text) :
    (joinWith sep pieces).count c = pieces.flatten.count c := by
  induction pieces with
  | nil => rfl
  | cons piece rest ih =>
    cases rest with
    | nil => simp [joinWith]
    | cons next rest =>
      rw [joinWith_cons _ _ (List.cons_ne_nil next rest), List.flatten_cons, List.count_append,
        List.count_append, List.count_append, List.count_eq_zero_of_not_mem absent, ih, Nat.add_zero]

theorem mem_joinWith {sep : Text} {pieces : List Text} (member : c ∈ joinWith sep pieces) :
    c ∈ sep ∨ ∃ piece ∈ pieces, c ∈ piece := by
  by_cases inSep : c ∈ sep
  · exact .inl inSep
  · have counted := List.count_pos_iff.2 member
    rw [count_joinWith inSep, List.count_pos_iff, List.mem_flatten] at counted
    exact .inr counted

theorem mem_joinWith_of_mem {sep piece : Text} {pieces : List Text} (member : piece ∈ pieces)
    (inPiece : c ∈ piece) : c ∈ joinWith sep pieces := by
  induction pieces with
  | nil => exact absurd member List.not_mem_nil
  | cons first rest ih =>
    cases rest with
    | nil => exact List.mem_singleton.1 member ▸ inPiece
    | cons second rest =>
      rw [joinWith_cons sep first (List.cons_ne_nil second rest), List.append_assoc]
      rcases List.mem_cons.1 member with rfl | later
      · exact List.mem_append_left _ inPiece
      · exact List.mem_append_right _ (List.mem_append_right _ (ih later))

theorem mem_of_mem_splitOn {sep t piece : Text} (nonempty : sep ≠ []) (member : piece ∈ splitOn sep t)
    (inPiece : c ∈ piece) : c ∈ t := by
  have joined : c ∈ joinWith sep (splitOn sep t) := mem_joinWith_of_mem member inPiece
  rwa [joinWith_splitOn sep nonempty] at joined

theorem count_splitOn {sep : Text} (nonempty : sep ≠ []) (absent : c ∉ sep) (t : Text) :
    (splitOn sep t).flatten.count c = t.count c := by
  rw [← count_joinWith absent, joinWith_splitOn sep nonempty]

end TaskTitles.Text
