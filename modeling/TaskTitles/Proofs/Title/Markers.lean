import TaskTitles.Proofs.Text.Runs
import TaskTitles.Title.Tokens

/-!
# Markers of titles

Which values a title is read to have depends on the runs of its delimiter in the region of marked
values.  A marker is read where it is written, and also where a longer marker is written a second
time: only its first occurrence is cut out whole, so that the shorter marker is found in the next
one (`Tokens.isSome_ofTitle`).
-/

namespace TaskTitles.Title

open Text

/-- The part of a title from the first delimiter that follows a blank; empty without one. -/
def regionOf (delimiter : Char) (title : Text) : Text :=
  match cut? (" " ++ [delimiter]) title with
  | none => []
  | some (_, after) => delimiter :: after

/-- How often a marker of so many delimiters, and no more, is written in a title. -/
def timesWritten (delimiter : Char) (size : Nat) (title : Text) : Nat :=
  (runs delimiter (regionOf delimiter title)).count size

/-! ## Taking marks off the runs -/

theorem forall_cutRun (size : Nat) {bound : Nat} {sizes : List Nat}
    (below : ∀ run ∈ sizes, run < bound) : ∀ run ∈ cutRun size sizes, run < bound := by
  induction sizes with
  | nil => exact below
  | cons first rest ih =>
    obtain ⟨firstBelow, restBelow⟩ := List.forall_mem_cons.1 below
    rw [cutRun]
    split
    · exact List.forall_mem_cons.2 ⟨firstBelow, ih restBelow⟩
    · refine List.forall_mem_append.2 ⟨fun run member => ?_, restBelow⟩
      rw [eq_of_mem_runOf member]
      exact Nat.lt_of_le_of_lt (Nat.sub_le first size) firstBelow

/-- One run fewer is at least `least` long when marks are taken off, if no run is so long that
    `least` of its marks are left. -/
theorem countP_cutRun {size least : Nat} (fits : least ≤ size) {sizes : List Nat}
    (below : ∀ run ∈ sizes, run < size + least) :
    (cutRun size sizes).countP (least ≤ ·) + min 1 (sizes.countP (size ≤ ·)) =
      sizes.countP (least ≤ ·) := by
  induction sizes with
  | nil => rfl
  | cons first rest ih =>
    obtain ⟨firstBelow, restBelow⟩ := List.forall_mem_cons.1 below
    have later := ih restBelow
    rw [cutRun]
    by_cases short : first < size
    · have same : ¬ size ≤ first := Nat.not_le.2 short
      rw [if_pos short]
      simp only [List.countP_cons, same, decide_false, Bool.false_eq_true, if_false]
      omega
    · have long : size ≤ first := Nat.le_of_not_lt short
      have enough : least ≤ first := Nat.le_trans fits long
      have little : ¬ least ≤ first - size := by omega
      have nothing : (runOf (first - size)).countP (least ≤ ·) = 0 :=
        List.countP_eq_zero.2 fun run member => by rwa [eq_of_mem_runOf member, decide_eq_true_eq]
      rw [if_neg short, List.countP_append, nothing]
      simp only [List.countP_cons, long, enough, decide_true, if_true]
      omega

theorem countP_le_eq_count_add (least : Nat) (sizes : List Nat) :
    sizes.countP (least ≤ ·) = sizes.count least + sizes.countP (least + 1 ≤ ·) := by
  induction sizes with
  | nil => rfl
  | cons first rest ih =>
    simp only [List.countP_cons, List.count_cons, beq_iff_eq, decide_eq_true_eq, ih]
    split <;> split <;> split <;> omega

/-! ## One extraction -/

section Extractions

variable {delimiter : Char} {size : Nat} (positive : 0 < size) (region : Text)

include positive

theorem isSome_extract :
    (extract (times size [delimiter]) [delimiter] region).2.isSome ↔
      0 < (runs delimiter region).countP (size ≤ ·) := by
  have found : times size [delimiter] <:+: region ↔ ∃ run ∈ runs delimiter region, size ≤ run :=
    times_infix_iff positive region
  simp only [List.countP_pos_iff, decide_eq_true_eq, ← found, ← occursIn_iff, occursIn, extract]
  cases cut? (times size [delimiter]) region with
  | none => rfl
  | some sides => cases next : cut? [delimiter] sides.2 <;> simp [next]

/-- An extraction takes the delimiters of its marker off the first run that has as many. -/
theorem runs_extract (visible : isBlank delimiter = false) :
    runs delimiter (extract (times size [delimiter]) [delimiter] region).1 =
      cutRun size (runs delimiter region) := by
  rw [extract]
  cases cut : cut? (times size [delimiter]) region with
  | none =>
    exact (cutRun_of_forall (lt_of_mem_runs positive (cut?_eq_none_iff.1 cut))).symm
  | some sides =>
    obtain ⟨before, after⟩ := sides
    have left := runs_cut positive cut
    cases next : cut? [delimiter] after with
    | none =>
      have noMark : delimiter ∉ after := cut?_singleton_eq_none_iff.1 next
      rw [runs_of_not_mem noMark, List.append_nil] at left
      simpa [next, runs_strip visible] using left
    | some sides =>
      obtain ⟨value, rest⟩ := sides
      -- The value lies between two marks and the blank that replaces it belongs to no run.
      have noMark : delimiter ∉ value := (cut?_singleton_eq_some_iff.1 next).2
      have space := ne_space_of_visible visible
      rw [eq_of_cut? next, List.append_assoc, runs_append_of_not_mem noMark] at left
      simpa [next, runs_append_cons space.symm, runs_strip visible] using left

end Extractions

/-! ## The runs that the extractions meet -/

section Sizes

variable {sizes : List Nat} (short : ∀ run ∈ sizes, run < recurrenceMark + 1)

include short

theorem countP_recurrenceMark :
    sizes.countP (recurrenceMark ≤ ·) = sizes.count recurrenceMark := by
  have longer : sizes.countP (recurrenceMark + 1 ≤ ·) = 0 :=
    List.countP_eq_zero.2 fun run member => by simpa using short run member
  rw [countP_le_eq_count_add, longer, Nat.add_zero]

theorem countP_startMark :
    sizes.countP (startMark ≤ ·) = sizes.count startMark + sizes.count recurrenceMark := by
  rw [countP_le_eq_count_add, ← countP_recurrenceMark short]
  rfl

theorem countP_dueMark :
    sizes.countP (dueMark ≤ ·) =
      sizes.count dueMark + (sizes.count startMark + sizes.count recurrenceMark) := by
  rw [countP_le_eq_count_add, ← countP_startMark short]
  rfl

/-- A start marker is found where one is written, or in the second recurrence marker. -/
theorem countP_startMark_cutRun_pos_iff :
    0 < (cutRun recurrenceMark sizes).countP (startMark ≤ ·) ↔
      0 < sizes.count startMark ∨ 1 < sizes.count recurrenceMark := by
  have taken := countP_cutRun (show startMark ≤ recurrenceMark by decide)
    fun run member => Nat.lt_of_lt_of_le (short run member) (by decide)
  rw [countP_recurrenceMark short, countP_startMark short] at taken
  omega

/-- A due marker is found where one is written, or in the second of the longer markers that the
    extraction of the recurrence leaves. -/
theorem countP_dueMark_cutRun_pos_iff :
    0 < (cutRun startMark (cutRun recurrenceMark sizes)).countP (dueMark ≤ ·) ↔
      0 < sizes.count dueMark ∨
        1 < sizes.count startMark + (sizes.count recurrenceMark - 1) := by
  have startTaken := countP_cutRun (show startMark ≤ recurrenceMark by decide)
    fun run member => Nat.lt_of_lt_of_le (short run member) (by decide)
  have dueTaken := countP_cutRun (show dueMark ≤ recurrenceMark by decide)
    fun run member => Nat.lt_of_lt_of_le (short run member) (by decide)
  have dueTakenAgain := countP_cutRun (show dueMark ≤ startMark by decide)
    (forall_cutRun recurrenceMark short)
  rw [countP_recurrenceMark short] at startTaken dueTaken
  rw [countP_startMark short] at startTaken
  rw [countP_dueMark short] at dueTaken
  omega

end Sizes

/-! ## The values that are read -/

/-- In a title without five delimiters in a row, the recurrence is read where its marker is written.
    The start date is read where its marker is written, or a second recurrence marker; the due date,
    where its marker is written, or where the other two leave a longer marker over. -/
theorem Tokens.isSome_ofTitle {delimiter : Char} (visible : isBlank delimiter = false) (title : Text)
    (short : ¬ times (recurrenceMark + 1) [delimiter] <:+: regionOf delimiter title) :
    ((Tokens.ofTitle [delimiter] title).recurrence.isSome ↔
        0 < timesWritten delimiter recurrenceMark title) ∧
      ((Tokens.ofTitle [delimiter] title).startDate.isSome ↔
        0 < timesWritten delimiter startMark title ∨
          1 < timesWritten delimiter recurrenceMark title) ∧
      ((Tokens.ofTitle [delimiter] title).dueDate.isSome ↔
        0 < timesWritten delimiter dueMark title ∨
          1 < timesWritten delimiter startMark title +
            (timesWritten delimiter recurrenceMark title - 1)) := by
  have below := lt_of_mem_runs (Nat.succ_pos recurrenceMark) short
  rw [Tokens.ofTitle]
  cases cut : cut? (" " ++ [delimiter]) title with
  | none =>
    have region : regionOf delimiter title = [] := by rw [regionOf, cut]
    simp [timesWritten, region]
  | some sides =>
    obtain ⟨before, after⟩ := sides
    have region : runs delimiter (strip ([delimiter] ++ after)) =
        runs delimiter (regionOf delimiter title) := by
      simp only [runs_strip visible, regionOf, cut, List.singleton_append]
    -- Each extraction meets the runs that the one before it leaves.
    simp only [Tokens.ofRegion, timesWritten]
    rw [isSome_extract (by decide), isSome_extract (by decide), isSome_extract (by decide),
      runs_extract (by decide) _ visible, runs_extract (by decide) _ visible,
      runs_extract (by decide) _ visible, region, countP_recurrenceMark below]
    exact ⟨Iff.rfl, countP_startMark_cutRun_pos_iff below, countP_dueMark_cutRun_pos_iff below⟩

/-- Longer markers that are written once leave no due date behind, and a due marker gives one. -/
theorem Tokens.isSome_ofTitle_call :
    (Tokens.ofTitle ['/'] "Call ////weekly ///monday").dueDate.isSome = false ∧
      (Tokens.ofTitle ['/'] "Call ////weekly ///monday //").dueDate.isSome = true := by
  have absent := @Tokens.isSome_ofTitle '/' (by decide) "Call ////weekly ///monday" (by decide)
  have present := @Tokens.isSome_ofTitle '/' (by decide) "Call ////weekly ///monday //" (by decide)
  exact ⟨Bool.eq_false_iff.2 fun due => absurd (absent.2.2.1 due) (by decide),
    present.2.2.2 (.inl (by decide))⟩

/-- No marker of two delimiters is written, and yet an empty due date is read: it is what is left of
    the second start marker. -/
theorem Tokens.ofTitle_repeated_start :
    ¬ times (recurrenceMark + 1) ['/'] <:+: regionOf '/' "x ///a ///b" ∧
      timesWritten '/' dueMark "x ///a ///b" = 0 ∧
      (Tokens.ofTitle ['/'] "x ///a ///b").dueDate = some [] := by
  decide

end TaskTitles.Title
