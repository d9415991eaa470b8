import TaskTitles.Proofs.Text.Pieces

/-!
# Runs of a character

The runs of a character are the pieces of a text that consist of nothing else and cannot be made
longer; `runs` lists their lengths.  A text has a character so many times in a row exactly when one
of the runs is that long (`times_infix_iff`), and cutting these characters out where they first
occur takes them off the first run that has as many (`runs_cut`).
-/

namespace TaskTitles.Text

def runOf (size : Nat) : List Nat := if size = 0 then [] else [size]

/-- The runs of a text that comes after `met` marks in a row. -/
def runsFrom (mark : Char) : (met : Nat) → Text → List Nat
  | met, [] => runOf met
  | met, c :: cs =>
    if c = mark then runsFrom mark (met + 1) cs else runOf met ++ runsFrom mark 0 cs

/-- How often the mark stands in a row, run by run from left to right. -/
def runs (mark : Char) (t : Text) : List Nat := runsFrom mark 0 t

/-- The runs that are left when so many marks are taken off the first run that has as many. -/
def cutRun (size : Nat) : List Nat → List Nat
  | [] => []
  | run :: rest => if run < size then run :: cutRun size rest else runOf (run - size) ++ rest

@[simp] theorem runOf_zero : runOf 0 = [] := rfl

theorem runOf_of_pos {size : Nat} (positive : 0 < size) : runOf size = [size] :=
  if_neg (Nat.ne_of_gt positive)

theorem eq_of_mem_runOf {run size : Nat} (member : run ∈ runOf size) : run = size := by
  rw [runOf] at member
  split at member
  · cases member
  · exact List.mem_singleton.1 member

theorem exists_mem_runOf_iff {size least : Nat} (positive : 0 < least) :
    (∃ run ∈ runOf size, least ≤ run) ↔ least ≤ size := by
  by_cases none : size = 0
  · simp [runOf, none, Nat.ne_of_gt positive]
  · simp [runOf, none]

section Marks

variable {mark : Char}

/-! ## Putting runs together -/

@[simp] theorem runs_nil : runs mark [] = [] := rfl

theorem runsFrom_replicate_append (met size : Nat) (t : Text) :
    runsFrom mark met (List.replicate size mark ++ t) = runsFrom mark (met + size) t := by
  induction size generalizing met with
  | zero => rfl
  | succ size ih =>
    rw [List.replicate_succ, List.cons_append, runsFrom, if_pos rfl, ih]
    congr 1
    omega

/-- A run ends where another character comes. -/
theorem runsFrom_of_head? {t : Text} (other : t.head? ≠ some mark) (met : Nat) :
    runsFrom mark met t = runOf met ++ runs mark t := by
  cases t with
  | nil => rw [runs_nil, List.append_nil, runsFrom]
  | cons c cs =>
    have differ : c ≠ mark := fun same => other (by rw [same, List.head?_cons])
    rw [runs, runsFrom, if_neg differ, runsFrom, if_neg differ, runOf_zero, List.nil_append]

theorem runsFrom_append_cons {c : Char} (other : c ≠ mark) (met : Nat) (front back : Text) :
    runsFrom mark met (front ++ c :: back) = runsFrom mark met front ++ runs mark back := by
  induction front generalizing met with
  | nil => simp [runs, runsFrom, other]
  | cons d front ih =>
    rw [List.cons_append, runsFrom, runsFrom]
    split
    · exact ih (met + 1)
    · rw [ih 0, List.append_assoc]

theorem runs_append_cons {c : Char} (other : c ≠ mark) (front back : Text) :
    runs mark (front ++ c :: back) = runs mark front ++ runs mark back :=
  runsFrom_append_cons other 0 front back

theorem runs_append_of_not_mem {front : Text} (absent : mark ∉ front) (back : Text) :
    runs mark (front ++ back) = runs mark back := by
  induction front with
  | nil => rfl
  | cons c front ih =>
    obtain ⟨other, later⟩ := not_or.1 (mt List.mem_cons.2 absent)
    rw [List.cons_append, runs, runsFrom, if_neg (Ne.symm other), runOf_zero, List.nil_append]
    exact ih later

theorem runs_of_not_mem {t : Text} (absent : mark ∉ t) : runs mark t = [] := by
  rw [← List.append_nil t, runs_append_of_not_mem absent, runs_nil]

theorem runs_replicate_append {t : Text} (starts : t.head? ≠ some mark) (size : Nat) :
    runs mark (List.replicate size mark ++ t) = runOf size ++ runs mark t := by
  rw [runs, runsFrom_replicate_append, Nat.zero_add, runsFrom_of_head? starts]

/-- A run with other characters on both of its sides is a run of the whole text. -/
theorem runs_append_run {front back : Text} (ends : front.getLast? ≠ some mark)
    (starts : back.head? ≠ some mark) (size : Nat) :
    runs mark (front ++ (List.replicate size mark ++ back)) =
      runs mark front ++ (runOf size ++ runs mark back) := by
  rcases List.eq_nil_or_concat front with rfl | ⟨start, c, rfl⟩
  · exact runs_replicate_append starts size
  · have other : c ≠ mark := fun same => ends (by simp [same])
    rw [List.concat_eq_append, List.append_assoc, List.singleton_append, runs_append_cons other,
      runs_replicate_append starts, runs_append_cons other, runs_nil, List.append_nil]

theorem runs_append_of_not_mem_right {back : Text} (absent : mark ∉ back) (front : Text) :
    runs mark (front ++ back) = runs mark front := by
  cases back with
  | nil => rw [List.append_nil]
  | cons c back =>
    obtain ⟨other, later⟩ := not_or.1 (mt List.mem_cons.2 absent)
    rw [runs_append_cons (Ne.symm other), runs_of_not_mem later, List.append_nil]

theorem runs_strip (visible : isBlank mark = false) (t : Text) :
    runs mark (strip t) = runs mark t := by
  have notMember {blanks : Text} (blank : ∀ c ∈ blanks, isBlank c = true) : mark ∉ blanks :=
    fun member => by simp [blank mark member] at visible
  obtain ⟨front, whole, frontBlank⟩ := exists_blanks_stripStart t
  obtain ⟨back, rest, backBlank⟩ := exists_blanks_stripEnd (stripStart t)
  calc runs mark (strip t)
    _ = runs mark (stripEnd (stripStart t) ++ back) :=
      (runs_append_of_not_mem_right (notMember backBlank) _).symm
    _ = runs mark (front ++ stripStart t) := by
      rw [← rest, runs_append_of_not_mem (notMember frontBlank)]
    _ = runs mark t := by rw [← whole]

theorem exists_replicate_append (mark : Char) (t : Text) :
    ∃ size rest, t = List.replicate size mark ++ rest ∧ rest.head? ≠ some mark := by
  induction t with
  | nil => exact ⟨0, [], rfl, by simp⟩
  | cons c cs ih =>
    by_cases same : c = mark
    · obtain ⟨size, rest, rfl, starts⟩ := ih
      exact ⟨size + 1, rest, by rw [same, List.replicate_succ, List.cons_append], starts⟩
    · exact ⟨0, c :: cs, rfl, by simpa using same⟩

/-! ## The longest run -/

theorem times_infix_replicate_append_iff {n : Nat} (positive : 0 < n) (met : Nat) (t : Text) :
    times n [mark] <:+: List.replicate met mark ++ t ↔ ∃ run ∈ runsFrom mark met t, n ≤ run := by
  have here (met : Nat) : times n [mark] <:+: List.replicate met mark ↔ n ≤ met := by
    rw [times_singleton]
    constructor
    · intro occurs
      simpa using occurs.length_le
    · intro enough
      rw [← Nat.add_sub_of_le enough, ← List.replicate_append_replicate]
      exact (List.prefix_append _ _).isInfix
  induction t generalizing met with
  | nil => rw [List.append_nil, runsFrom, exists_mem_runOf_iff positive, here]
  | cons c cs ih =>
    by_cases same : c = mark
    · have longer := ih (met + 1)
      rw [List.replicate_succ', List.append_assoc, List.singleton_append] at longer
      rwa [runsFrom, if_pos same, same]
    · -- Another character keeps the run before it apart from those behind it.
      have later := ih 0
      rw [List.replicate_zero, List.nil_append] at later
      rw [runsFrom, if_neg same]
      simp only [List.mem_append, or_and_right, exists_or, exists_mem_runOf_iff positive, ← later,
        ← here met]
      constructor
      · exact infix_append_cons (not_mem_times same n)
      · rintro (before | behind)
        · exact List.infix_append_of_infix_left before
        · exact List.infix_append_of_infix_right (List.infix_cons behind)

/-- A text has so many marks in a row exactly when one of its runs is that long. -/
theorem times_infix_iff {n : Nat} (positive : 0 < n) (t : Text) :
    times n [mark] <:+: t ↔ ∃ run ∈ runs mark t, n ≤ run :=
  times_infix_replicate_append_iff positive 0 t

theorem lt_of_mem_runs {n : Nat} (positive : 0 < n) {t : Text} (absent : ¬ times n [mark] <:+: t) :
    ∀ run ∈ runs mark t, run < n := fun run member =>
  Nat.lt_of_not_le fun long => absent ((times_infix_iff positive t).2 ⟨run, member, long⟩)

/-! ## Cutting marks out -/

theorem cutRun_append {size : Nat} {front : List Nat} (short : ∀ run ∈ front, run < size)
    (back : List Nat) : cutRun size (front ++ back) = front ++ cutRun size back := by
  induction front with
  | nil => rfl
  | cons run front ih =>
    rw [List.cons_append, cutRun, if_pos (short run List.mem_cons_self),
      ih fun later member => short later (List.mem_cons_of_mem run member), List.cons_append]

theorem cutRun_of_forall {size : Nat} {sizes : List Nat} (short : ∀ run ∈ sizes, run < size) :
    cutRun size sizes = sizes := by
  have whole := cutRun_append short []
  rwa [List.append_nil, cutRun, List.append_nil] at whole

/-- What is cut out of a text comes off its first run that is long enough. -/
theorem runs_cut {n : Nat} (positive : 0 < n) {t before after : Text}
    (cut : cut? (times n [mark]) t = some (before, after)) :
    runs mark before ++ runs mark after = cutRun n (runs mark t) := by
  have nonempty : times n [mark] ≠ [] := by
    rw [times_singleton]
    exact List.ne_nil_of_length_pos (by simpa using positive)
  have short := lt_of_mem_runs positive (not_infix_of_cut? nonempty cut)
  -- With one more mark before it, the occurrence would not be the first.
  have ends : before.getLast? ≠ some mark := fun last => by
    obtain ⟨start, rfl⟩ := List.getLast?_eq_some_iff.1 last
    have earlier : t = start ++ times n [mark] ++ (mark :: after) := by
      rw [eq_of_cut? cut, times_singleton]
      simp [← List.replicate_succ, List.replicate_succ']
    have shorter := length_le_of_cut? cut earlier
    simp only [List.length_append, List.length_singleton] at shorter
    omega
  obtain ⟨size, rest, rfl, starts⟩ := exists_replicate_append mark after
  have whole : runs mark t = runs mark before ++ (runOf (n + size) ++ runs mark rest) := by
    rw [eq_of_cut? cut, times_singleton, List.append_assoc,
      ← List.append_assoc (List.replicate n mark), List.replicate_append_replicate,
      runs_append_run ends starts]
  rw [whole, runs_replicate_append starts, cutRun_append short,
    runOf_of_pos (Nat.add_pos_left positive size), List.singleton_append, cutRun,
    if_neg (by omega), Nat.add_sub_cancel_left]

end Marks

end TaskTitles.Text
