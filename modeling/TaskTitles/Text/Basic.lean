/-!
# Texts

A text is the list of its code points, because every length, slice and limit of this library
counts code points.  The module holds the operations on texts that know nothing about character
classes: searching (`cut?`, `occursIn`), splitting at a separator (`splitOn`), joining
(`joinWith`) and slicing with an end that may be negative (`takeUpTo`).  The main statements are
that `cut?` returns the two sides of an occurrence (`eq_of_cut?`) and that joining the pieces of a
split gives the text back (`joinWith_splitOn`).
-/

namespace TaskTitles

/-- A text, as the list of its code points. -/
abbrev Text := List Char

namespace Text

instance : Coe String Text := ⟨String.toList⟩

abbrev toString (t : Text) : String := String.ofList t

instance : LawfulBEq Text := inferInstance

/-- A text is looked up in an index like the string of its characters. -/
instance : Hashable Text := ⟨fun t => hash (String.ofList t)⟩

/-! ## Searching -/

/-- What follows `lead` in a text that starts with it. -/
def dropLead? : (lead : Text) → Text → Option Text
  | [], t => some t
  | _ :: _, [] => none
  | p :: ps, c :: cs => if p = c then dropLead? ps cs else none

def startsWith (lead t : Text) : Bool := (dropLead? lead t).isSome

/-- The two sides of the first occurrence of `needle`. -/
def cut? (needle : Text) : Text → Option (Text × Text)
  | [] => if needle = [] then some ([], []) else none
  | c :: cs =>
    match dropLead? needle (c :: cs) with
    | some rest => some ([], rest)
    | none => (cut? needle cs).map fun sides => (c :: sides.1, sides.2)

def occursIn (needle t : Text) : Bool := (cut? needle t).isSome

theorem eq_of_dropLead? {lead t rest : Text} (h : dropLead? lead t = some rest) :
    t = lead ++ rest := by
  induction lead generalizing t with
  | nil => simpa [dropLead?] using h
  | cons p ps ih =>
    cases t with
    | nil => simp [dropLead?] at h
    | cons c cs =>
      by_cases hpc : p = c
      · simp only [dropLead?, hpc, if_true] at h
        simp [hpc, ih h]
      · simp [dropLead?, hpc] at h

@[simp] theorem dropLead?_append (lead rest : Text) :
    dropLead? lead (lead ++ rest) = some rest := by
  induction lead with
  | nil => rfl
  | cons p ps ih => simp [dropLead?, ih]

theorem eq_of_cut? {needle t before after : Text} (h : cut? needle t = some (before, after)) :
    t = before ++ needle ++ after := by
  induction t generalizing before with
  | nil =>
    by_cases hn : needle = []
    · simp [cut?, hn] at h
      simp [h, hn]
    · simp [cut?, hn] at h
  | cons c cs ih =>
    unfold cut? at h
    split at h
    · rename_i rest hr
      simp only [Option.some.injEq, Prod.mk.injEq] at h
      obtain ⟨rfl, rfl⟩ := h
      simpa using eq_of_dropLead? hr
    · obtain ⟨⟨b, a⟩, hcut, heq⟩ := Option.map_eq_some_iff.1 h
      simp only [Prod.mk.injEq] at heq
      obtain ⟨rfl, rfl⟩ := heq
      simp [ih hcut]

/-! ## Splitting and joining -/

def consFirst (c : Char) : List Text → List Text
  | [] => [[c]]
  | piece :: pieces => (c :: piece) :: pieces

/-- The pieces between the separators, where the first `skip` characters still belong to one. -/
def splitFrom (sep : Text) : (skip : Nat) → Text → List Text
  | _, [] => [[]]
  | skip + 1, _ :: cs => splitFrom sep skip cs
  | 0, c :: cs =>
    if startsWith sep (c :: cs) then [] :: splitFrom sep (sep.length - 1) cs
    else consFirst c (splitFrom sep 0 cs)

/-- The pieces of a text between the occurrences of `sep`, from left to right without overlap;
    one more piece than there are separators.  The separator must not be empty. -/
def splitOn (sep t : Text) : List Text := splitFrom sep 0 t

def joinWith (sep : Text) : List Text → Text
  | [] => []
  | [piece] => piece
  | piece :: pieces => piece ++ sep ++ joinWith sep pieces

@[simp] theorem consFirst_ne_nil (c : Char) (pieces : List Text) : consFirst c pieces ≠ [] := by
  cases pieces <;> simp [consFirst]

theorem splitFrom_ne_nil (sep : Text) (skip : Nat) (t : Text) : splitFrom sep skip t ≠ [] := by
  fun_induction splitFrom sep skip t <;> simp_all

theorem joinWith_consFirst (sep : Text) (c : Char) {pieces : List Text} (h : pieces ≠ []) :
    joinWith sep (consFirst c pieces) = c :: joinWith sep pieces := by
  match pieces, h with
  | [piece], _ => rfl
  | piece :: next :: rest, _ => simp [consFirst, joinWith]

theorem joinWith_cons (sep piece : Text) {pieces : List Text} (h : pieces ≠ []) :
    joinWith sep (piece :: pieces) = piece ++ sep ++ joinWith sep pieces := by
  match pieces, h with
  | _ :: _, _ => rfl

theorem joinWith_splitFrom (sep : Text) (hsep : sep ≠ []) (skip : Nat) (t : Text) :
    joinWith sep (splitFrom sep skip t) = t.drop skip := by
  fun_induction splitFrom sep skip t with
  | case1 => simp [joinWith]
  | case2 skip c cs ih => simpa using ih
  | case3 c cs hlead ih =>
    obtain ⟨rest, hrest⟩ := Option.isSome_iff_exists.1 hlead
    have heq := eq_of_dropLead? hrest
    rw [joinWith_cons _ _ (splitFrom_ne_nil _ _ _), ih]
    obtain ⟨p, ps, rfl⟩ := List.exists_cons_of_ne_nil hsep
    simp only [List.cons_append, List.cons.injEq] at heq
    simp [heq.1, heq.2]
  | case4 c cs hlead ih =>
    rw [joinWith_consFirst _ _ (splitFrom_ne_nil _ _ _), ih]
    simp

/-- Joining the pieces of a split gives the text back. -/
theorem joinWith_splitOn (sep : Text) (hsep : sep ≠ []) (t : Text) :
    joinWith sep (splitOn sep t) = t :=
  joinWith_splitFrom sep hsep 0 t

/-! ## Slices and repetition -/

/-- The first `stop` characters; a negative `stop` counts from the end. -/
def takeUpTo (stop : Int) (t : Text) : Text :=
  if 0 ≤ stop then t.take stop.toNat else t.take (t.length - (-stop).toNat)

def times : Nat → Text → Text
  | 0, _ => []
  | n + 1, t => t ++ times n t

def padRight (width : Nat) (t : Text) : Text := t ++ List.replicate (width - t.length) ' '

end Text

end TaskTitles
