import TaskTitles.Text.Case

/-!
# Parts of texts in lower case

Besides themselves, the letters of ASCII are the lower-case forms of its capitals and of the Kelvin
sign only, and a text in lower case holds none of these.  So a part of such a text that has an ASCII
word as its lower-case form is that word (`eq_of_lower_eq`).  A word of ASCII without capitals is its
own lower-case form (`IsPlain.lower_eq`).
-/

namespace TaskTitles.Text

/-- The letters that have another letter, of ASCII, as their lower-case form. -/
def IsCapital (c : Char) : Prop := 0x41 ≤ c.toNat ∧ c.toNat ≤ 0x5A ∨ c.toNat = 0x212A

instance (c : Char) : Decidable (IsCapital c) := by unfold IsCapital; infer_instance

/-- The text is one of ASCII without capitals. -/
def IsPlain (t : Text) : Prop := ∀ c ∈ t, c.toNat < 128 ∧ ¬ IsCapital c

instance (t : Text) : Decidable (IsPlain t) := List.decidableBAll _ t

/-! ## The table -/

/-- A run of the table starts at the capitals of ASCII or beyond ASCII.  Its images are characters
    beyond ASCII, or it is one of capitals, and no image is a capital. -/
theorem runs_lowerRuns :
    ∀ run ∈ lowerRuns, (0x41 ≤ run.1 ∧ run.2.1 ≤ 0x5A ∨ 128 ≤ run.1) ∧
      ((0x41 ≤ run.1 ∧ run.2.1 ≤ 0x5A ∨ run.1 = 0x212A ∧ run.2.1 = 0x212A) ∨
        128 ≤ run.1 + run.2.2.2 ∧ (run.2.1 + run.2.2.2 < 0xD800 ∨
          0xDFFF < run.1 + run.2.2.2 ∧ run.2.1 + run.2.2.2 < 0x110000)) ∧
      (run.2.1 + run.2.2.2 < 0x41 ∨ 0x5A < run.1 + run.2.2.2) ∧
      (run.2.1 + run.2.2.2 < 0x212A ∨ 0x212A < run.1 + run.2.2.2) := by
  decide +kernel

theorem exists_of_image?_eq_some {n image : Nat} (found : lowerRuns.image? n = some image) :
    ∃ run ∈ lowerRuns, run.1 ≤ n ∧ n ≤ run.2.1 ∧ image = ((n : Int) + run.2.2.2).toNat := by
  obtain ⟨⟨first, last, step, delta⟩, first_eq, rfl⟩ := Option.map_eq_some_iff.1 found
  have inRun := List.find?_some first_eq
  simp only [Bool.and_eq_true, decide_eq_true_eq] at inRun
  exact ⟨_, List.mem_of_find?_eq_some first_eq, inRun.1.1, inRun.1.2, rfl⟩

theorem image?_ne_none {c : Char} (capital : IsCapital c) : lowerRuns.image? c.toNat ≠ none := by
  intro absent
  have none := List.find?_eq_none.1 (Option.map_eq_none_iff.1 absent)
  rcases capital with ⟨first, last⟩ | kelvin
  · exact none (0x41, 0x5A, 1, 32) (by decide) (by simp [first, last, Nat.mod_one])
  · exact none (0x212A, 0x212A, 1, -8383) (by decide) (by simp [kelvin])

theorem toNat_ofNat {n : Nat} (valid : n.isValidChar) : (Char.ofNat n).toNat = n := by
  rw [Char.ofNat, dif_pos valid]
  rfl

theorem ofNat_of_not_isValidChar {n : Nat} (invalid : ¬ n.isValidChar) : Char.ofNat n = '\x00' := by
  rw [Char.ofNat, dif_neg invalid]
  rfl

/-! ## Characters -/

theorem not_isCapital_of_mem_lowerChar {c d : Char} (member : d ∈ lowerChar c) :
    ¬ IsCapital d := by
  rw [lowerChar] at member
  split at member
  · -- The capital with a dot above becomes two characters.
    have both : ∀ d ∈ ['i', '\u0307'], ¬ IsCapital d :=
      List.forall_mem_cons.2 ⟨by decide, List.forall_mem_cons.2 ⟨by decide, nofun⟩⟩
    exact both d member
  · cases found : lowerRuns.image? c.toNat with
    | none =>
      rw [found] at member
      obtain rfl : d = c := List.mem_singleton.1 member
      exact fun capital => image?_ne_none capital found
    | some image =>
      rw [found] at member
      obtain rfl : d = Char.ofNat image := List.mem_singleton.1 member
      obtain ⟨run, inTable, first, last, rfl⟩ := exists_of_image?_eq_some found
      have apart := (runs_lowerRuns run inTable).2.2
      by_cases valid : ((c.toNat : Int) + run.2.2.2).toNat.isValidChar
      · rw [IsCapital, toNat_ofNat valid]
        omega
      · rw [ofNat_of_not_isValidChar valid]
        decide

theorem eq_of_lowerChar_eq {c d : Char} (small : ¬ IsCapital c) (isAscii : d.toNat < 128)
    (lowered : lowerChar c = [d]) : c = d := by
  rw [lowerChar] at lowered
  split at lowered
  · cases lowered
  · cases found : lowerRuns.image? c.toNat with
    | none =>
      rw [found] at lowered
      exact List.head_eq_of_cons_eq lowered
    | some image =>
      rw [found] at lowered
      obtain rfl : Char.ofNat image = d := List.head_eq_of_cons_eq lowered
      obtain ⟨run, inTable, first, last, rfl⟩ := exists_of_image?_eq_some found
      -- The character is no capital, so its image is one beyond ASCII.
      rcases (runs_lowerRuns run inTable).2.1 with capitals | ⟨beyond, isChar⟩
      · exact absurd (by rw [IsCapital]; omega) small
      · have valid : ((c.toNat : Int) + run.2.2.2).toNat.isValidChar := by
          simp only [Nat.isValidChar]
          omega
        rw [toNat_ofNat valid] at isAscii
        omega

theorem lowerChar_eq_self {c : Char} (isAscii : c.toNat < 128) (small : ¬ IsCapital c) :
    lowerChar c = [c] := by
  cases found : lowerRuns.image? c.toNat with
  | none =>
    have noDot : c ≠ 'İ' := fun same => absurd (same ▸ isAscii) (by decide)
    rw [lowerChar, if_neg noDot, found]
    rfl
  | some image =>
    obtain ⟨run, inTable, first, last, -⟩ := exists_of_image?_eq_some found
    rw [IsCapital] at small
    have within := (runs_lowerRuns run inTable).1
    omega

/-! ## Texts -/

theorem not_isCapital_of_mem_lowerAfter {before t : Text} {d : Char}
    (member : d ∈ lowerAfter before t) : ¬ IsCapital d := by
  induction t generalizing before with
  | nil => exact absurd member List.not_mem_nil
  | cons c cs ih =>
    rw [lowerAfter, List.mem_append] at member
    rcases member with here | later
    · split at here
      · -- A capital sigma becomes one of the two small ones.
        have both : ¬ IsCapital 'ς' ∧ ¬ IsCapital 'σ' := by decide
        rw [List.mem_singleton.1 here]
        split
        · exact both.1
        · exact both.2
      · exact not_isCapital_of_mem_lowerChar here
    · exact ih later

theorem not_isCapital_of_mem_lower {t : Text} : ∀ d ∈ lower t, ¬ IsCapital d :=
  fun _ member => not_isCapital_of_mem_lowerAfter member

/-- Where lowering a character gives ASCII, it gives one character. -/
theorem lowerChar_eq_of_isAscii {c : Char} (isAscii : ∀ d ∈ lowerChar c, d.toNat < 128) :
    ∃ d, lowerChar c = [d] := by
  rw [lowerChar] at isAscii ⊢
  split at isAscii
  · exact absurd (isAscii '\u0307' (by decide)) (by decide)
  · next other => exact ⟨_, if_neg other⟩

theorem eq_of_lowerAfter_eq {before t word : Text} (small : ∀ c ∈ t, ¬ IsCapital c)
    (isAscii : ∀ c ∈ word, c.toNat < 128) (lowered : lowerAfter before t = word) : t = word := by
  induction t generalizing before word with
  | nil => exact lowered
  | cons c cs ih =>
    obtain ⟨smallFirst, smallLater⟩ := List.forall_mem_cons.1 small
    rw [lowerAfter] at lowered
    subst lowered
    obtain ⟨asciiFirst, asciiLater⟩ := List.forall_mem_append.1 isAscii
    have later := ih smallLater asciiLater rfl
    by_cases sigma : c = 'Σ'
    · rw [if_pos sigma] at asciiFirst
      have final := asciiFirst _ (List.mem_singleton_self _)
      split at final <;> exact absurd final (by decide)
    · rw [if_neg sigma] at asciiFirst ⊢
      obtain ⟨d, single⟩ := lowerChar_eq_of_isAscii asciiFirst
      rw [single] at asciiFirst ⊢
      rw [← later, eq_of_lowerChar_eq smallFirst (asciiFirst d (List.mem_singleton_self d)) single]
      rfl

/-- A text without capitals that has an ASCII word as its lower-case form is that word. -/
theorem eq_of_lower_eq {t word : Text} (small : ∀ c ∈ t, ¬ IsCapital c)
    (isAscii : ∀ c ∈ word, c.toNat < 128) (lowered : lower t = word) : t = word :=
  eq_of_lowerAfter_eq small isAscii lowered

theorem IsPlain.lower_eq {t : Text} (plain : IsPlain t) : lower t = t := by
  have after (before : Text) : lowerAfter before t = t := by
    induction t generalizing before with
    | nil => rfl
    | cons c cs ih =>
      obtain ⟨⟨isAscii, small⟩, later⟩ := List.forall_mem_cons.1 plain
      have noSigma : c ≠ 'Σ' := fun same => absurd (same ▸ isAscii) (by decide)
      rw [lowerAfter, if_neg noSigma, lowerChar_eq_self isAscii small, ih later]
      rfl
  exact after []

end TaskTitles.Text
