import TaskTitles.Json.Reader
import TaskTitles.Json.Writer
import TaskTitles.Proofs.Text.Digits

/-!
# Strings written and read back

A string that is written in ASCII is read back character by character: plain characters as they are,
escape letters, and the UTF-16 units of everything else (`readString?_flatMap`).
-/

namespace TaskTitles.Json

open Text

/-! ## Hexadecimal numbers -/

theorem hexValue?_digitChar {d : Nat} (small : d < 16) : hexValue? (Nat.digitChar d) = some d := by
  revert d
  decide

theorem hexNumber?_hexPadded {n : Nat} (small : n < 65536) :
    hexNumber? (hexPadded 4 n) = some n := by
  have first := hexValue?_digitChar (show n / 4096 < 16 by omega)
  have second := hexValue?_digitChar (show n / 256 % 16 < 16 by omega)
  have third := hexValue?_digitChar (show n / 16 % 16 < 16 by omega)
  have fourth := hexValue?_digitChar (show n % 16 < 16 by omega)
  -- The four digits add up to the number.
  have value :
      (((0 * 16 + n / 4096) * 16 + n / 256 % 16) * 16 + n / 16 % 16) * 16 + n % 16 = n := by
    omega
  rw [hexPadded_four small, hexNumber?]
  simp only [List.foldlM_cons, List.foldlM_nil, first, second, third, fourth, Option.map_some,
    Option.bind_eq_bind, Option.bind_some, value]
  rfl

/-! ## Units -/

/-- What reading a string gives when a character is read before the rest. -/
def prepend (c : Char) (read : Option (Text × Text)) : Option (Text × Text) :=
  read.map fun (t, rest) => (c :: t, rest)

theorem readString?_unit {limits : Limits} {a b c d char : Char} {unit : Nat}
    (number : hexNumber? [a, b, c, d] = some unit) (single : isHighUnit unit = false)
    (known : charOfUnit? limits unit = some char) (rest : Text) :
    readString? limits ('\\' :: 'u' :: a :: b :: c :: d :: rest) =
      prepend char (readString? limits rest) := by
  have noPairs (low : Option Nat) : low.bind (charOfPair? unit) = none := by
    cases low <;> simp [charOfPair?, single]
  -- Only before another unit does the reader look for a pair.
  by_cases paired : ∃ e f g h more, rest = '\\' :: 'u' :: e :: f :: g :: h :: more
  · obtain ⟨e, f, g, h, more, rfl⟩ := paired
    rw [readString?, number]
    simp only [Option.bind_eq_bind, Option.bind_some, noPairs, known]
    cases readString? limits ('\\' :: 'u' :: e :: f :: g :: h :: more) <;> rfl
  · rw [readString?, number]
    · simp only [Option.bind_eq_bind, Option.bind_some, known]
      cases readString? limits rest <;> rfl
    · intro e f g h more equal
      exact paired ⟨e, f, g, h, more, equal⟩

theorem readString?_pair {limits : Limits} {a b c d e f g h char : Char} {high low : Nat}
    (first : hexNumber? [a, b, c, d] = some high) (second : hexNumber? [e, f, g, h] = some low)
    (known : charOfPair? high low = some char) (rest : Text) :
    readString? limits
        ('\\' :: 'u' :: a :: b :: c :: d :: '\\' :: 'u' :: e :: f :: g :: h :: rest) =
      prepend char (readString? limits rest) := by
  rw [readString?, first, second]
  simp only [Option.bind_eq_bind, Option.bind_some, known]
  cases readString? limits rest <;> rfl

theorem readString?_letter {limits : Limits} {letter char : Char}
    (known : escapeOf? letter = some char) (rest : Text) :
    readString? limits ('\\' :: letter :: rest) = prepend char (readString? limits rest) := by
  have noUnit : letter ≠ 'u' := by
    rintro rfl
    simp [escapeOf?] at known
  rw [readString?, known]
  · simp only [Option.bind_eq_bind, Option.bind_some]
    cases readString? limits rest <;> rfl
  · exact fun _ _ _ _ _ _ _ _ _ isUnit _ => noUnit isUnit
  · exact fun _ _ _ _ _ isUnit _ => noUnit isUnit

theorem readString?_plain {limits : Limits} {c : Char} (noQuote : c ≠ '"') (noEscape : c ≠ '\\')
    (noControl : ¬ c.toNat < 0x20) (rest : Text) :
    readString? limits (c :: rest) = prepend c (readString? limits rest) := by
  rw [readString?, if_neg (not_or.2 ⟨noControl, noEscape⟩)]
  · rfl
  · exact noQuote
  · exact fun _ _ _ _ _ _ _ _ _ isEscape _ => noEscape isEscape
  · exact fun _ _ _ _ _ isEscape _ => noEscape isEscape
  · exact fun _ _ isEscape _ => noEscape isEscape

/-! ## Escapes -/

/-- What a character is escaped by is read as the character. -/
theorem readString?_escapeUnits (limits : Limits) (c : Char) (rest : Text) :
    readString? limits (escapeUnits c ++ rest) = prepend c (readString? limits rest) := by
  -- No character lies where the units of pairs do.
  have scalar : c.toNat < 0xD800 ∨ 0xDFFF < c.toNat ∧ c.toNat < 0x110000 := c.valid
  rw [escapeUnits]
  split
  · next small =>
    have number := hexNumber?_hexPadded small
    have noUnit : (isHighUnit c.toNat || isLowUnit c.toNat) = false := by
      simp [isHighUnit, isLowUnit]
      omega
    have known : charOfUnit? limits c.toNat = some c := by
      rw [charOfUnit?, noUnit, if_neg Bool.false_ne_true, Char.ofNat_toNat]
    rw [hexPadded_four small] at number
    rw [escapeUnit, hexPadded_four small]
    exact readString?_unit number (Bool.or_eq_false_iff.1 noUnit).1 known rest
  · next large =>
    have highSmall : 0xD800 + (c.toNat - 0x10000) / 0x400 < 65536 := by omega
    have lowSmall : 0xDC00 + (c.toNat - 0x10000) % 0x400 < 65536 := by omega
    have high := hexNumber?_hexPadded highSmall
    have low := hexNumber?_hexPadded lowSmall
    have known : charOfPair? (0xD800 + (c.toNat - 0x10000) / 0x400)
        (0xDC00 + (c.toNat - 0x10000) % 0x400) = some c := by
      have isPair : (isHighUnit (0xD800 + (c.toNat - 0x10000) / 0x400)
          && isLowUnit (0xDC00 + (c.toNat - 0x10000) % 0x400)) = true := by
        simp [isHighUnit, isLowUnit]
        omega
      have value : 0x10000 + (0xD800 + (c.toNat - 0x10000) / 0x400 - 0xD800) * 0x400
          + (0xDC00 + (c.toNat - 0x10000) % 0x400 - 0xDC00) = c.toNat := by omega
      rw [charOfPair?, isPair, if_pos rfl, value, Char.ofNat_toNat]
    rw [hexPadded_four highSmall] at high
    rw [hexPadded_four lowSmall] at low
    rw [escapeUnit, hexPadded_four highSmall, escapeUnit, hexPadded_four lowSmall]
    exact readString?_pair high low known rest

theorem readString?_escapeChar (limits : Limits) (c : Char) (rest : Text) :
    readString? limits (Json.escapeChar true c ++ rest) = prepend c (readString? limits rest) := by
  rw [Json.escapeChar]
  -- The escapes in the order in which the writer tries them.
  by_cases quote : c = '"'
  · subst quote
    exact readString?_letter rfl rest
  rw [if_neg quote]
  by_cases escape : c = '\\'
  · subst escape
    exact readString?_letter rfl rest
  rw [if_neg escape]
  by_cases feed : c = '\n'
  · subst feed
    exact readString?_letter rfl rest
  rw [if_neg feed]
  by_cases carriage : c = '\r'
  · subst carriage
    exact readString?_letter rfl rest
  rw [if_neg carriage]
  by_cases tab : c = '\t'
  · subst tab
    exact readString?_letter rfl rest
  rw [if_neg tab]
  by_cases backspace : c = '\x08'
  · subst backspace
    exact readString?_letter rfl rest
  rw [if_neg backspace]
  by_cases formFeed : c = '\x0c'
  · subst formFeed
    exact readString?_letter rfl rest
  rw [if_neg formFeed]
  split
  · exact readString?_escapeUnits limits c rest
  · next shown =>
    refine readString?_plain quote escape (fun control => ?_) rest
    exact shown (by simp [control])

/-- A string that has been written is read up to its closing quote. -/
theorem readString?_flatMap (limits : Limits) (t rest : Text) :
    readString? limits (t.flatMap (Json.escapeChar true) ++ '"' :: rest) = some (t, rest) := by
  induction t with
  | nil => rfl
  | cons c cs ih =>
    rw [List.flatMap_cons, List.append_assoc, readString?_escapeChar, ih]
    rfl

end TaskTitles.Json
