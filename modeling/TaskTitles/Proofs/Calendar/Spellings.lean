import TaskTitles.Proofs.Calendar.Formats
import TaskTitles.Proofs.Text.Digits
import TaskTitles.Proofs.Text.Pieces

/-!
# Ways of writing a date

Days and months are written with a leading zero or without (`spellings`), years in two digits or in
four.  A format with slashes reads the year in as many digits as it has itself, and nothing else
(`readDate?_slashed`, `readDate?_slashed_of_length_ne`), and a format with hyphens reads no slashes.
-/

namespace TaskTitles.Calendar

open Text

/-! ## Written dates -/

/-- The numerals of a day or a month, without and with a leading zero. -/
def spellings (n : Nat) : List Text := [ofNat n, ofNatPadded 2 n]

/-- The ways in which a day of a month of a year is written as a short date.  Two digits stand for the
    years from 1969 to 2068. -/
inductive IsWritten (year month day : Nat) : Text → Prop where
  | slashed {m d : Text} : m ∈ spellings month → d ∈ spellings day →
      IsWritten year month day (joinWith ['/'] [d, m, ofNatPadded 4 year])
  | slashedShort {m d : Text} : m ∈ spellings month → d ∈ spellings day →
      1969 ≤ year → year ≤ 2068 →
      IsWritten year month day (joinWith ['/'] [d, m, ofNatPadded 2 (year % 100)])
  | hyphened {m d : Text} : m ∈ spellings month → d ∈ spellings day →
      IsWritten year month day (joinWith ['-'] [ofNatPadded 4 year, m, d])

theorem joinWith_three (sep : Char) (first second third : Text) :
    joinWith [sep] [first, second, third] = first ++ sep :: (second ++ sep :: third) := by
  simp [joinWith]

theorem isWritten_isoText (d : Date) :
    IsWritten d.year.toNat d.month.toNat d.day.toNat d.isoText := by
  have padded (n : Nat) : ofNatPadded 2 n ∈ spellings n := List.mem_pair.2 (.inr rfl)
  have isoText : d.isoText = joinWith ['-']
      [ofNatPadded 4 d.year.toNat, ofNatPadded 2 d.month.toNat, ofNatPadded 2 d.day.toNat] := by
    rw [joinWith_three, Date.isoText]
    simp
  rw [isoText]
  exact .hyphened (padded d.month.toNat) (padded d.day.toNat)

/-! ## Numerals in fields -/

/-- The text writes the number in the digits of a field. -/
structure Writes (f : Field) (n : Nat) (t : Text) : Prop where
  takes : f.Takes t
  value : digitsValue t = n
  isDigit : ∀ c ∈ t, c.isDigit = true

theorem value_of_mem_spellings {n : Nat} {t : Text} (spelled : t ∈ spellings n) :
    digitsValue t = n := by
  rcases List.mem_pair.1 spelled with rfl | rfl
  · exact digitsValue_ofNat n
  · exact digitsValue_ofNatPadded 2 n

theorem isDigit_of_mem_spellings {n : Nat} {t : Text} (spelled : t ∈ spellings n) :
    ∀ c ∈ t, c.isDigit = true := by
  rcases List.mem_pair.1 spelled with rfl | rfl
  · exact fun c => isDigit_of_mem_ofNat
  · exact fun c => isDigit_of_mem_ofNatPadded

/-- A field takes the numerals of its range.  In a day one digit would do for the start of a numeral of
    two, but two are tried first. -/
theorem takes_spellings : ∀ n < 32, 1 ≤ n → ∀ t ∈ spellings n,
    Field.day.Takes t ∧ Field.day.TakesAll t ∧ (n ≤ 12 → Field.month.Takes t) := by
  decide +kernel

theorem writes_day {n : Nat} (first : 1 ≤ n) (last : n ≤ 31) {t : Text} (spelled : t ∈ spellings n) :
    Writes .day n t where
  takes := (takes_spellings n (by omega) first t spelled).1
  value := value_of_mem_spellings spelled
  isDigit := isDigit_of_mem_spellings spelled

theorem writes_month {n : Nat} (first : 1 ≤ n) (last : n ≤ 12) {t : Text}
    (spelled : t ∈ spellings n) : Writes .month n t where
  takes := (takes_spellings n (by omega) first t spelled).2.2 last
  value := value_of_mem_spellings spelled
  isDigit := isDigit_of_mem_spellings spelled

/-- The two characters that separate the numbers of a short date. -/
def IsSeparator (c : Char) : Prop := c = '/' ∨ c = '-'

/-- A separator is neither a digit nor the other separator. -/
theorem sameLetter_separators :
    (∀ d < 10, sameLetter '/' (Nat.digitChar d) = false ∧ sameLetter '-' (Nat.digitChar d) = false) ∧
      sameLetter '/' '-' = false ∧ sameLetter '-' '/' = false := by
  decide +kernel

theorem separators_excluded :
    Field.day.Excludes '/' ∧ Field.month.Excludes '/' ∧ Field.year.Excludes '-' ∧
      Field.month.Excludes '-' := by
  decide +kernel

theorem sameLetter_of_isDigit {sep c : Char} (separator : IsSeparator sep)
    (digit : c.isDigit = true) : sameLetter sep c = false := by
  obtain ⟨d, small, rfl⟩ := exists_digitChar digit
  rcases separator with rfl | rfl
  · exact (sameLetter_separators.1 d small).1
  · exact (sameLetter_separators.1 d small).2

/-- A numeral is taken whole in front of a separator. -/
theorem Writes.match?_literal {f : Field} {n : Nat} {t : Text} (writes : Writes f n t) {sep : Char}
    (separator : IsSeparator sep) (excluded : f.Excludes sep) (pieces : List Piece) (back : Text) :
    Piece.match? (.field f :: .literal sep :: pieces) (t ++ sep :: back) =
      (Piece.match? pieces back).map fun (reading, final) => ((f, t) :: reading, final) :=
  Piece.match?_field_literal excluded writes.takes
    (fun c member => sameLetter_of_isDigit separator (writes.isDigit c member)) pieces back

/-- A short date holds no other separator than its own. -/
theorem sameLetter_joinWith {sep other : Char} (separator : IsSeparator sep)
    (apart : sameLetter sep other = false) {numerals : List Text}
    (isDigit : ∀ t ∈ numerals, ∀ c ∈ t, c.isDigit = true) :
    ∀ c ∈ joinWith [other] numerals, sameLetter sep c = false := by
  intro c member
  rcases mem_joinWith member with inSep | ⟨t, inNumerals, inNumeral⟩
  · rw [List.mem_singleton.1 inSep, apart]
  · exact sameLetter_of_isDigit separator (isDigit t inNumerals c inNumeral)

/-! ## Numerals of years -/

section Numerals

variable {f : Field} {size n : Nat} (positive : 0 < size) (small : n < 10 ^ size)

include positive small

theorem fills_ofNatPadded : Slot.Fills (List.replicate size .digit) (ofNatPadded size n) :=
  Slot.fills_digits (length_ofNatPadded positive small) fun _ member =>
    isDecimalDigit_of_isDigit (isDigit_of_mem_ofNatPadded member)

theorem takesAll_ofNatPadded (shapes : f.shapes = [List.replicate size .digit]) :
    f.TakesAll (ofNatPadded size n) :=
  takesAll_of_fills shapes (fills_ofNatPadded positive small)

theorem writes_ofNatPadded (shapes : f.shapes = [List.replicate size .digit]) :
    Writes f n (ofNatPadded size n) where
  takes := ⟨_, shapes ▸ List.mem_singleton_self _, fills_ofNatPadded positive small⟩
  value := digitsValue_ofNatPadded size n
  isDigit _ := isDigit_of_mem_ofNatPadded

end Numerals

/-- Two digits stand for the year that ends in them, from 1969 to 2068. -/
theorem fullYear_mod {year : Nat} (first : 1969 ≤ year) (last : year ≤ 2068) :
    fullYear ((year % 100 : Nat) : Int) = year := by
  rw [fullYear]
  split <;> omega

/-! ## Characters of short dates -/

section IsWritten

variable {year month day : Nat} {t : Text}

theorem IsWritten.exists_numerals (written : IsWritten year month day t) :
    ∃ sep first second third, IsSeparator sep ∧ t = joinWith [sep] [first, second, third] ∧
      ∀ numeral ∈ [first, second, third], ∀ c ∈ numeral, c.isDigit = true := by
  have padded {width n : Nat} : ∀ c ∈ ofNatPadded width n, c.isDigit = true :=
    fun _ => isDigit_of_mem_ofNatPadded
  cases written with
  | slashed month day =>
    exact ⟨_, _, _, _, .inl rfl, rfl, by
      simpa using ⟨isDigit_of_mem_spellings day, isDigit_of_mem_spellings month, padded⟩⟩
  | slashedShort month day =>
    exact ⟨_, _, _, _, .inl rfl, rfl, by
      simpa using ⟨isDigit_of_mem_spellings day, isDigit_of_mem_spellings month, padded⟩⟩
  | hyphened month day =>
    exact ⟨_, _, _, _, .inr rfl, rfl, by
      simpa using ⟨padded, isDigit_of_mem_spellings month, isDigit_of_mem_spellings day⟩⟩

theorem IsWritten.ne_nil (written : IsWritten year month day t) : t ≠ [] := by
  obtain ⟨sep, first, second, third, -, rfl, -⟩ := written.exists_numerals
  rw [joinWith_three]
  exact List.append_ne_nil_of_right_ne_nil first (List.cons_ne_nil sep _)

/-- Digits and separators are neither white space nor letters. -/
theorem IsWritten.plain (written : IsWritten year month day t) {c : Char} (member : c ∈ t) :
    isBlank c = false ∧ c.isLower = false := by
  obtain ⟨sep, first, second, third, separator, rfl, isDigit⟩ := written.exists_numerals
  rcases mem_joinWith member with inSep | ⟨numeral, inNumerals, inNumeral⟩
  · rw [List.mem_singleton.1 inSep]
    rcases separator with rfl | rfl <;> decide
  · obtain ⟨d, small, rfl⟩ := exists_digitChar (isDigit numeral inNumerals c inNumeral)
    have digits : ∀ d < 10, isBlank (Nat.digitChar d) = false ∧
        (Nat.digitChar d).isLower = false := by decide
    exact digits d small

end IsWritten

/-! ## Reading by one format -/

theorem IsFormat.readDate?_hyphened_apart {format : Text} {f : Field}
    (isFormat : IsFormat format (slashedPieces f)) {numerals : List Text}
    (isDigit : ∀ t ∈ numerals, ∀ c ∈ t, c.isDigit = true) :
    readDate? format (joinWith ['-'] numerals) = .ok none :=
  isFormat.readDate?_apart (by simp [slashedPieces])
    (sameLetter_joinWith (.inl rfl) sameLetter_separators.2.1 isDigit)

theorem readDate?_slashed_apart {numerals : List Text}
    (isDigit : ∀ t ∈ numerals, ∀ c ∈ t, c.isDigit = true) :
    readDate? "%Y-%m-%d" (joinWith ['/'] numerals) = .ok none :=
  isFormat_hyphened.readDate?_apart (by simp [hyphenedPieces])
    (sameLetter_joinWith (.inr rfl) sameLetter_separators.2.2 isDigit)

theorem takesAll_day {n : Nat} (first : 1 ≤ n) (last : n ≤ 31) {t : Text}
    (spelled : t ∈ spellings n) : Field.day.TakesAll t :=
  (takes_spellings n (by omega) first t spelled).2.1

section Reading

variable {n m y : Nat} {day month year : Text} (writesDay : Writes .day n day)
  (writesMonth : Writes .month m month)

include writesDay writesMonth

theorem match?_slashed (f : Field) (year : Text) :
    Piece.match? (slashedPieces f) (joinWith ['/'] [day, month, year]) =
      (Piece.match? [.field f] year).map fun (reading, final) =>
        ((.day, day) :: (.month, month) :: reading, final) := by
  obtain ⟨day_excludes, month_excludes, -, -⟩ := separators_excluded
  rw [slashedPieces, joinWith_three, writesDay.match?_literal (.inl rfl) day_excludes,
    writesMonth.match?_literal (.inl rfl) month_excludes, Option.map_map]
  rfl

/-- Where the field of the year takes all that stands behind the slashes, a date is read. -/
theorem IsFormat.readDate?_slashed {format : Text} {f : Field}
    (isFormat : IsFormat format (slashedPieces f)) (takesAll : f.TakesAll year) {full : Int}
    (stands : ∀ parts : Parts, parts.add (f, year) = some { parts with year := some full }) :
    readDate? format (joinWith ['/'] [day, month, year]) = .ok (Date.make full m n).toOption := by
  have whole : Piece.match? (slashedPieces f) (joinWith ['/'] [day, month, year]) =
      some ([(.day, day), (.month, month), (f, year)], []) := by
    rw [match?_slashed writesDay writesMonth, takesAll]
    rfl
  have parts : List.foldlM Parts.add {} [(.day, day), (.month, month), (f, year)] =
      some { year := some full, month := m, day := n } := by
    rw [← writesDay.value, ← writesMonth.value]
    exact (bind_pure _).trans (stands _)
  rw [isFormat.readDate?_eq_ok whole, parts]
  rfl

theorem IsFormat.readDate?_slashed_of_length_ne {format : Text} {f : Field} {slots : List Slot}
    (isFormat : IsFormat format (slashedPieces f)) (shapes : f.shapes = [slots])
    (other : year.length ≠ slots.length) :
    readDate? format (joinWith ['/'] [day, month, year]) = .ok none := by
  refine isFormat.readDate?_eq_none fun reading whole => ?_
  rw [match?_slashed writesDay writesMonth, Option.map_eq_some_iff] at whole
  obtain ⟨⟨yearReading, rest⟩, found, same⟩ := whole
  cases same
  exact other (Piece.length_eq_of_match? shapes found)

theorem readDate?_hyphened (writesYear : Writes .year y year) (takesAll : Field.day.TakesAll day) :
    readDate? "%Y-%m-%d" (joinWith ['-'] [year, month, day]) = .ok (Date.make y m n).toOption := by
  obtain ⟨-, -, year_excludes, month_excludes⟩ := separators_excluded
  have whole : Piece.match? hyphenedPieces (joinWith ['-'] [year, month, day]) =
      some ([(.year, year), (.month, month), (.day, day)], []) := by
    rw [hyphenedPieces, joinWith_three, writesYear.match?_literal (.inr rfl) year_excludes,
      writesMonth.match?_literal (.inr rfl) month_excludes, takesAll]
    rfl
  rw [isFormat_hyphened.readDate?_eq_ok whole, ← writesDay.value, ← writesMonth.value,
    ← writesYear.value]
  rfl

end Reading

end TaskTitles.Calendar
