import TaskTitles.Proofs.Json.Numbers
import TaskTitles.Proofs.Json.Strings

/-!
# Documents written and read back

A value that keeps within the limits of a file (`IsWritable`) is read back from its indented text
(`read_write`).  Reading is followed value by value: each one is read from its own text up to what
comes after it (`ReadsBack`), which makes lists and tables read back once their members do.
-/

namespace TaskTitles.Json

open Text

/-! ## What is written -/

theorem writeItems_eq_map (style : Style) (level : Nat) (items : List Value) :
    writeItems style level items = items.map (writeAt style level) := by
  induction items with
  | nil => rfl
  | cons item rest ih => rw [writeItems, ih, List.map_cons]

def writeField (style : Style) (level : Nat) (field : Text × Value) : Text :=
  writeText style field.1 ++ style.keySeparator ++ writeAt style level field.2

theorem writeFields_eq_map (style : Style) (level : Nat) (fields : Value.Fields) :
    writeFields style level fields = fields.map (writeField style level) := by
  induction fields with
  | nil => rfl
  | cons field rest ih => rw [writeFields, ih, List.map_cons, writeField]

def newLine (level : Nat) : Text := breakLine .indentedAscii level

/-- The members of a list or table, each on its line, and what stands on the line after them. -/
def membersText (level : Nat) (members : List Text) (after : Text) : Text :=
  joinWith (',' :: newLine (level + 1)) members ++ (newLine level ++ after)

theorem membersText_singleton (level : Nat) (member after : Text) :
    membersText level [member] after = member ++ (newLine level ++ after) := rfl

theorem membersText_cons (level : Nat) (member : Text) {members : List Text} (more : members ≠ [])
    (after : Text) :
    membersText level (member :: members) after =
      member ++ (',' :: (newLine (level + 1) ++ membersText level members after)) := by
  rw [membersText, joinWith_cons _ _ more, membersText]
  simp only [List.append_assoc, List.cons_append]

theorem bracket_append {level : Nat} {opening closing : Char} {members : List Text}
    (nonempty : members ≠ []) (rest : Text) :
    bracket .indentedAscii level opening closing members ++ rest =
      opening :: (newLine (level + 1) ++ membersText level members (closing :: rest)) := by
  rw [bracket, if_neg nonempty, membersText]
  simp only [List.append_assoc]
  rfl

/-! ## White space -/

theorem skipSpace_of_spaces {space : Text} (spaces : ∀ c ∈ space, isSpace c = true) (t : Text) :
    skipSpace (space ++ t) = skipSpace t :=
  List.dropWhile_append_of_pos spaces

theorem skipSpace_cons {c : Char} (shown : isSpace c = false) (cs : Text) :
    skipSpace (c :: cs) = c :: cs := by
  simp [skipSpace, shown]

theorem isSpace_of_mem_newLine {level : Nat} : ∀ c ∈ newLine level, isSpace c = true := by
  intro c member
  rcases List.mem_cons.1 member with rfl | blank
  · rfl
  · rw [List.eq_of_mem_replicate blank]
    rfl

theorem length_newLine_pos (level : Nat) : 0 < (newLine level).length := Nat.succ_pos _

theorem stops_cons {c : Char} (other : c.isDigit = false ∧ c ≠ '.' ∧ c ≠ 'e' ∧ c ≠ 'E')
    (cs : Text) : Stops (c :: cs) := by
  rintro _ ⟨⟩
  exact other

theorem stops_newLine (level : Nat) (t : Text) : Stops (newLine level ++ t) :=
  stops_cons (by decide) _

/-! ## Values within the limits -/

/-- A value that a file can hold inside `depth` lists and tables. -/
inductive IsWritable : (depth : Nat) → Value → Prop
  | null {depth : Nat} : IsWritable depth .null
  | bool {depth : Nat} (b : Bool) : IsWritable depth (.bool b)
  | int {depth : Nat} {n : Int} (short : IsShort n) : IsWritable depth (.int n)
  | text {depth : Nat} (t : Text) : IsWritable depth (.text t)
  | list {depth : Nat} {items : List Value} (shallow : checkDepth .file depth = .ok ())
      (writable : ∀ item ∈ items, IsWritable (depth + 1) item) : IsWritable depth (.list items)
  | table {depth : Nat} {fields : Value.Fields} (shallow : checkDepth .file depth = .ok ())
      (distinct : (fields.map (·.1)).Nodup)
      (writable : ∀ field ∈ fields, IsWritable (depth + 1) field.2) :
      IsWritable depth (.table fields)

theorem write?_eq_some_iff {style : Style} {value : Value} {t : Text} :
    write? style value = some t ↔
      (∀ n ∈ value.integers, (Text.ofInt? n).isSome) ∧ write style value = t := by
  rw [write?, Option.ite_none_right_eq_some, List.all_eq_true, Option.some_inj]

theorem IsWritable.isShort_of_mem {depth : Nat} {value : Value} (writable : IsWritable depth value) :
    ∀ n ∈ value.integers, IsShort n := by
  induction writable with
  | int short => exact List.forall_mem_singleton.2 short
  | list _ _ ih =>
    intro n member
    obtain ⟨item, inItems, inItem⟩ := Value.mem_itemIntegers.1 member
    exact ih item inItems n inItem
  | table _ _ _ ih =>
    intro n member
    obtain ⟨field, inFields, inField⟩ := Value.mem_fieldIntegers.1 member
    exact ih field inFields n inField
  | _ => exact List.forall_mem_nil _

/-- What a file can hold can be written. -/
theorem IsWritable.write?_eq {depth : Nat} {value : Value} (writable : IsWritable depth value)
    (style : Style) : write? style value = some (write style value) :=
  write?_eq_some_iff.2 ⟨fun n member => (writable.isShort_of_mem n member).isSome_ofInt?, rfl⟩

/-- A value is read from its text, whatever follows it that does not go on with a number. -/
def ReadsBack (depth : Nat) (value : Value) : Prop :=
  ∀ (level fuel : Nat) (rest : Text), Stops rest →
    (writeAt .indentedAscii level value ++ rest).length ≤ fuel →
      readValue .file fuel depth (writeAt .indentedAscii level value ++ rest) = .ok (value, rest)

/-- What starts with something that is neither a space nor closes a list or a table. -/
def StartsValue (t : Text) : Prop :=
  ∃ c cs, t = c :: cs ∧ isSpace c = false ∧ c ≠ ']' ∧ c ≠ '}'

theorem StartsValue.append {t : Text} (starts : StartsValue t) (more : Text) :
    StartsValue (t ++ more) := by
  obtain ⟨c, cs, rfl, shown, noBrackets⟩ := starts
  exact ⟨c, cs ++ more, rfl, shown, noBrackets⟩

theorem StartsValue.skipSpace_eq {t : Text} (starts : StartsValue t) : skipSpace t = t := by
  obtain ⟨c, cs, rfl, shown, -⟩ := starts
  exact skipSpace_cons shown cs

theorem StartsValue.membersText {level : Nat} {members : List Text} (nonempty : members ≠ [])
    (starts : ∀ member ∈ members, StartsValue member) (after : Text) :
    StartsValue (membersText level members after) := by
  obtain ⟨member, others, rfl⟩ := List.exists_cons_of_ne_nil nonempty
  have first := starts member List.mem_cons_self
  by_cases last : others = []
  · rw [last, membersText_singleton]
    exact first.append _
  · rw [membersText_cons _ _ last]
    exact first.append _

/-! ## Single values -/

theorem ne_of_isDigit {c d : Char} (isDigit : c.isDigit = true) (other : d.isDigit = false) :
    d ≠ c := by
  rintro rfl
  exact Bool.false_ne_true (other.symm.trans isDigit)

theorem readWord?_digit {c : Char} (isDigit : c.isDigit = true) (cs : Text) :
    readWord? (c :: cs) = none := by
  -- Each of the words starts with one of these.
  have n : 'n' ≠ c := ne_of_isDigit isDigit rfl
  have t : 't' ≠ c := ne_of_isDigit isDigit rfl
  have f : 'f' ≠ c := ne_of_isDigit isDigit rfl
  have upperN : 'N' ≠ c := ne_of_isDigit isDigit rfl
  have upperI : 'I' ≠ c := ne_of_isDigit isDigit rfl
  have hyphen : '-' ≠ c := ne_of_isDigit isDigit rfl
  simp [readWord?, words, dropLead?, n, t, f, upperN, upperI, hyphen]

theorem readWord?_hyphen {c : Char} (isDigit : c.isDigit = true) (cs : Text) :
    readWord? ('-' :: c :: cs) = none := by
  have upperI : 'I' ≠ c := ne_of_isDigit isDigit rfl
  simp [readWord?, words, dropLead?, upperI]

theorem ofInt_cases (n : Int) :
    (∃ c cs, ofInt n = c :: cs ∧ c.isDigit = true) ∨
      ∃ c cs, ofInt n = '-' :: c :: cs ∧ c.isDigit = true := by
  have digits (m : Nat) : ∃ c cs, ofNat m = c :: cs ∧ c.isDigit = true := by
    obtain ⟨c, cs, whole⟩ := List.exists_cons_of_ne_nil (ofNat_ne_nil m)
    exact ⟨c, cs, whole, isDigit_of_mem_ofNat (n := m) (by simp [whole])⟩
  cases n with
  | ofNat m => exact .inl (digits m)
  | negSucc m =>
    obtain ⟨c, cs, whole, isDigit⟩ := digits (m + 1)
    exact .inr ⟨c, cs, congrArg ('-' :: ·) whole, isDigit⟩

theorem readValue_number {fuel depth : Nat} {c : Char} {cs : Text}
    (numeral : c = '-' ∨ c.isDigit = true) (noWord : readWord? (c :: cs) = none) :
    readValue .file (fuel + 1) depth (c :: cs) = readNumber .file (c :: cs) := by
  have other {d : Char} (noHyphen : d ≠ '-') (noDigit : d.isDigit = false) : c ≠ d := by
    rintro rfl
    cases numeral with
    | inl hyphen => exact noHyphen hyphen
    | inr isDigit => exact Bool.false_ne_true (noDigit.symm.trans isDigit)
  rw [readValue, noWord]
  · exact fun _ quote => other (by decide) rfl (List.cons.inj quote).1
  · exact fun _ opening => other (by decide) rfl (List.cons.inj opening).1
  · exact fun _ opening => other (by decide) rfl (List.cons.inj opening).1

theorem readsBack_int {depth : Nat} {n : Int} (short : IsShort n) : ReadsBack depth (.int n) := by
  rintro level (_ | fuel) rest stops enough
  · rcases ofInt_cases n with ⟨c, cs, whole, -⟩ | ⟨c, cs, whole, -⟩ <;>
      simp [writeAt, whole] at enough
  · rw [writeAt, ← readNumber_ofInt short stops]
    -- With a digit or a hyphen in front, neither a word nor a bracket is taken for the numeral.
    rcases ofInt_cases n with ⟨c, cs, whole, isDigit⟩ | ⟨c, cs, whole, isDigit⟩
    · rw [whole]
      exact readValue_number (.inr isDigit) (readWord?_digit isDigit _)
    · rw [whole]
      exact readValue_number (.inl rfl) (readWord?_hyphen isDigit _)

theorem readsBack_null (depth : Nat) : ReadsBack depth .null := by
  rintro level (_ | fuel) rest stops enough
  · simp [writeAt] at enough
  · rfl

theorem readsBack_bool (depth : Nat) (b : Bool) : ReadsBack depth (.bool b) := by
  rintro level (_ | fuel) rest stops enough
  · cases b <;> simp [writeAt] at enough
  · cases b <;> rfl

theorem readsBack_text (depth : Nat) (t : Text) : ReadsBack depth (.text t) := by
  rintro level (_ | fuel) rest stops enough
  · simp [writeAt, writeText] at enough
  · have shape : writeAt .indentedAscii level (.text t) ++ rest =
        '"' :: (t.flatMap (escapeChar true) ++ '"' :: rest) := by
      rw [writeAt, writeText, List.append_assoc, List.append_assoc]
      rfl
    rw [shape, readValue, readString?_flatMap]
    rfl

/-! ## Lists -/

theorem startsValue_writeAt {depth : Nat} (level : Nat) {value : Value}
    (writable : IsWritable depth value) : StartsValue (writeAt .indentedAscii level value) := by
  have bracketed (opening closing : Char) (members : List Text) :
      ∃ cs, bracket .indentedAscii level opening closing members = opening :: cs := by
    simp only [bracket]
    split <;> exact ⟨_, rfl⟩
  cases writable with
  | null => exact ⟨_, _, rfl, rfl, by decide⟩
  | bool b => cases b <;> exact ⟨_, _, rfl, rfl, by decide⟩
  | @int _ n =>
    rcases ofInt_cases n with ⟨c, cs, whole, isDigit⟩ | ⟨c, cs, whole, -⟩
    · have other (d : Char) (noDigit : d.isDigit = false) : c ≠ d :=
        (ne_of_isDigit isDigit noDigit).symm
      exact ⟨c, cs, whole, by simp [isSpace, other], other ']' rfl, other '}' rfl⟩
    · exact ⟨'-', c :: cs, whole, rfl, by decide⟩
  | text t => exact ⟨_, _, rfl, rfl, by decide⟩
  | list =>
    obtain ⟨cs, whole⟩ := bracketed '[' ']' _
    exact ⟨'[', cs, whole, rfl, by decide⟩
  | table =>
    obtain ⟨cs, whole⟩ := bracketed '{' '}' _
    exact ⟨'{', cs, whole, rfl, by decide⟩

/-- Items that are read back one by one are read back up to the closing bracket. -/
theorem readItems_membersText {depth level : Nat} {rest : Text} {items : List Value}
    (nonempty : items ≠ [])
    (starts : ∀ item ∈ items, StartsValue (writeAt .indentedAscii (level + 1) item))
    (back : ∀ item ∈ items, ReadsBack depth item) {fuel : Nat} {space : Text}
    (spaces : ∀ c ∈ space, isSpace c = true)
    (enough : (space ++ membersText level (items.map (writeAt .indentedAscii (level + 1)))
      (']' :: rest)).length < fuel) :
    readItems .file fuel depth
      (space ++ membersText level (items.map (writeAt .indentedAscii (level + 1))) (']' :: rest)) =
        .ok (items, rest) := by
  -- The fuel exceeds what is left of the text, which gets shorter with every item.
  induction items generalizing fuel space with
  | nil => exact absurd rfl nonempty
  | cons item others ih =>
    obtain _ | fuel := fuel
    · exact absurd enough (Nat.not_lt_zero _)
    have skipped (t : Text) : skipSpace (space ++ (writeAt .indentedAscii (level + 1) item ++ t)) =
        writeAt .indentedAscii (level + 1) item ++ t := by
      rw [skipSpace_of_spaces spaces]
      exact ((starts item List.mem_cons_self).append t).skipSpace_eq
    have first := back item List.mem_cons_self (level + 1) fuel
    rw [List.map_cons] at enough ⊢
    by_cases last : others = []
    · subst last
      rw [List.map_nil, membersText_singleton] at enough ⊢
      have read := first _ (stops_newLine level (']' :: rest)) (by simp at enough ⊢; omega)
      rw [readItems, skipped, read, ok_bind]
      simp only [skipSpace_of_spaces isSpace_of_mem_newLine,
        skipSpace_cons (show isSpace ']' = false from rfl)]
      rfl
    · rw [membersText_cons _ _ (by simpa using last)] at enough ⊢
      have shorter : (newLine (level + 1) ++ membersText level
          (others.map (writeAt .indentedAscii (level + 1))) (']' :: rest)).length < fuel := by
        simp at enough ⊢
        omega
      have read := first (',' :: (newLine (level + 1) ++ membersText level
        (others.map (writeAt .indentedAscii (level + 1))) (']' :: rest)))
        (stops_cons (by decide) _) (by simp at enough ⊢; omega)
      have later := ih last (fun other member => starts other (List.mem_cons_of_mem item member))
        (fun other member => back other (List.mem_cons_of_mem item member))
        isSpace_of_mem_newLine shorter
      rw [readItems, skipped, read, ok_bind]
      simp only [skipSpace_cons (show isSpace ',' = false from rfl)]
      rw [later]
      rfl

theorem readsBack_list {depth : Nat} {items : List Value}
    (shallow : checkDepth .file depth = .ok ())
    (writable : ∀ item ∈ items, IsWritable (depth + 1) item)
    (back : ∀ item ∈ items, ReadsBack (depth + 1) item) : ReadsBack depth (.list items) := by
  rintro level (_ | fuel) rest - enough
  · obtain ⟨c, cs, whole, -⟩ := startsValue_writeAt level (.list shallow writable)
    simp [whole] at enough
  · rw [writeAt, writeItems_eq_map] at enough ⊢
    by_cases empty : items = []
    · subst empty
      rfl
    · have nonempty : items.map (writeAt .indentedAscii (level + 1)) ≠ [] := by simpa using empty
      have starts : ∀ item ∈ items, StartsValue (writeAt .indentedAscii (level + 1) item) :=
        fun item member => startsValue_writeAt (level + 1) (writable item member)
      have startsAll : StartsValue
          (membersText level (items.map (writeAt .indentedAscii (level + 1))) (']' :: rest)) :=
        .membersText nonempty (List.forall_mem_map.2 starts) _
      rw [bracket_append nonempty] at enough ⊢
      have shorter : ([] ++ membersText level (items.map (writeAt .indentedAscii (level + 1)))
          (']' :: rest)).length < fuel := by
        have := length_newLine_pos (level + 1)
        simp at enough ⊢
        omega
      have read := readItems_membersText empty starts back (List.forall_mem_nil _) shorter
      rw [List.nil_append] at read
      rw [readValue, skipSpace_of_spaces isSpace_of_mem_newLine, startsAll.skipSpace_eq]
      -- What comes first is an item, not the closing bracket.
      split
      · next closed =>
        obtain ⟨c, cs, whole, -, noBracket, -⟩ := startsAll
        rw [closed] at whole
        exact absurd (List.cons.inj whole).1.symm noBracket
      · rw [shallow, ok_bind, read]
        rfl

/-! ## Tables -/

theorem set_of_not_mem {key : Text} {value : Value} {fields : Value.Fields}
    (new : key ∉ fields.map (·.1)) :
    Value.Fields.set key value fields = fields ++ [(key, value)] := by
  induction fields with
  | nil => rfl
  | cons field rest ih =>
    rw [List.map_cons, List.mem_cons, not_or] at new
    rw [Value.Fields.set, if_neg (Ne.symm new.1), ih new.2]
    rfl

theorem foldl_set (fields pairs : Value.Fields) (distinct : ((fields ++ pairs).map (·.1)).Nodup) :
    pairs.foldl (fun fields (key, value) => Value.Fields.set key value fields) fields =
      fields ++ pairs := by
  induction pairs generalizing fields with
  | nil => exact (List.append_nil fields).symm
  | cons pair rest ih =>
    obtain ⟨key, value⟩ := pair
    -- A repeated key would stand both in front and among the pairs.
    have new : key ∉ fields.map (·.1) := by
      rw [List.map_append, List.nodup_append] at distinct
      exact fun member => distinct.2.2 key member key List.mem_cons_self rfl
    rw [List.foldl_cons]
    show List.foldl _ (Value.Fields.set key value fields) rest = _
    rw [set_of_not_mem new, ih _ (by simpa using distinct), List.append_assoc]
    rfl

theorem ofPairs_eq {fields : Value.Fields} (distinct : (fields.map (·.1)).Nodup) :
    Value.Fields.ofPairs fields = fields :=
  foldl_set [] fields distinct

theorem writeField_append (level : Nat) (field : Text × Value) (rest : Text) :
    writeField .indentedAscii level field ++ rest =
      '"' :: (field.1.flatMap (escapeChar true) ++
        '"' :: ':' :: ' ' :: (writeAt .indentedAscii level field.2 ++ rest)) := by
  rw [writeField, writeText]
  simp only [List.append_assoc]
  rfl

/-- A field is read up to what follows its value: the end of the table or the next field. -/
theorem readFields_writeField {fuel depth level : Nat} {field : Text × Value}
    {space rest after : Text} (spaces : ∀ c ∈ space, isSpace c = true)
    (starts : StartsValue (writeAt .indentedAscii level field.2))
    (read : readValue .file fuel depth (writeAt .indentedAscii level field.2 ++ rest) =
      .ok (field.2, rest)) :
    (skipSpace rest = '}' :: after →
      readFields .file (fuel + 1) depth (space ++ (writeField .indentedAscii level field ++ rest)) =
        .ok ([field], after)) ∧
    (skipSpace rest = ',' :: after →
      readFields .file (fuel + 1) depth (space ++ (writeField .indentedAscii level field ++ rest)) =
        (readFields .file fuel depth after).map fun (fields, rest) => (field :: fields, rest)) := by
  have noSpace : skipSpace (' ' :: (writeAt .indentedAscii level field.2 ++ rest)) =
      writeAt .indentedAscii level field.2 ++ rest := (starts.append rest).skipSpace_eq
  rw [writeField_append, readFields, skipSpace_of_spaces spaces,
    skipSpace_cons (show isSpace '"' = false from rfl)]
  simp only [readString?_flatMap, Flaw.require, ok_bind,
    skipSpace_cons (show isSpace ':' = false from rfl), noSpace, read]
  constructor
  · intro closing
    rw [closing]
    rfl
  · intro comma
    rw [comma]
    rfl

theorem startsValue_writeField (level : Nat) (field : Text × Value) :
    StartsValue (writeField .indentedAscii level field) := by
  rw [← List.append_nil (writeField _ _ _), writeField_append]
  exact ⟨_, _, rfl, rfl, by decide, by decide⟩

theorem length_writeAt_le (level : Nat) (field : Text × Value) :
    (writeAt .indentedAscii level field.2).length ≤
      (writeField .indentedAscii level field).length := by
  rw [writeField, List.length_append]
  exact Nat.le_add_left _ _

theorem readFields_membersText {depth level : Nat} {rest : Text} {fields : Value.Fields}
    (nonempty : fields ≠ [])
    (starts : ∀ field ∈ fields, StartsValue (writeAt .indentedAscii (level + 1) field.2))
    (back : ∀ field ∈ fields, ReadsBack depth field.2) {fuel : Nat} {space : Text}
    (spaces : ∀ c ∈ space, isSpace c = true)
    (enough : (space ++ membersText level (fields.map (writeField .indentedAscii (level + 1)))
      ('}' :: rest)).length < fuel) :
    readFields .file fuel depth
      (space ++
        membersText level (fields.map (writeField .indentedAscii (level + 1))) ('}' :: rest)) =
        .ok (fields, rest) := by
  -- As with items, the fuel exceeds what is left of the text.
  induction fields generalizing fuel space with
  | nil => exact absurd rfl nonempty
  | cons field others ih =>
    obtain _ | fuel := fuel
    · exact absurd enough (Nat.not_lt_zero _)
    have first := back field List.mem_cons_self (level + 1) fuel
    have startsFirst := starts field List.mem_cons_self
    have length := length_writeAt_le (level + 1) field
    rw [List.map_cons] at enough ⊢
    by_cases last : others = []
    · subst last
      rw [List.map_nil, membersText_singleton] at enough ⊢
      have read := first _ (stops_newLine level ('}' :: rest)) (by simp at enough ⊢; omega)
      exact (readFields_writeField spaces startsFirst read).1
        (skipSpace_of_spaces isSpace_of_mem_newLine ('}' :: rest))
    · rw [membersText_cons _ _ (by simpa using last)] at enough ⊢
      have shorter : (newLine (level + 1) ++ membersText level
          (others.map (writeField .indentedAscii (level + 1))) ('}' :: rest)).length < fuel := by
        simp at enough ⊢
        omega
      have read := first (',' :: (newLine (level + 1) ++ membersText level
        (others.map (writeField .indentedAscii (level + 1))) ('}' :: rest)))
        (stops_cons (by decide) _) (by simp at enough ⊢; omega)
      have later := ih last (fun other member => starts other (List.mem_cons_of_mem field member))
        (fun other member => back other (List.mem_cons_of_mem field member))
        isSpace_of_mem_newLine shorter
      rw [(readFields_writeField spaces startsFirst read).2
        (skipSpace_cons (show isSpace ',' = false from rfl) _), later]
      rfl

theorem readsBack_table {depth : Nat} {fields : Value.Fields}
    (shallow : checkDepth .file depth = .ok ()) (distinct : (fields.map (·.1)).Nodup)
    (writable : ∀ field ∈ fields, IsWritable (depth + 1) field.2)
    (back : ∀ field ∈ fields, ReadsBack (depth + 1) field.2) : ReadsBack depth (.table fields) := by
  rintro level (_ | fuel) rest - enough
  · obtain ⟨c, cs, whole, -⟩ := startsValue_writeAt level (.table shallow distinct writable)
    simp [whole] at enough
  · rw [writeAt, writeFields_eq_map] at enough ⊢
    by_cases empty : fields = []
    · subst empty
      rfl
    · have nonempty : fields.map (writeField .indentedAscii (level + 1)) ≠ [] := by
        simpa using empty
      have starts : ∀ field ∈ fields, StartsValue (writeAt .indentedAscii (level + 1) field.2) :=
        fun field member => startsValue_writeAt (level + 1) (writable field member)
      have startsAll : StartsValue
          (membersText level (fields.map (writeField .indentedAscii (level + 1))) ('}' :: rest)) :=
        .membersText nonempty
          (List.forall_mem_map.2 fun field _ => startsValue_writeField (level + 1) field) _
      rw [bracket_append nonempty] at enough ⊢
      have shorter : ([] ++ membersText level (fields.map (writeField .indentedAscii (level + 1)))
          ('}' :: rest)).length < fuel := by
        have := length_newLine_pos (level + 1)
        simp at enough ⊢
        omega
      have read := readFields_membersText empty starts back (List.forall_mem_nil _) shorter
      rw [List.nil_append] at read
      rw [readValue, skipSpace_of_spaces isSpace_of_mem_newLine, startsAll.skipSpace_eq]
      -- What comes first is a field, not the closing brace.
      split
      · next closed =>
        obtain ⟨c, cs, whole, -, -, noBrace⟩ := startsAll
        rw [closed] at whole
        exact absurd (List.cons.inj whole).1.symm noBrace
      · rw [shallow, ok_bind, read, ok_bind]
        exact congrArg (fun fields => Except.ok (Value.table fields, rest)) (ofPairs_eq distinct)

/-! ## Documents -/

theorem readsBack_of_isWritable {depth : Nat} {value : Value} (writable : IsWritable depth value) :
    ReadsBack depth value := by
  induction writable with
  | null => exact readsBack_null _
  | bool b => exact readsBack_bool _ b
  | int short => exact readsBack_int short
  | text t => exact readsBack_text _ t
  | list shallow writable ih => exact readsBack_list shallow writable ih
  | table shallow distinct writable ih => exact readsBack_table shallow distinct writable ih

/-- A document within the limits is read back from its text, whatever white space follows it. -/
theorem read_write {value : Value} (writable : IsWritable 0 value) {space : Text}
    (spaces : ∀ c ∈ space, isSpace c = true) (stops : Stops space) :
    read .file (write .indentedAscii value ++ space) = .ok value := by
  have back := readsBack_of_isWritable writable 0
    ((write .indentedAscii value ++ space).length + 1) space stops (Nat.le_succ _)
  have skipped : skipSpace (write .indentedAscii value ++ space) =
      writeAt .indentedAscii 0 value ++ space :=
    ((startsValue_writeAt 0 writable).append space).skipSpace_eq
  have noSpace : skipSpace space = [] := by
    rw [← List.append_nil space]
    exact skipSpace_of_spaces spaces []
  rw [read, skipped, back, ok_bind]
  exact if_pos noSpace

end TaskTitles.Json
