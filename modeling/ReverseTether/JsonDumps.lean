import ReverseTether.JsonText

/-!
# Writing JSON

`dumps` is the `json.dumps` of the scripts, with the separators `,` and `:`.  Its output is ASCII
(`isAscii_dumps`): whatever else is in a string is written as the escapes of its code units.

What was written is read as it was (`parse_dumps`): of each reader there is one lemma that says
what it makes of the text its writer made, whatever comes behind it.

The writer and the reader are two programs in two languages, and the theorem is about the
pair: the text that the Python script puts on the command line is the value that the app
reads.  A number is written in decimal and a string with escapes, so the reader meets neither
fractions nor characters beyond ASCII.

`Closes` says that what follows a value cannot be taken for a part of it, which is what a
number needs and a string does not.  Since the text is ASCII, its length in code units, which
the app checks, is the number of its characters (`utf16Length_dumps`).
-/

namespace ReverseTether

namespace JsonText

/-! ## Writing -/

/-- The values that a script writes: those of Python that `json.dumps` is given, with integers in
place of numbers, since the script has no others. -/
inductive PyValue
  | none
  | bool (value : Bool)
  | int (value : ℤ)
  | str (text : Text)
  | list (items : List PyValue)
  | dict (members : List (Text × PyValue))

/-- `\\u` and four hexadecimal digits, for one unit of UTF-16. -/
def escapeUnit (unit : ℕ) : Text := '\\' :: 'u' :: Text.hex 4 unit

/-- `ensure_ascii`: what is not printable ASCII is escaped, as two units when one does not hold it.
-/
def escape : Char → Text
  | '"' => ['\\', '"']
  | '\\' => ['\\', '\\']
  | '\n' => ['\\', 'n']
  | '\r' => ['\\', 'r']
  | '\t' => ['\\', 't']
  | '\x0c' => ['\\', 'f']
  | '\x08' => ['\\', 'b']
  | c => if ' ' ≤ c ∧ c ≤ '~' then [c] else (units c).flatMap escapeUnit

/-- A string of the text: its characters escaped one by one, between quotation marks. -/
def quote (text : Text) : Text := '"' :: (text.flatMap escape ++ ['"'])

mutual

/-- `json.dumps(value, separators=(',', ':'))`. -/
def dumps : PyValue → Text
  | .none => ['n', 'u', 'l', 'l']
  | .bool true => ['t', 'r', 'u', 'e']
  | .bool false => ['f', 'a', 'l', 's', 'e']
  | .int value => Text.ofInt value
  | .str text => quote text
  | .list items => '[' :: (dumpsItems items ++ [']'])
  | .dict members => '\x7b' :: (dumpsMembers members ++ ['\x7d'])

/-- The items of a list, with commas between them and no blanks. -/
def dumpsItems : List PyValue → Text
  | [] => []
  | [item] => dumps item
  | item :: items => dumps item ++ ',' :: dumpsItems items

/-- The members of a dictionary, in the order of the dictionary, with commas between them. -/
def dumpsMembers : List (Text × PyValue) → Text
  | [] => []
  | [(name, item)] => quote name ++ ':' :: dumps item
  | (name, item) :: members => quote name ++ ':' :: (dumps item ++ ',' :: dumpsMembers members)

end

mutual

/-- The value that the app has for one of a script. -/
def PyValue.toJson : PyValue → Json
  | .none => .null
  | .bool value => .bool value
  | .int value => .number (.ofRat value)
  | .str text => .string (String.ofList text)
  | .list items => .array (toJsonItems items)
  | .dict members => .object (toJsonMembers members)

/-- The items of a list, each as the value that a reader takes it for. -/
def PyValue.toJsonItems : List PyValue → List Json
  | [] => []
  | item :: items => item.toJson :: toJsonItems items

/-- The members of a dictionary, each as the value that a reader takes it for, under its name. -/
def PyValue.toJsonMembers : List (Text × PyValue) → List (String × Json)
  | [] => []
  | (name, item) :: members => (String.ofList name, item.toJson) :: toJsonMembers members

end

theorem toJsonItems_eq_map (items : List PyValue) :
    PyValue.toJsonItems items = items.map PyValue.toJson := by
  induction items with
  | nil => rfl
  | cons item items ih =>
      rw [PyValue.toJsonItems, ih]
      rfl

/-! ## What was written is read -/

theorem decode_units (c : Char) (rest : List ℕ) : decode (units c ++ rest) = c :: decode rest := by
  have valid : c.toNat < 0xd800 ∨ (0xdfff < c.toNat ∧ c.toNat < 0x110000) := c.valid
  unfold units
  split
  · have high : isHighSurrogate c.toNat = false := by
      simp [isHighSurrogate]
      omega
    have low : isLowSurrogate c.toNat = false := by
      simp [isLowSurrogate]
      omega
    cases rest with
    | nil => simp [decode, high, low, Char.ofNat_toNat]
    | cons next rest => simp [decode, high, low, Char.ofNat_toNat]
  · have high : isHighSurrogate (0xd800 + (c.toNat - 0x10000) / 0x400) = true := by
      simp [isHighSurrogate]
      omega
    have low : isLowSurrogate (0xdc00 + (c.toNat - 0x10000) % 0x400) = true := by
      simp [isLowSurrogate]
      omega
    have code : 0x10000 + (c.toNat - 0x10000) / 0x400 * 0x400 + (c.toNat - 0x10000) % 0x400 =
        c.toNat := by omega
    simp [decode, high, low, code, Char.ofNat_toNat]

theorem decode_flatMap_units (text : Text) : decode (text.flatMap units) = text := by
  induction text with
  | nil => rfl
  | cons c text ih => rw [List.flatMap_cons, decode_units, ih]

theorem hexValue_digitChar {d : ℕ} (bound : d < 16) : hexValue (Nat.digitChar d) = some d := by
  interval_cases d <;> decide

theorem hexUnit_hex {unit : ℕ} (bound : unit < 0x10000) :
    hexUnit (Text.hex 4 unit) = some unit := by
  have digit (d : ℕ) : hexValue (Nat.digitChar (d % 16)) = some (d % 16) :=
    hexValue_digitChar (Nat.mod_lt d (by norm_num))
  have sum : 16 * (16 * (16 * (unit / 4096 % 16) + unit / 256 % 16) + unit / 16 % 16) +
      unit % 16 = unit := by omega
  simp [hexUnit, Text.hex, List.range_succ, digit, sum]

theorem readUnits_escapeUnit {unit : ℕ} (bound : unit < 0x10000) (rest : Text) :
    readUnits (escapeUnit unit ++ rest) =
      (readUnits rest).map fun read => (unit :: read.1, read.2) := by
  obtain ⟨a, b, c, d, written⟩ : ∃ a b c d, Text.hex 4 unit = [a, b, c, d] :=
    ⟨_, _, _, _, by simp only [Text.hex, List.range_succ]; rfl⟩
  have value : hexUnit [a, b, c, d] = some unit := written ▸ hexUnit_hex bound
  simp only [escapeUnit, written, List.cons_append, List.nil_append, readUnits, value]
  cases readUnits rest <;> rfl

theorem readUnits_plain {c : Char} (rest : Text) (quote : c ≠ '"') (backslash : c ≠ '\\')
    (control : ¬c.toNat < 0x20) :
    readUnits (c :: rest) = (readUnits rest).map fun read => (units c ++ read.1, read.2) := by
  rw [readUnits.eq_def]
  split <;> simp_all

theorem units_lt (c : Char) : ∀ unit ∈ units c, unit < 0x10000 := by
  have valid : c.toNat < 0xd800 ∨ (0xdfff < c.toNat ∧ c.toNat < 0x110000) := c.valid
  unfold units
  split
  · simpa
  · simp
    omega

theorem readUnits_escapeUnits {s : List ℕ} (bound : ∀ unit ∈ s, unit < 0x10000) (rest : Text) :
    readUnits (s.flatMap escapeUnit ++ rest) =
      (readUnits rest).map fun read => (s ++ read.1, read.2) := by
  induction s with
  | nil => simp
  | cons unit s ih =>
      rw [List.flatMap_cons, List.append_assoc, readUnits_escapeUnit (bound unit (by simp)),
        ih fun unit mem => bound unit (by simp [mem]), Option.map_map]
      rfl

theorem readUnits_letter {c : Char} {unit : ℕ} (letter : letterUnit c = some unit) (rest : Text) :
    readUnits ('\\' :: c :: rest) = (readUnits rest).map fun read => (unit :: read.1, read.2) := by
  have other : c ≠ 'u' := by
    rintro rfl
    exact nomatch letter
  rw [readUnits.eq_3 c rest fun _ _ _ _ _ hex _ => other hex, letter]
  cases readUnits rest <;> rfl

/-- What a character is written as is read as the character. -/
theorem readUnits_escape (c : Char) (rest : Text) :
    readUnits (escape c ++ rest) =
      (readUnits rest).map fun read => (units c ++ read.1, read.2) := by
  unfold escape
  split
  iterate 7 · exact readUnits_letter (by rfl) rest
  next quote backslash _ _ _ _ _ =>
    split
    · next printable =>
        have least : ' '.val.toNat ≤ c.val.toNat := printable.1
        exact readUnits_plain rest quote backslash (not_lt.mpr least)
    · exact readUnits_escapeUnits (units_lt c) rest

/-- A quoted text is read as the text. -/
theorem readString_quote (text rest : Text) :
    readString (text.flatMap escape ++ '"' :: rest) = some (String.ofList text, rest) := by
  have read : readUnits (text.flatMap escape ++ '"' :: rest) = some (text.flatMap units, rest) := by
    induction text with
    | nil => simp [readUnits]
    | cons c text ih =>
        rw [List.flatMap_cons, List.append_assoc, readUnits_escape, ih]
        rfl
  simp only [readString, read, Option.map_some, decode_flatMap_units]

/-! ### Numbers -/

/-- What may follow a value in the text of a larger one.  `dumps` writes nothing else behind one,
so that a number is known to end there. -/
def Closes (rest : Text) : Prop := ∀ c, rest.head? = some c → c = ',' ∨ c = ']' ∨ c = '\x7d'

theorem Closes.nil : Closes [] := fun _ none => nomatch none

theorem closes_cons {c : Char} {rest : Text} (close : c = ',' ∨ c = ']' ∨ c = '\x7d') :
    Closes (c :: rest) := by
  intro _ head
  rw [← Option.some.inj head]
  exact close

theorem ofNat_eq (n : ℕ) : Text.ofNat n = Nat.toDigits 10 n := Nat.toList_repr

theorem isDigit_of_mem_ofNat {n : ℕ} {c : Char} (mem : c ∈ Text.ofNat n) : c.isDigit = true :=
  Nat.isDigit_of_mem_toDigits (by norm_num) (by norm_num) (ofNat_eq n ▸ mem)

theorem ofNat_ne_nil (n : ℕ) : Text.ofNat n ≠ [] := ofNat_eq n ▸ Nat.toDigits_ne_nil

theorem value_ofNat (n : ℕ) : value (Text.ofNat n) = n := by
  rw [ofNat_eq]
  exact Nat.ofDigitChars_ten_toDigits

/-- No numeral of a script begins with a zero, but for that of zero. -/
theorem ofNat_head_ne {n : ℕ} (positive : 0 < n) : (Text.ofNat n).head? ≠ some '0' := by
  rw [ofNat_eq]
  induction n using Nat.strong_induction_on with
  | _ n ih =>
      by_cases single : n < 10
      · rw [Nat.toDigits_of_lt_base single]
        interval_cases n <;> decide
      · have shorter : Nat.toDigits 10 n =
            Nat.toDigits 10 (n / 10) ++ [Nat.digitChar (n % 10)] :=
          Nat.toDigits_of_base_le (by norm_num) (not_lt.mp single)
        rw [shorter, List.head?_append_of_ne_nil _ Nat.toDigits_ne_nil]
        exact ih (n / 10) (by omega) (by omega)

theorem not_isDigit_of_closes {c : Char} {rest : Text} (closes : Closes rest)
    (head : rest.head? = some c) : c.isDigit = false := by
  obtain rfl | rfl | rfl := closes c head <;> rfl

theorem digits_ofNat (n : ℕ) {rest : Text} (closes : Closes rest) :
    digits (Text.ofNat n ++ rest) = Text.ofNat n := by
  unfold digits
  rw [List.takeWhile_append_of_pos fun _ mem => isDigit_of_mem_ofNat mem]
  cases rest with
  | nil => simp
  | cons c rest =>
      have other : c.isDigit = false := not_isDigit_of_closes closes rfl
      simp [other]

theorem afterDigits_ofNat (n : ℕ) {rest : Text} (closes : Closes rest) :
    afterDigits (Text.ofNat n ++ rest) = rest := by
  unfold afterDigits
  rw [List.dropWhile_append_of_pos fun _ mem => isDigit_of_mem_ofNat mem]
  cases rest with
  | nil => rfl
  | cons c rest =>
      have other : c.isDigit = false := not_isDigit_of_closes closes rfl
      simp [other]

theorem readFraction_closes {rest : Text} (closes : Closes rest) :
    readFraction rest = some (0, rest) := by
  rw [readFraction.eq_def]
  split
  · next rest =>
      have dot : '.' = ',' ∨ '.' = ']' ∨ '.' = '\x7d' := closes '.' rfl
      exact absurd dot (by decide)
  · rfl

theorem readExponent_closes {rest : Text} (closes : Closes rest) :
    readExponent rest = some (0, rest) := by
  have small : rest.head? ≠ some 'e' := fun head => absurd (closes 'e' head) (by decide)
  have large : rest.head? ≠ some 'E' := fun head => absurd (closes 'E' head) (by decide)
  unfold readExponent
  split <;> simp_all

theorem readUnsigned_ofNat (n : ℕ) {rest : Text} (closes : Closes rest) :
    readUnsigned (Text.ofNat n ++ rest) = some ((n : ℚ), rest) := by
  have leading : ¬(Text.ofNat n = [] ∨
      ((Text.ofNat n).head? = some '0' ∧ 1 < (Text.ofNat n).length)) := by
    rintro (empty | ⟨zero, long⟩)
    · exact ofNat_ne_nil n empty
    · obtain rfl : n = 0 := by
        by_contra positive
        exact ofNat_head_ne (Nat.pos_of_ne_zero positive) zero
      exact absurd long (by decide)
  unfold readUnsigned
  simp only [digits_ofNat n closes, afterDigits_ofNat n closes, if_neg leading,
    readFraction_closes closes, Option.bind_some, readExponent_closes closes, Option.map_some,
    value_ofNat]
  simp

theorem ofInt_eq_cons (z : ℤ) :
    ∃ c text, Text.ofInt z = c :: text ∧ (c = '-' ∨ c.isDigit = true) := by
  cases z with
  | negSucc n => exact ⟨'-', _, rfl, .inl rfl⟩
  | ofNat n =>
      obtain ⟨c, text, written⟩ := List.exists_cons_of_ne_nil (ofNat_ne_nil n)
      have mem : c ∈ Text.ofNat n := by
        rw [written]
        exact List.mem_cons_self
      exact ⟨c, text, written, .inr (isDigit_of_mem_ofNat mem)⟩

theorem readNumber_ofInt (z : ℤ) {rest : Text} (closes : Closes rest) :
    readNumber (Text.ofInt z ++ rest) = some (.ofRat z, rest) := by
  cases z with
  | negSucc n =>
      show (readUnsigned (Text.ofNat (n + 1) ++ rest)).map _ = _
      rw [readUnsigned_ofNat (n + 1) closes]
      simp [Int.negSucc_eq]
  | ofNat n =>
      have unsigned (text : Text) : Text.ofNat n ++ rest = '-' :: text → False := by
        intro sign
        obtain ⟨c, digits, written⟩ := List.exists_cons_of_ne_nil (ofNat_ne_nil n)
        have mem : '-' ∈ Text.ofNat n := by
          rw [written, List.cons_append] at sign
          rw [written, (List.cons.inj sign).1]
          exact List.mem_cons_self
        exact absurd (isDigit_of_mem_ofNat mem) (by decide)
      show readNumber (Text.ofNat n ++ rest) = _
      rw [readNumber.eq_2 _ unsigned, readUnsigned_ofNat n closes]
      rfl

/-! ### Values -/

theorem skip_cons {c : Char} (rest : Text) (solid : isSpace c = false) :
    skip (c :: rest) = c :: rest := by
  simp [skip, solid]

theorem readScalar_ofInt (z : ℤ) {rest : Text} (closes : Closes rest) :
    readScalar (Text.ofInt z ++ rest) = some (.number (.ofRat z), rest) := by
  obtain ⟨c, text, written, first⟩ := ofInt_eq_cons z
  have number : readScalar (Text.ofInt z ++ rest) =
      (readNumber (Text.ofInt z ++ rest)).map fun read => (.number read.1, read.2) := by
    rw [written, readScalar.eq_def]
    split
    · simp_all
    · simp_all
    · simp_all
    · rfl
  rw [number, readNumber_ofInt z closes]
  rfl

theorem readValue_scalar {c : Char} (fuel : ℕ) (rest : Text) (solid : isSpace c = false)
    (quote : c ≠ '"') (bracket : c ≠ '[') (brace : c ≠ '\x7b') :
    readValue (fuel + 1) (c :: rest) = readScalar (c :: rest) := by
  rw [readValue, skip_cons rest solid]
  split <;> simp_all

theorem number_ne {c d : Char} (first : c = '-' ∨ c.isDigit = true)
    (other : ¬(d = '-' ∨ d.isDigit = true)) : c ≠ d := by
  rintro rfl
  exact other first

theorem isSpace_number {c : Char} (first : c = '-' ∨ c.isDigit = true) : isSpace c = false := by
  have space : c ≠ ' ' := number_ne first (by decide)
  have tab : c ≠ '\t' := number_ne first (by decide)
  have newline : c ≠ '\n' := number_ne first (by decide)
  have return_ : c ≠ '\r' := number_ne first (by decide)
  simp [isSpace, space, tab, newline, return_]

theorem readValue_ofInt (fuel : ℕ) (z : ℤ) {rest : Text} (closes : Closes rest) :
    readValue (fuel + 1) (Text.ofInt z ++ rest) = some (.number (.ofRat z), rest) := by
  obtain ⟨c, text, written, first⟩ := ofInt_eq_cons z
  rw [← readScalar_ofInt z closes, written]
  apply readValue_scalar fuel (text ++ rest) (isSpace_number first)
  · exact number_ne first (by decide)
  · exact number_ne first (by decide)
  · exact number_ne first (by decide)

/-- The first character of a value. -/
theorem dumps_eq_cons (v : PyValue) :
    ∃ c text, dumps v = c :: text ∧ isSpace c = false ∧ c ≠ ']' := by
  cases v with
  | none => exact ⟨_, _, rfl, by decide⟩
  | bool value => cases value <;> exact ⟨_, _, rfl, by decide⟩
  | int z =>
      obtain ⟨c, text, written, first⟩ := ofInt_eq_cons z
      exact ⟨c, text, written, isSpace_number first, number_ne first (by decide)⟩
  | str text => exact ⟨_, _, rfl, by decide⟩
  | list items => exact ⟨_, _, rfl, by decide⟩
  | dict members => exact ⟨_, _, rfl, by decide⟩

theorem dumpsItems_cons (item next : PyValue) (items : List PyValue) :
    dumpsItems (item :: next :: items) = dumps item ++ ',' :: dumpsItems (next :: items) := rfl

theorem dumpsMembers_cons (name : Text) (item : PyValue) (next : Text × PyValue)
    (members : List (Text × PyValue)) :
    dumpsMembers ((name, item) :: next :: members) =
      quote name ++ ':' :: (dumps item ++ ',' :: dumpsMembers (next :: members)) := rfl

theorem dumpsItems_eq_cons (item : PyValue) (items : List PyValue) :
    ∃ c text, dumpsItems (item :: items) = c :: text ∧ isSpace c = false ∧ c ≠ ']' := by
  obtain ⟨c, text, written, first⟩ := dumps_eq_cons item
  cases items with
  | nil => exact ⟨c, text, written, first⟩
  | cons next items =>
      rw [dumpsItems_cons, written]
      exact ⟨c, _, rfl, first⟩

section

variable {fuel : ℕ} {text more rest : Text} {name : Text} {item : Json}

theorem readValue_quote :
    readValue (fuel + 1) (quote text ++ rest) = some (.string (String.ofList text), rest) := by
  have written : quote text ++ rest = '"' :: (text.flatMap escape ++ '"' :: rest) := by
    simp [quote]
  rw [written, readValue, skip_cons _ (by decide)]
  simp only [readString_quote, Option.map_some]

theorem readItems_last (read : readValue fuel text = some (item, ']' :: rest)) :
    readItems (fuel + 1) text = some ([item], rest) := by
  rw [readItems, read]
  simp only [Option.bind_some, skip_cons rest (show isSpace ']' = false by decide)]

theorem readItems_next {items : List Json} (read : readValue fuel text = some (item, ',' :: more))
    (next : readItems fuel more = some (items, rest)) :
    readItems (fuel + 1) text = some (item :: items, rest) := by
  rw [readItems, read]
  simp only [Option.bind_some, skip_cons more (show isSpace ',' = false by decide), next,
    Option.map_some]

theorem readMembers_last (read : readValue fuel text = some (item, '\x7d' :: rest)) :
    readMembers (fuel + 1) (quote name ++ ':' :: text) =
      some ([(String.ofList name, item)], rest) := by
  have written :
      quote name ++ ':' :: text = '"' :: (name.flatMap escape ++ '"' :: ':' :: text) := by
    simp [quote]
  rw [written, readMembers, skip_cons _ (by decide)]
  simp only [readString_quote, Option.bind_some, skip_cons _ (show isSpace ':' = false by decide),
    read, skip_cons _ (show isSpace '\x7d' = false by decide)]

theorem readMembers_next {members : List (String × Json)}
    (read : readValue fuel text = some (item, ',' :: more))
    (next : readMembers fuel more = some (members, rest)) :
    readMembers (fuel + 1) (quote name ++ ':' :: text) =
      some ((String.ofList name, item) :: members, rest) := by
  have written :
      quote name ++ ':' :: text = '"' :: (name.flatMap escape ++ '"' :: ':' :: text) := by
    simp [quote]
  rw [written, readMembers, skip_cons _ (by decide)]
  simp only [readString_quote, Option.bind_some, skip_cons _ (show isSpace ':' = false by decide),
    read, skip_cons _ (show isSpace ',' = false by decide), next, Option.map_some]

theorem readValue_list {c : Char} {items : List Json} (solid : isSpace c = false)
    (closed : c ≠ ']') (read : readItems fuel (c :: text) = some (items, rest)) :
    readValue (fuel + 1) ('[' :: c :: text) = some (.array items, rest) := by
  rw [readValue, skip_cons _ (by decide)]
  simp only [skip_cons text solid]
  split
  · simp_all
  · simp [read]

theorem readValue_dict {members : List (String × Json)}
    (read : readMembers fuel ('"' :: text) = some (members, rest)) :
    readValue (fuel + 1) ('\x7b' :: '"' :: text) = some (.object members, rest) := by
  rw [readValue, skip_cons _ (by decide)]
  simp only [skip_cons text (show isSpace '"' = false by decide)]
  show (readMembers fuel ('"' :: text)).map _ = _
  rw [read]
  rfl

end

theorem dumps_list_append (items : List PyValue) (rest : Text) :
    dumps (.list items) ++ rest = '[' :: (dumpsItems items ++ ']' :: rest) := by
  simp [dumps]

theorem dumps_dict_append (members : List (Text × PyValue)) (rest : Text) :
    dumps (.dict members) ++ rest = '\x7b' :: (dumpsMembers members ++ '\x7d' :: rest) := by
  simp [dumps]

theorem dumpsMembers_eq_cons (member : Text × PyValue) (members : List (Text × PyValue)) :
    ∃ text, dumpsMembers (member :: members) = '"' :: text := by
  cases members with
  | nil => exact ⟨_, rfl⟩
  | cons next members => exact ⟨_, rfl⟩

mutual

theorem readValue_dumps : ∀ (v : PyValue) {fuel : ℕ} {rest : Text},
    2 * (dumps v).length ≤ fuel → Closes rest →
      readValue fuel (dumps v ++ rest) = some (v.toJson, rest)
  | v, 0, rest, enough, _ => by
      obtain ⟨c, text, written, -⟩ := dumps_eq_cons v
      simp [written] at enough
  | .none, fuel + 1, rest, _, _ =>
      readValue_scalar fuel _ (by decide) (by decide) (by decide) (by decide)
  | .bool true, fuel + 1, rest, _, _ =>
      readValue_scalar fuel _ (by decide) (by decide) (by decide) (by decide)
  | .bool false, fuel + 1, rest, _, _ =>
      readValue_scalar fuel _ (by decide) (by decide) (by decide) (by decide)
  | .int z, fuel + 1, rest, _, closes => readValue_ofInt fuel z closes
  | .str text, fuel + 1, rest, _, _ => readValue_quote
  | .list [], fuel + 1, rest, _, _ => rfl
  | .list (item :: items), fuel + 1, rest, enough, _ => by
      have read : readItems fuel (dumpsItems (item :: items) ++ ']' :: rest) =
          some (PyValue.toJsonItems (item :: items), rest) := by
        apply readItems_dumps
        simp only [dumps, List.length_cons, List.length_append] at enough
        omega
      obtain ⟨c, text, written, solid, closed⟩ := dumpsItems_eq_cons item items
      rw [dumps_list_append, written]
      rw [written] at read
      exact readValue_list solid closed read
  | .dict [], fuel + 1, rest, _, _ => rfl
  | .dict ((name, item) :: members), fuel + 1, rest, enough, _ => by
      have read : readMembers fuel (dumpsMembers ((name, item) :: members) ++ '\x7d' :: rest) =
          some (PyValue.toJsonMembers ((name, item) :: members), rest) := by
        apply readMembers_dumps
        simp only [dumps, List.length_cons, List.length_append] at enough
        omega
      obtain ⟨text, written⟩ := dumpsMembers_eq_cons (name, item) members
      rw [dumps_dict_append, written]
      rw [written] at read
      exact readValue_dict read

theorem readItems_dumps : ∀ (item : PyValue) (items : List PyValue) {fuel : ℕ} {rest : Text},
    2 * (dumpsItems (item :: items)).length + 1 ≤ fuel →
      readItems fuel (dumpsItems (item :: items) ++ ']' :: rest) =
        some (PyValue.toJsonItems (item :: items), rest)
  | item, [], fuel + 1, rest, enough => by
      apply readItems_last
      apply readValue_dumps item _ (closes_cons (by decide))
      exact Nat.le_of_succ_le_succ enough
  | item, next :: items, fuel + 1, rest, enough => by
      rw [dumpsItems_cons, List.length_append, List.length_cons] at enough
      rw [dumpsItems_cons, List.append_assoc]
      apply readItems_next
      · exact readValue_dumps item (by omega) (closes_cons (by decide))
      · exact readItems_dumps next items (by omega)

theorem readMembers_dumps : ∀ (name : Text) (item : PyValue) (members : List (Text × PyValue))
    {fuel : ℕ} {rest : Text},
    2 * (dumpsMembers ((name, item) :: members)).length + 1 ≤ fuel →
      readMembers fuel (dumpsMembers ((name, item) :: members) ++ '\x7d' :: rest) =
        some (PyValue.toJsonMembers ((name, item) :: members), rest)
  | name, item, [], fuel + 1, rest, enough => by
      rw [dumpsMembers, List.append_assoc]
      apply readMembers_last
      apply readValue_dumps item _ (closes_cons (by decide))
      simp only [dumpsMembers, List.length_append, List.length_cons] at enough
      omega
  | name, item, (name', item') :: members, fuel + 1, rest, enough => by
      rw [dumpsMembers_cons, List.append_assoc, List.cons_append, List.append_assoc]
      simp only [dumpsMembers_cons, List.length_append, List.length_cons] at enough
      apply readMembers_next
      · exact readValue_dumps item (by omega) (closes_cons (by decide))
      · exact readMembers_dumps name' item' members (by omega)

end

/-- The app reads what a script wrote. -/
theorem parse_dumps (v : PyValue) : parse (dumps v) = some v.toJson := by
  have read : readValue (2 * (dumps v).length) (dumps v ++ []) = some (v.toJson, []) :=
    readValue_dumps v le_rfl .nil
  rw [List.append_nil] at read
  unfold parse
  rw [read]
  rfl

/-! ## What was written is ASCII -/

/-- The text can be written in any encoding that has ASCII in it, byte for byte. -/
def IsAscii (text : Text) : Prop := ∀ c ∈ text, c.toNat < 0x80

theorem utf16Length_ascii {text : Text} (ascii : IsAscii text) :
    utf16Length text = text.length := by
  have single (c : Char) (mem : c ∈ text) : (units c).length = 1 := by
    have small : c.toNat < 0x10000 := lt_trans (ascii c mem) (by norm_num)
    rw [units, if_pos small]
    rfl
  induction text with
  | nil => rfl
  | cons c text ih =>
      have tail : utf16Length text = text.length :=
        ih (fun d mem => ascii d (List.mem_cons_of_mem c mem))
          fun d mem => single d (List.mem_cons_of_mem c mem)
      rw [utf16Length] at tail ⊢
      rw [List.flatMap_cons, List.length_append, single c List.mem_cons_self, tail,
        List.length_cons, add_comm]

@[simp] theorem isAscii_nil : IsAscii [] := by simp [IsAscii]

@[simp] theorem isAscii_cons {c : Char} {text : Text} :
    IsAscii (c :: text) ↔ c.toNat < 0x80 ∧ IsAscii text := by simp [IsAscii]

@[simp] theorem isAscii_append {text more : Text} :
    IsAscii (text ++ more) ↔ IsAscii text ∧ IsAscii more := by
  simp [IsAscii, or_imp, forall_and]

theorem isAscii_flatMap {α : Type} {items : List α} {f : α → Text}
    (each : ∀ item ∈ items, IsAscii (f item)) : IsAscii (items.flatMap f) := by
  intro c mem
  obtain ⟨item, memItem, memText⟩ := List.mem_flatMap.mp mem
  exact each item memItem c memText

theorem isAscii_hex (width n : ℕ) : IsAscii (Text.hex width n) := by
  intro c mem
  obtain ⟨place, -, rfl⟩ := List.mem_map.mp mem
  have digit : n / 16 ^ place % 16 < 16 := Nat.mod_lt _ (by norm_num)
  generalize n / 16 ^ place % 16 = d at digit
  interval_cases d <;> decide

theorem isAscii_escapeUnit (unit : ℕ) : IsAscii (escapeUnit unit) :=
  isAscii_cons.mpr ⟨by decide, isAscii_cons.mpr ⟨by decide, isAscii_hex 4 unit⟩⟩

theorem isAscii_escape (c : Char) : IsAscii (escape c) := by
  unfold escape
  split
  iterate 7 · simp
  split
  · next printable =>
      have most : c.val.toNat ≤ '~'.val.toNat := printable.2
      apply isAscii_cons.mpr
      exact ⟨lt_of_le_of_lt most (by decide), isAscii_nil⟩
  · exact isAscii_flatMap fun unit _ => isAscii_escapeUnit unit

theorem isAscii_quote (text : Text) : IsAscii (quote text) := by
  have body : IsAscii (text.flatMap escape) := isAscii_flatMap fun c _ => isAscii_escape c
  simp [quote, body]

theorem isAscii_ofNat (n : ℕ) : IsAscii (Text.ofNat n) := by
  intro c mem
  have digit : c.isDigit = true := isDigit_of_mem_ofNat mem
  have most : c.val.toNat ≤ '9'.val.toNat := by
    simp [Char.isDigit] at digit
    exact digit.2
  exact lt_of_le_of_lt most (by decide)

theorem isAscii_ofInt (z : ℤ) : IsAscii (Text.ofInt z) := by
  cases z with
  | ofNat n => exact isAscii_ofNat n
  | negSucc n => exact isAscii_cons.mpr ⟨by decide, isAscii_ofNat (n + 1)⟩

mutual

theorem isAscii_dumps : ∀ v : PyValue, IsAscii (dumps v)
  | .none => by simp [dumps]
  | .bool true => by simp [dumps]
  | .bool false => by simp [dumps]
  | .int z => isAscii_ofInt z
  | .str text => isAscii_quote text
  | .list items => by simp [dumps, isAscii_dumpsItems items]
  | .dict members => by simp [dumps, isAscii_dumpsMembers members]

theorem isAscii_dumpsItems : ∀ items : List PyValue, IsAscii (dumpsItems items)
  | [] => isAscii_nil
  | [item] => isAscii_dumps item
  | item :: next :: items => by
      simp [dumpsItems_cons, isAscii_dumps item, isAscii_dumpsItems (next :: items)]

theorem isAscii_dumpsMembers : ∀ members : List (Text × PyValue), IsAscii (dumpsMembers members)
  | [] => isAscii_nil
  | [(name, item)] => by simp [dumpsMembers, isAscii_quote name, isAscii_dumps item]
  | (name, item) :: next :: members => by
      simp [dumpsMembers_cons, isAscii_quote name, isAscii_dumps item,
        isAscii_dumpsMembers (next :: members)]

end

/-- In the app the text is as long as in the script. -/
theorem utf16Length_dumps (v : PyValue) : utf16Length (dumps v) = (dumps v).length :=
  utf16Length_ascii (isAscii_dumps v)

end JsonText

end ReverseTether
