import ReverseTether.Library.Binary64
import ReverseTether.Consent
import ReverseTether.PythonText

/-!
# Reading JSON

`parse` is the `JSON.parse` of the app, for any text: white space, the literals, strings with all
their escapes, numbers with a fraction and an exponent, which become doubles, arrays and objects.
A string is a list of UTF-16 code units first, as the escapes are, and `decode` makes characters
of them.

The reader of values has fuel.  Every character takes two units of it at most, so that `parse`
gives as much as there is use for (`readValue_eq`).

A lone surrogate is no character, and what the source language keeps as a code unit becomes
the replacement character here, in the one place where strings of the two kinds meet.  Objects
keep their members in order, the later one of two with the same name being the one that a
lookup finds.

Numbers are read as exact decimals first and then rounded once, to the nearest double, as the
standard of the language asks for; a number beyond the largest double becomes infinite.  The
readers return what is left of the text, and each is total, so that a text that is no JSON is
rejected and never loops.
-/

namespace ReverseTether

/-- The double that a numeral stands for. -/
def JsNumber.ofRat (q : ℚ) : JsNumber :=
  match Library.binary64 q with
  | some value => .finite value
  | none => .infinite (q < 0)

/-- An integer of at most 53 bits is a number of its own. -/
theorem JsNumber.ofRat_intCast {z : ℤ} (bits : |z| < 2 ^ 53) : ofRat z = .finite z := by
  unfold ofRat
  rw [Library.binary64_intCast bits]

/-- `!value` is false of it. -/
def Json.isTruthy : Json → Bool
  | .null => false
  | .bool value => value
  | .number (.finite value) => value ≠ 0
  | .number (.infinite _) => true
  | .number .nan => false
  | .string value => value ≠ ""
  | .array _ | .object _ => true

namespace JsonText

/-! ## Code units -/

/-- The UTF-16 of a character: one unit, or two surrogates beyond the basic plane. -/
def units (c : Char) : List ℕ :=
  if c.toNat < 0x10000 then [c.toNat]
  else [0xd800 + (c.toNat - 0x10000) / 0x400, 0xdc00 + (c.toNat - 0x10000) % 0x400]

/-- `text.length` in the app. -/
def utf16Length (text : Text) : ℕ := (text.flatMap units).length

/-- The unit is the first one of a pair. -/
def isHighSurrogate (unit : ℕ) : Bool := 0xd800 ≤ unit && unit < 0xdc00

/-- The unit is the second one of a pair. -/
def isLowSurrogate (unit : ℕ) : Bool := 0xdc00 ≤ unit && unit < 0xe000

/-- The characters of a string.  A surrogate without its partner is not a character, and stands
as the replacement character. -/
def decode : List ℕ → List Char
  | [] => []
  | [unit] =>
      [if isHighSurrogate unit || isLowSurrogate unit then '\uFFFD' else Char.ofNat unit]
  | unit :: next :: rest =>
      if isHighSurrogate unit && isLowSurrogate next then
        Char.ofNat (0x10000 + (unit - 0xd800) * 0x400 + (next - 0xdc00)) :: decode rest
      else if isHighSurrogate unit || isLowSurrogate unit then
        '\uFFFD' :: decode (next :: rest)
      else Char.ofNat unit :: decode (next :: rest)

/-! ## Reading -/

/-- The four blanks of JSON, which are fewer than those of a language. -/
def isSpace (c : Char) : Bool := c = ' ' || c = '\t' || c = '\n' || c = '\r'

/-- What follows the blanks at the beginning of the text. -/
def skip (text : Text) : Text := text.dropWhile isSpace

/-- The value of a hexadecimal digit, in either case. -/
def hexValue (c : Char) : Option ℕ :=
  if '0' ≤ c ∧ c ≤ '9' then some (c.toNat - '0'.toNat)
  else if 'a' ≤ c ∧ c ≤ 'f' then some (c.toNat - 'a'.toNat + 10)
  else if 'A' ≤ c ∧ c ≤ 'F' then some (c.toNat - 'A'.toNat + 10)
  else none

/-- The code unit of `\uXXXX`. -/
def hexUnit (digits : Text) : Option ℕ :=
  digits.foldlM (fun unit c => (hexValue c).map (16 * unit + ·)) 0

/-- The code unit of an escape of one letter. -/
def letterUnit : Char → Option ℕ
  | '"' => some 0x22
  | '\\' => some 0x5c
  | '/' => some 0x2f
  | 'b' => some 0x08
  | 'f' => some 0x0c
  | 'n' => some 0x0a
  | 'r' => some 0x0d
  | 't' => some 0x09
  | _ => none

/-- The rest of a string behind its first quote. -/
def readUnits : Text → Option (List ℕ × Text)
  | '"' :: rest => some ([], rest)
  | '\\' :: 'u' :: a :: b :: c :: d :: rest =>
      match hexUnit [a, b, c, d], readUnits rest with
      | some unit, some (string, rest) => some (unit :: string, rest)
      | _, _ => none
  | '\\' :: c :: rest =>
      match letterUnit c, readUnits rest with
      | some unit, some (string, rest) => some (unit :: string, rest)
      | _, _ => none
  | c :: rest =>
      -- a control character must be escaped
      if c.toNat < 0x20 then none
      else (readUnits rest).map fun (string, rest) => (units c ++ string, rest)
  | [] => none

/-- A string whose first quotation mark has been read: its characters, and the text behind the
second one. -/
def readString (text : Text) : Option (String × Text) :=
  (readUnits text).map fun (string, rest) => (String.ofList (decode string), rest)

/-- The digits at the head of a text. -/
def digits (text : Text) : Text := text.takeWhile Char.isDigit

/-- What follows the digits at the beginning of the text. -/
def afterDigits (text : Text) : Text := text.dropWhile Char.isDigit

/-- The number that the digits are, in base ten. -/
def value (digits : Text) : ℕ := Nat.ofDigitChars 10 digits 0

/-- The digits behind a point, of which there has to be one; no point is no fraction. -/
def readFraction : Text → Option (ℚ × Text)
  | '.' :: rest =>
      if digits rest = [] then none
      else some (value (digits rest) / 10 ^ (digits rest).length, afterDigits rest)
  | text => some (0, text)

/-- The exponent, with its sign; a number without one has the exponent zero. -/
def readExponent (text : Text) : Option (ℤ × Text) :=
  let unsigned (rest : Text) : Option (ℕ × Text) :=
    if digits rest = [] then none else some (value (digits rest), afterDigits rest)
  match text with
  | 'e' :: '-' :: rest | 'E' :: '-' :: rest =>
      (unsigned rest).map fun (exponent, rest) => (-(exponent : ℤ), rest)
  | 'e' :: '+' :: rest | 'E' :: '+' :: rest | 'e' :: rest | 'E' :: rest =>
      (unsigned rest).map fun (exponent, rest) => ((exponent : ℤ), rest)
  | text => some (0, text)

/-- A numeral without its sign. -/
def readUnsigned (text : Text) : Option (ℚ × Text) :=
  let whole := digits text
  -- a leading zero stands alone
  if whole = [] ∨ (whole.head? = some '0' ∧ 1 < whole.length) then none
  else
    (readFraction (afterDigits text)).bind fun (fraction, rest) =>
      (readExponent rest).map fun (exponent, rest) =>
        ((value whole + fraction) * 10 ^ exponent, rest)

/-- A number, rounded to the nearest one that JavaScript has once all of it is read. -/
def readNumber : Text → Option (JsNumber × Text)
  | '-' :: rest => (readUnsigned rest).map fun (value, rest) => (.ofRat (-value), rest)
  | text => (readUnsigned text).map fun (value, rest) => (.ofRat value, rest)

/-- What is neither a string nor an array nor an object. -/
def readScalar : Text → Option (Json × Text)
  | 'n' :: 'u' :: 'l' :: 'l' :: rest => some (.null, rest)
  | 't' :: 'r' :: 'u' :: 'e' :: rest => some (.bool true, rest)
  | 'f' :: 'a' :: 'l' :: 's' :: 'e' :: rest => some (.bool false, rest)
  | text => (readNumber text).map fun (value, rest) => (.number value, rest)

mutual

/-- A value, and what follows it.  The fuel is spent on the nesting and on the items alike; `parse`
gives more of it than any text can use. -/
def readValue : ℕ → Text → Option (Json × Text)
  | 0, _ => none
  | fuel + 1, text =>
      match skip text with
      | '"' :: rest => (readString rest).map fun (string, rest) => (.string string, rest)
      | '[' :: rest =>
          match skip rest with
          | ']' :: rest => some (.array [], rest)
          | rest => (readItems fuel rest).map fun (items, rest) => (.array items, rest)
      | '\x7b' :: rest =>
          match skip rest with
          | '\x7d' :: rest => some (.object [], rest)
          | rest => (readMembers fuel rest).map fun (members, rest) => (.object members, rest)
      | text => readScalar text

/-- The items of an array that has one, and its bracket. -/
def readItems : ℕ → Text → Option (List Json × Text)
  | 0, _ => none
  | fuel + 1, text =>
      (readValue fuel text).bind fun (item, rest) =>
        match skip rest with
        | ',' :: rest => (readItems fuel rest).map fun (items, rest) => (item :: items, rest)
        | ']' :: rest => some ([item], rest)
        | _ => none

/-- The members of an object that has one, and its brace. -/
def readMembers : ℕ → Text → Option (List (String × Json) × Text)
  | 0, _ => none
  | fuel + 1, text =>
      match skip text with
      | '"' :: rest =>
          (readString rest).bind fun (name, rest) =>
            match skip rest with
            | ':' :: rest =>
                (readValue fuel rest).bind fun (item, rest) =>
                  match skip rest with
                  | ',' :: rest =>
                      (readMembers fuel rest).map fun (members, rest) =>
                        ((name, item) :: members, rest)
                  | '\x7d' :: rest => some ([(name, item)], rest)
                  | _ => none
            | _ => none
      | _ => none

end

/-- `JSON.parse(text)`, which throws where there is nothing. -/
def parse (text : Text) : Option Json :=
  match readValue (2 * text.length) text with
  | some (value, rest) => if skip rest = [] then some value else none
  | none => none

/-! ## The fuel is enough

No reader leaves more than it was given, and behind a bracket or a comma there is less.  So two
fuel a character are never used up, and more fuel reads no more. -/

/-- A reader behind a map has read what the map has read. -/
theorem exists_of_map {α β : Type} {read : Option (α × Text)} {f : α × Text → β × Text}
    {result : β} {rest : Text} (mapped : read.map f = some (result, rest))
    (keeps : ∀ value, (f value).2 = value.2) : ∃ value, read = some (value, rest) := by
  obtain ⟨⟨value, behind⟩, first, same⟩ := Option.map_eq_some_iff.mp mapped
  have kept : (f (value, behind)).2 = behind := keeps (value, behind)
  rw [same] at kept
  obtain rfl : rest = behind := kept
  exact ⟨value, first⟩

section

variable {text rest : Text}

/-- Skipping blanks leaves no more than there was. -/
theorem skip_length (text : Text) : (skip text).length ≤ text.length :=
  (List.dropWhile_suffix isSpace).length_le

/-- Neither do digits. -/
theorem afterDigits_length (text : Text) : (afterDigits text).length ≤ text.length :=
  (List.dropWhile_suffix Char.isDigit).length_le

/-- Neither does a string. -/
theorem readUnits_length {string : List ℕ} (read : readUnits text = some (string, rest)) :
    rest.length ≤ text.length := by
  fun_induction readUnits text generalizing string rest with
  | case1 text =>
      obtain ⟨-, rfl⟩ := Prod.mk.inj (Option.some.inj read)
      exact Nat.le_succ _
  | case2 a b c d text unit string last more escaped ih =>
      obtain ⟨-, rfl⟩ := Prod.mk.inj (Option.some.inj read)
      exact (ih more).trans (by simp only [List.length_cons]; omega)
  | case4 c text other unit string last more escaped ih =>
      obtain ⟨-, rfl⟩ := Prod.mk.inj (Option.some.inj read)
      exact (ih more).trans (by simp only [List.length_cons]; omega)
  | case7 c text _ _ _ _ ih =>
      obtain ⟨string, more⟩ := exists_of_map read fun _ => rfl
      exact (ih more).trans (Nat.le_succ _)
  | case3 | case5 | case6 | case8 => cases read

/-- The same for a string as a string. -/
theorem readString_length {string : String} (read : readString text = some (string, rest)) :
    rest.length ≤ text.length := by
  obtain ⟨units, read⟩ := exists_of_map read fun _ => rfl
  exact readUnits_length read

/-- A fraction, if there is one. -/
theorem readFraction_length {fraction : ℚ} (read : readFraction text = some (fraction, rest)) :
    rest.length ≤ text.length := by
  unfold readFraction at read
  split at read
  · next text =>
      split at read
      · cases read
      · obtain ⟨-, rfl⟩ := Prod.mk.inj (Option.some.inj read)
        exact (afterDigits_length text).trans (Nat.le_succ _)
  · obtain ⟨-, rfl⟩ := Prod.mk.inj (Option.some.inj read)
    exact le_rfl

/-- An exponent, if there is one. -/
theorem readExponent_length {exponent : ℤ} (read : readExponent text = some (exponent, rest)) :
    rest.length ≤ text.length := by
  have shorter := afterDigits_length
  unfold readExponent at read
  grind

/-- A number without its sign. -/
theorem readUnsigned_length {value : ℚ} (read : readUnsigned text = some (value, rest)) :
    rest.length ≤ text.length := by
  unfold readUnsigned at read
  simp only at read
  split at read
  · cases read
  · obtain ⟨⟨fraction, behind⟩, first, read⟩ := Option.bind_eq_some_iff.mp read
    obtain ⟨exponent, second⟩ := exists_of_map read fun _ => rfl
    calc rest.length ≤ behind.length := readExponent_length second
      _ ≤ (afterDigits text).length := readFraction_length first
      _ ≤ text.length := afterDigits_length text

/-- A number. -/
theorem readNumber_length {value : JsNumber} (read : readNumber text = some (value, rest)) :
    rest.length ≤ text.length := by
  unfold readNumber at read
  split at read
  · obtain ⟨number, read⟩ := exists_of_map read fun _ => rfl
    exact (readUnsigned_length read).trans (Nat.le_succ _)
  · obtain ⟨number, read⟩ := exists_of_map read fun _ => rfl
    exact readUnsigned_length read

/-- A value that is neither an array nor an object. -/
theorem readScalar_length {value : Json} (read : readScalar text = some (value, rest)) :
    rest.length ≤ text.length := by
  unfold readScalar at read
  split at read
  iterate 3
    · obtain ⟨-, rfl⟩ := Prod.mk.inj (Option.some.inj read)
      simp only [List.length_cons]
      omega
  · obtain ⟨number, read⟩ := exists_of_map read fun _ => rfl
    exact readNumber_length read

end

mutual

/-- **Reading a value leaves no more than there was**, whatever the fuel.  Every reader of the
parser takes a part of the front, and this is what makes the fuel count down with the text. -/
theorem readValue_length : ∀ (fuel : ℕ) {text rest : Text} {value : Json},
    readValue fuel text = some (value, rest) → rest.length ≤ text.length
  | 0, _, _, _, read => nomatch read
  | fuel + 1, text, rest, value, read => by
      have skipped := skip_length text
      rw [readValue] at read
      split at read
      · next behind quote =>
          obtain ⟨string, read⟩ := exists_of_map read fun _ => rfl
          have left := readString_length read
          grind
      · next behind bracket =>
          have inside := skip_length behind
          split at read
          · grind
          · obtain ⟨items, read⟩ := exists_of_map read fun _ => rfl
            have left := readItems_length fuel read
            grind
      · next behind brace =>
          have inside := skip_length behind
          split at read
          · grind
          · obtain ⟨members, read⟩ := exists_of_map read fun _ => rfl
            have left := readMembers_length fuel read
            grind
      · exact (readScalar_length read).trans skipped

/-- The same for the items of an array. -/
theorem readItems_length : ∀ (fuel : ℕ) {text rest : Text} {items : List Json},
    readItems fuel text = some (items, rest) → rest.length ≤ text.length
  | 0, _, _, _, read => nomatch read
  | fuel + 1, text, rest, items, read => by
      rw [readItems] at read
      obtain ⟨⟨item, behind⟩, first, read⟩ := Option.bind_eq_some_iff.mp read
      have valued := readValue_length fuel first
      have skipped := skip_length behind
      simp only at read
      split at read
      · next more comma =>
          obtain ⟨items, read⟩ := exists_of_map read fun _ => rfl
          have left := readItems_length fuel read
          grind
      · grind
      · cases read

/-- The same for the members of an object. -/
theorem readMembers_length : ∀ (fuel : ℕ) {text rest : Text} {members : List (String × Json)},
    readMembers fuel text = some (members, rest) → rest.length ≤ text.length
  | 0, _, _, _, read => nomatch read
  | fuel + 1, text, rest, members, read => by
      have skipped := skip_length text
      rw [readMembers] at read
      split at read
      · next behind quote =>
          obtain ⟨⟨name, named⟩, first, read⟩ := Option.bind_eq_some_iff.mp read
          have stringLeft := readString_length first
          have colonLeft := skip_length named
          simp only at read
          split at read
          · next valueText colon =>
              obtain ⟨⟨item, last⟩, second, read⟩ := Option.bind_eq_some_iff.mp read
              have valueLeft := readValue_length fuel second
              have commaLeft := skip_length last
              simp only at read
              split at read
              · next more comma =>
                  obtain ⟨members, read⟩ := exists_of_map read fun _ => rfl
                  have left := readMembers_length fuel read
                  grind
              · grind
              · cases read
          · cases read
      · cases read

end

mutual

/-- **More fuel than twice the text changes nothing**: every call with less fuel has less text, or
has just entered an array or an object.  So the parser that the model runs, with fuel from the
length, is the one that has no bound. -/
theorem readValue_fuel : ∀ (fuel : ℕ) (text : Text), 2 * text.length ≤ fuel →
    readValue (fuel + 1) text = readValue fuel text
  | 0, text, enough => by
      obtain rfl : text = [] := List.eq_nil_of_length_eq_zero (by omega)
      rfl
  | fuel + 1, text, enough => by
      have skipped := skip_length text
      rw [readValue.eq_2 text (fuel + 1), readValue.eq_2 text fuel]
      split
      · rfl
      · next behind bracket =>
          have inside := skip_length behind
          have items : readItems (fuel + 1) (skip behind) = readItems fuel (skip behind) := by
            apply readItems_fuel fuel
            rw [bracket, List.length_cons] at skipped
            omega
          generalize skip behind = inner at items ⊢
          split
          · rfl
          · rw [items]
      · next behind brace =>
          have inside := skip_length behind
          have members : readMembers (fuel + 1) (skip behind) = readMembers fuel (skip behind) := by
            apply readMembers_fuel fuel
            rw [brace, List.length_cons] at skipped
            omega
          generalize skip behind = inner at members ⊢
          split
          · rfl
          · rw [members]
      · rfl

/-- The same for the items of an array. -/
theorem readItems_fuel : ∀ (fuel : ℕ) (text : Text), 2 * text.length + 1 ≤ fuel →
    readItems (fuel + 1) text = readItems fuel text
  | fuel + 1, text, enough => by
      have value := readValue_fuel fuel text (by omega)
      rw [readItems.eq_2 text (fuel + 1), readItems.eq_2 text fuel, value]
      apply Option.bind_congr
      intro ⟨item, behind⟩ read
      have left := readValue_length fuel read
      have skipped := skip_length behind
      simp only
      split
      · next more comma =>
          have items : readItems (fuel + 1) more = readItems fuel more := by
            apply readItems_fuel fuel
            rw [comma, List.length_cons] at skipped
            omega
          rw [items]
      · rfl
      · rfl

/-- The same for the members of an object. -/
theorem readMembers_fuel : ∀ (fuel : ℕ) (text : Text), 2 * text.length + 1 ≤ fuel →
    readMembers (fuel + 1) text = readMembers fuel text
  | fuel + 1, text, enough => by
      have skipped := skip_length text
      rw [readMembers.eq_2 text (fuel + 1), readMembers.eq_2 text fuel]
      split
      · next behind quote =>
          rw [quote, List.length_cons] at skipped
          apply Option.bind_congr
          intro ⟨name, named⟩ read
          have nameLeft := readString_length read
          have colonLeft := skip_length named
          simp only
          split
          · next valueText colon =>
              rw [colon, List.length_cons] at colonLeft
              rw [readValue_fuel fuel valueText (by omega)]
              apply Option.bind_congr
              intro ⟨item, last⟩ second
              have valueLeft := readValue_length fuel second
              have commaLeft := skip_length last
              simp only
              split
              · next more comma =>
                  have members : readMembers (fuel + 1) more = readMembers fuel more := by
                    apply readMembers_fuel fuel
                    rw [comma, List.length_cons] at commaLeft
                    omega
                  rw [members]
              · rfl
              · rfl
          · rfl
      · rfl

end

/-- More fuel than `parse` gives reads the same. -/
theorem readValue_eq {text : Text} {fuel : ℕ} (enough : 2 * text.length ≤ fuel) :
    readValue fuel text = readValue (2 * text.length) text := by
  induction fuel, enough using Nat.le_induction with
  | base => rfl
  | succ fuel enough ih => rw [readValue_fuel fuel text enough, ih]

end JsonText

end ReverseTether
