import BerPiNbiot.Text.Decimal
import Mathlib.Algebra.Order.Ring.Cast
import Mathlib.Algebra.Order.Ring.Rat

/-!
# JSON texts

A reader for the JSON grammar over byte strings.  It accepts exactly the texts of
the grammar: blanks between tokens, numbers without leading zeros and with digits
on both sides of the point, strings without control characters.  A string is kept
as it is written, with its escapes; a number is its exact value.

The results are about texts that print an object of numbers.  `ReadsAs` says that
the text of a value is read as that value wherever it is followed by a separator,
`Broken` that no separator can be found behind it.
-/

namespace BerPiNbiot.Text

/-- A JSON value. -/
inductive Json
  | null
  | bool (value : Bool)
  | number (value : ℚ)
  | string (raw : Bytes)
  | array (items : List Json)
  | object (members : List (Bytes × Json))

/-! ## Numbers -/

/-- A run of digits and the text behind it. -/
def readDigits (text : Bytes) : Option (Bytes × Bytes) :=
  if text.takeWhile isDigit = [] then none
  else some (text.takeWhile isDigit, text.dropWhile isDigit)

/-- The whole part: a zero, or digits that do not begin with one. -/
def readInt : Bytes → Option (Nat × Bytes)
  | 48 :: rest => some (0, rest)
  | text => (readDigits text).map fun (digits, rest) => (digitsValue 0 digits, rest)

/-- The fraction, if there is one. -/
def readFraction : Bytes → Option (ℚ × Bytes)
  | 46 :: rest =>
      (readDigits rest).map fun (digits, rest) =>
        ((digitsValue 0 digits : ℚ) / 10 ^ digits.length, rest)
  | text => some (0, text)

/-- The exponent, if there is one. -/
def readExponent : Bytes → Option (Int × Bytes)
  | [] => some (0, [])
  | byte :: rest =>
      if byte = 101 ∨ byte = 69 then
        (readDigits (splitSign rest).2).map fun (digits, left) =>
          (if (splitSign rest).1 then -(digitsValue 0 digits : Int) else digitsValue 0 digits, left)
      else some (0, byte :: rest)

/-- A number without its sign. -/
def readUnsigned (text : Bytes) : Option (ℚ × Bytes) := do
  let (whole, text) ← readInt text
  let (fraction, text) ← readFraction text
  let (exponent, text) ← readExponent text
  return ((whole + fraction) * 10 ^ exponent, text)

/-- A number and the text behind it. -/
def readNumber : Bytes → Option (ℚ × Bytes)
  | 45 :: rest => (readUnsigned rest).map fun (value, rest) => (-value, rest)
  | text => readUnsigned text

/-! ## Strings -/

/-- The bytes that may stand behind a backslash. -/
def isEscape (byte : UInt8) : Bool :=
  byte = 34 || byte = 92 || byte = 47 || byte = 98 || byte = 102 || byte = 110 || byte = 114 ||
    byte = 116

/-- A string behind its opening quote, and the text behind its closing one. -/
def readString : Bytes → Option (Bytes × Bytes)
  | [] => none
  | 34 :: rest => some ([], rest)
  | 92 :: 117 :: first :: second :: third :: fourth :: rest =>
      if isHexDigit first && isHexDigit second && isHexDigit third && isHexDigit fourth then
        (readString rest).map fun (raw, left) =>
          (92 :: 117 :: first :: second :: third :: fourth :: raw, left)
      else none
  | 92 :: byte :: rest =>
      if isEscape byte then (readString rest).map fun (raw, left) => (92 :: byte :: raw, left)
      else none
  | byte :: rest =>
      if byte < 32 || byte = 92 then none
      else (readString rest).map fun (raw, left) => (byte :: raw, left)

/-! ## Values -/

/-- The white space of a text. -/
def isBlank (byte : UInt8) : Bool :=
  byte = 32 || byte = 9 || byte = 10 || byte = 13

/-- The text without the white space at its beginning. -/
def skipBlanks (text : Bytes) : Bytes :=
  text.dropWhile isBlank

mutual

/-- A value and the text behind it. -/
def readValue : Nat → Bytes → Option (Json × Bytes)
  | 0, _ => none
  | fuel + 1, text =>
      match skipBlanks text with
      | 123 :: rest =>
          match skipBlanks rest with
          | 125 :: rest => some (.object [], rest)
          | rest => (readMembers fuel rest).map fun (members, left) => (.object members, left)
      | 91 :: rest =>
          match skipBlanks rest with
          | 93 :: rest => some (.array [], rest)
          | rest => (readItems fuel rest).map fun (items, left) => (.array items, left)
      | 34 :: rest => (readString rest).map fun (raw, left) => (.string raw, left)
      | 116 :: 114 :: 117 :: 101 :: rest => some (.bool true, rest)
      | 102 :: 97 :: 108 :: 115 :: 101 :: rest => some (.bool false, rest)
      | 110 :: 117 :: 108 :: 108 :: rest => some (.null, rest)
      | rest => (readNumber rest).map fun (value, left) => (.number value, left)

/-- The members of an object from a first one up to the closing brace. -/
def readMembers : Nat → Bytes → Option (List (Bytes × Json) × Bytes)
  | 0, _ => none
  | fuel + 1, text =>
      match skipBlanks text with
      | 34 :: rest =>
          match readString rest with
          | none => none
          | some (name, rest) =>
              match skipBlanks rest with
              | 58 :: rest =>
                  match readValue fuel rest with
                  | none => none
                  | some (value, rest) =>
                      match skipBlanks rest with
                      | 44 :: rest =>
                          (readMembers fuel rest).map fun (members, left) =>
                            ((name, value) :: members, left)
                      | 125 :: rest => some ([(name, value)], rest)
                      | _ => none
              | _ => none
      | _ => none

/-- The items of an array from a first one up to the closing bracket. -/
def readItems : Nat → Bytes → Option (List Json × Bytes)
  | 0, _ => none
  | fuel + 1, text =>
      match readValue fuel text with
      | none => none
      | some (value, rest) =>
          match skipBlanks rest with
          | 44 :: rest => (readItems fuel rest).map fun (items, left) => (value :: items, left)
          | 93 :: rest => some ([value], rest)
          | _ => none

end

/-- The value of a whole text, if it is well-formed.  A pair of brackets is two
bytes for two nested calls and a separator one byte for one, so the length of the
text is fuel enough. -/
def readJson (text : Bytes) : Option Json :=
  match readValue (text.length + 1) text with
  | none => none
  | some (value, rest) => if skipBlanks rest = [] then some value else none

/-! ## Reading numbers -/

/-- The bytes that stand behind the value of a member. -/
def Separates (byte : UInt8) : Prop :=
  byte = 44 ∨ byte = 125

theorem Separates.isDigit_eq_false {sep : UInt8} (separates : Separates sep) :
    isDigit sep = false := by
  rcases separates with rfl | rfl <;> decide

theorem readDigits_append {digits rest : Bytes} {stop : UInt8} (nonempty : digits ≠ [])
    (all : ∀ byte ∈ digits, isDigit byte = true) (stops : isDigit stop = false) :
    readDigits (digits ++ stop :: rest) = some (digits, stop :: rest) := by
  have taken : (digits ++ stop :: rest).takeWhile isDigit = digits := by
    rw [List.takeWhile_append_of_pos all, List.takeWhile_cons_of_neg (by simp [stops]),
      List.append_nil]
  have dropped : (digits ++ stop :: rest).dropWhile isDigit = stop :: rest := by
    rw [List.dropWhile_append_of_pos all, List.dropWhile_cons_of_neg (by simp [stops])]
  rw [readDigits, taken, dropped, if_neg nonempty]

theorem readInt_numeral {digits rest : Bytes} {stop : UInt8} (numeral : Numeral digits)
    (stops : isDigit stop = false) :
    readInt (digits ++ stop :: rest) = some (digitsValue 0 digits, stop :: rest) := by
  by_cases zero : ∃ more, digits = 48 :: more
  · rcases zero with ⟨more, rfl⟩
    rw [numeral.leading more rfl]
    rfl
  · have other : readInt (digits ++ stop :: rest) = (readDigits (digits ++ stop :: rest)).map
        fun (digits, rest) => (digitsValue 0 digits, rest) := by
      cases digits with
      | nil => exact absurd rfl numeral.ne_nil
      | cons first more =>
          rw [List.cons_append, readInt]
          intro tail same
          exact zero ⟨more, by rw [(List.cons.inj same).1]⟩
    rw [other, readDigits_append numeral.ne_nil numeral.isDigit stops]
    rfl

theorem readFraction_separates {rest : Bytes} {sep : UInt8} (separates : Separates sep) :
    readFraction (sep :: rest) = some (0, sep :: rest) := by
  rcases separates with rfl | rfl <;> rfl

theorem readExponent_separates {rest : Bytes} {sep : UInt8} (separates : Separates sep) :
    readExponent (sep :: rest) = some (0, sep :: rest) := by
  rcases separates with rfl | rfl <;> rfl

theorem readUnsigned_numeral {digits rest : Bytes} {sep : UInt8} (numeral : Numeral digits)
    (separates : Separates sep) :
    readUnsigned (digits ++ sep :: rest) = some ((digitsValue 0 digits : ℚ), sep :: rest) := by
  simp [readUnsigned, readInt_numeral numeral separates.isDigit_eq_false,
    readFraction_separates separates, readExponent_separates separates]

theorem readUnsigned_fraction {digits fraction rest : Bytes} {sep : UInt8}
    (numeral : Numeral digits)
    (nonempty : fraction ≠ []) (all : ∀ byte ∈ fraction, isDigit byte = true)
    (separates : Separates sep) :
    readUnsigned (digits ++ 46 :: (fraction ++ sep :: rest)) =
      some ((digitsValue 0 digits : ℚ) + (digitsValue 0 fraction : ℚ) / 10 ^ fraction.length,
        sep :: rest) := by
  have point : readFraction (46 :: (fraction ++ sep :: rest)) =
      some ((digitsValue 0 fraction : ℚ) / 10 ^ fraction.length, sep :: rest) := by
    rw [readFraction, readDigits_append nonempty all separates.isDigit_eq_false]
    rfl
  simp [readUnsigned, readInt_numeral numeral (by decide : isDigit 46 = false), point,
    readExponent_separates separates]

/-- A sign behind the point is not a fraction. -/
theorem readUnsigned_point_sign {digits rest : Bytes} (numeral : Numeral digits) :
    readUnsigned (digits ++ 46 :: 45 :: rest) = none := by
  have point : readFraction (46 :: 45 :: rest) = none := rfl
  simp [readUnsigned, readInt_numeral numeral (by decide : isDigit 46 = false), point]

theorem readNumber_of_ne {first : UInt8} (unsigned : first ≠ 45) (rest : Bytes) :
    readNumber (first :: rest) = readUnsigned (first :: rest) := by
  rw [readNumber]
  intro tail same
  exact unsigned (List.cons.inj same).1

/-- The sign of a printed integer decides the sign of the number. -/
theorem readNumber_printInt (value : Int) (behind : Bytes) :
    readNumber (printInt value ++ behind) =
      (readUnsigned (decimal value.natAbs ++ behind)).map fun (number, rest) =>
        (if value < 0 then -number else number, rest) := by
  unfold printInt
  by_cases negative : value < 0
  · simp only [negative, if_true]
    rfl
  · simp only [negative, if_false]
    cases shape : decimal value.natAbs with
    | nil => exact absurd shape (decimal_ne_nil _)
    | cons first more =>
        have digit := isDigit_not_space (isDigit_of_mem_decimal (shape ▸ List.mem_cons_self))
        rw [List.cons_append, readNumber_of_ne digit.2.1]
        exact Option.map_id'.symm

theorem toNat_of_isDigit {byte : UInt8} (digit : isDigit byte = true) :
    48 ≤ byte.toNat ∧ byte.toNat ≤ 57 := by
  simp only [isDigit, Bool.and_eq_true, decide_eq_true_eq, UInt8.le_iff_toNat_le] at digit
  exact digit

/-- A value that begins with a digit, a sign or a separator is read as a number. -/
theorem readValue_number {first : UInt8} (low : 44 ≤ first.toNat) (high : first.toNat ≤ 57)
    (fuel : Nat) (rest : Bytes) :
    readValue (fuel + 1) (first :: rest) =
      (readNumber (first :: rest)).map fun (value, left) => (.number value, left) := by
  have ne : ∀ byte : UInt8, byte.toNat < 44 ∨ 57 < byte.toNat → first ≠ byte := by
    rintro byte outside rfl
    omega
  have blank : isBlank first = false := by
    simp only [isBlank, Bool.or_eq_false_iff, decide_eq_false_iff_not]
    exact ⟨⟨⟨ne 32 (by decide), ne 9 (by decide)⟩, ne 10 (by decide)⟩, ne 13 (by decide)⟩
  have start : skipBlanks (first :: rest) = first :: rest := by
    rw [skipBlanks, List.dropWhile_cons_of_neg (by simp [blank])]
  rw [readValue, start]
  split
  · rename_i same
    exact absurd (List.cons.inj same).1 (ne 123 (by decide))
  · rename_i same
    exact absurd (List.cons.inj same).1 (ne 91 (by decide))
  · rename_i same
    exact absurd (List.cons.inj same).1 (ne 34 (by decide))
  · rename_i same
    exact absurd (List.cons.inj same).1 (ne 116 (by decide))
  · rename_i same
    exact absurd (List.cons.inj same).1 (ne 102 (by decide))
  · rename_i same
    exact absurd (List.cons.inj same).1 (ne 110 (by decide))
  · rfl

/-! ## Texts of values -/

/-- The text is read as a value wherever a separator stands behind it. -/
def ReadsAs (text : Bytes) (value : Json) : Prop :=
  ∀ fuel sep rest, Separates sep →
    readValue (fuel + 1) (text ++ sep :: rest) = some (value, sep :: rest)

/-- Whatever is read of the text, a digit stands behind it. -/
def Broken (text : Bytes) : Prop :=
  ∀ fuel sep rest, Separates sep → ∀ value left,
    readValue (fuel + 1) (text ++ sep :: rest) = some (value, left) →
      ∃ byte more, left = byte :: more ∧ isDigit byte = true

/-- The first byte of a printed integer. -/
theorem readValue_printInt (fuel : Nat) (value : Int) (behind : Bytes) :
    readValue (fuel + 1) (printInt value ++ behind) =
      (readNumber (printInt value ++ behind)).map fun (number, left) => (.number number, left) := by
  unfold printInt
  split
  · exact readValue_number (by decide) (by decide) fuel _
  · cases shape : decimal value.natAbs with
    | nil => exact absurd shape (decimal_ne_nil _)
    | cons first more =>
        have digit := toNat_of_isDigit (isDigit_of_mem_decimal (shape ▸ List.mem_cons_self))
        exact readValue_number (by omega) digit.2 fuel _

theorem readsAs_numeral {digits : Bytes} (numeral : Numeral digits) :
    ReadsAs digits (.number (digitsValue 0 digits)) := by
  intro fuel sep rest separates
  have read := @readUnsigned_numeral digits rest sep numeral separates
  cases digits with
  | nil => exact absurd rfl numeral.ne_nil
  | cons first more =>
      have digit := numeral.isDigit first List.mem_cons_self
      have range := toNat_of_isDigit digit
      rw [List.cons_append] at read ⊢
      rw [readValue_number (by omega) range.2, readNumber_of_ne (isDigit_not_space digit).2.1, read]
      rfl

theorem readsAs_printInt (value : Int) : ReadsAs (printInt value) (.number value) := by
  intro fuel sep rest separates
  rw [readValue_printInt, readNumber_printInt, readUnsigned_numeral (numeral_decimal _) separates,
    digitsValue_decimal]
  simp only [Option.map_some]
  congr 3
  rw [Nat.cast_natAbs]
  split <;> rename_i sign
  · rw [abs_of_neg sign, Int.cast_neg, neg_neg]
  · rw [abs_of_nonneg (not_lt.mp sign)]

/-- A printed integer with one digit behind the point. -/
theorem readsAs_tenths (value : Int) {tenths : Nat} (small : tenths < 10) :
    ReadsAs (printInt value ++ 46 :: decimal tenths)
      (.number (if value < 0 then -(value.natAbs + tenths / 10 : ℚ)
        else value.natAbs + tenths / 10)) := by
  intro fuel sep rest separates
  have digit : (decimal tenths).length = 1 := by
    have most := length_decimal_le Nat.one_pos (by omega : tenths < 10 ^ 1)
    have least := List.length_pos_iff.mpr (decimal_ne_nil tenths)
    omega
  have read := @readUnsigned_fraction (decimal value.natAbs) (decimal tenths) rest sep
    (numeral_decimal _) (decimal_ne_nil _) (fun _ member => isDigit_of_mem_decimal member) separates
  rw [digitsValue_decimal, digitsValue_decimal, digit, pow_one] at read
  rw [List.append_assoc, readValue_printInt, readNumber_printInt, List.cons_append, read]
  rfl

/-- A sign behind the point. -/
theorem broken_signed_tenths (value : Int) {tenths : Int} (negative : tenths < 0) :
    Broken (printInt value ++ 46 :: printInt tenths) := by
  intro fuel sep rest _ read left same
  have print : printInt tenths = 45 :: decimal tenths.natAbs := if_pos negative
  rw [List.append_assoc, readValue_printInt, readNumber_printInt, print, List.cons_append,
    List.cons_append, readUnsigned_point_sign (numeral_decimal _)] at same
  contradiction

theorem broken_nil : Broken [] := by
  intro fuel sep rest separates read left same
  rcases separates with rfl | rfl
  · rw [List.nil_append, readValue_number (by decide) (by decide)] at same
    contradiction
  · rw [List.nil_append, readValue] at same
    contradiction

/-- A zero in front of other digits. -/
theorem broken_leading_zero {first : UInt8} {more : Bytes} (digit : isDigit first = true) :
    Broken (48 :: first :: more) := by
  intro fuel sep rest separates read left same
  have range := toNat_of_isDigit digit
  have ne : ∀ byte : UInt8, byte.toNat < 48 ∨ 57 < byte.toNat → first ≠ byte := by
    rintro byte outside rfl
    omega
  have fraction : ∀ behind, readFraction (first :: behind) = some (0, first :: behind) := by
    intro behind
    rw [readFraction]
    intro tail same
    exact ne 46 (by decide) (List.cons.inj same).1
  have exponent : ∀ behind, readExponent (first :: behind) = some (0, first :: behind) := by
    intro behind
    rw [readExponent, if_neg]
    rintro (same | same)
    · exact ne 101 (by decide) same
    · exact ne 69 (by decide) same
  have zero : ∀ behind, readInt (48 :: behind) = some (0, behind) := fun _ => rfl
  rw [List.cons_append, List.cons_append, readValue_number (by decide) (by decide),
    readNumber_of_ne (by decide), readUnsigned, zero] at same
  simp only [Option.bind_eq_bind, Option.bind_some, fraction, exponent, Option.map_some,
    Option.pure_def, Option.some.injEq, Prod.mk.injEq] at same
  exact ⟨first, _, same.2.symm, digit⟩

/-! ## Texts of objects -/

/-- Neither a quote nor a backslash nor a control character. -/
def isPlain (byte : UInt8) : Bool :=
  !(byte < 32 || byte = 34 || byte = 92)

/-- A name that is written without escapes. -/
def PlainName (name : Bytes) : Prop :=
  name.all isPlain = true

instance (name : Bytes) : Decidable (PlainName name) :=
  inferInstanceAs (Decidable (_ = true))

theorem readString_plain {name : Bytes} (plain : PlainName name) (rest : Bytes) :
    readString (name ++ 34 :: rest) = some (name, rest) := by
  induction name with
  | nil => rfl
  | cons byte more ih =>
      rw [PlainName, List.all_cons, Bool.and_eq_true] at plain
      rcases plain with ⟨here, later⟩
      simp only [isPlain, Bool.not_eq_true', Bool.or_eq_false_iff, decide_eq_false_iff_not] at here
      rcases here with ⟨⟨printable, quote⟩, backslash⟩
      rw [List.cons_append, readString]
      · rw [if_neg (by simp [printable, backslash]), ih later]
        rfl
      · exact quote
      · intro _ _ _ _ _ same
        exact absurd same backslash
      · intro _ _ same
        exact absurd same backslash

theorem readMembers_member {name : Bytes} (plain : PlainName name) (fuel : Nat) (rest : Bytes) :
    readMembers (fuel + 1) (34 :: (name ++ 34 :: 58 :: rest)) =
      match readValue fuel rest with
      | none => none
      | some (value, rest) =>
          match skipBlanks rest with
          | 44 :: rest =>
              (readMembers fuel rest).map fun (members, left) => ((name, value) :: members, left)
          | 125 :: rest => some ([(name, value)], rest)
          | _ => none := by
  have quote :
      skipBlanks (34 :: (name ++ 34 :: 58 :: rest)) = 34 :: (name ++ 34 :: 58 :: rest) := rfl
  have point : skipBlanks (58 :: rest) = 58 :: rest := rfl
  rw [readMembers, quote]
  simp only [readString_plain plain, point]

/-- The value of a member, followed by another member. -/
theorem readMembers_next {name text : Bytes} {value : Json} (plain : PlainName name)
    (read : ReadsAs text value) (fuel : Nat) (rest : Bytes) :
    readMembers (fuel + 2) (34 :: (name ++ 34 :: 58 :: (text ++ 44 :: rest))) =
      (readMembers (fuel + 1) rest).map fun (members, left) =>
        ((name, value) :: members, left) := by
  rw [readMembers_member plain, read fuel 44 rest (Or.inl rfl)]
  rfl

/-- The value of the last member. -/
theorem readMembers_last {name text : Bytes} {value : Json} (plain : PlainName name)
    (read : ReadsAs text value) (fuel : Nat) (rest : Bytes) :
    readMembers (fuel + 2) (34 :: (name ++ 34 :: 58 :: (text ++ 125 :: rest))) =
      some ([(name, value)], rest) := by
  rw [readMembers_member plain, read fuel 125 rest (Or.inr rfl)]
  rfl

/-- No member can be read off a broken text. -/
theorem readMembers_broken {name text : Bytes} {sep : UInt8} (plain : PlainName name)
    (broken : Broken text) (separates : Separates sep) (fuel : Nat) (rest : Bytes) :
    readMembers (fuel + 2) (34 :: (name ++ 34 :: 58 :: (text ++ sep :: rest))) = none := by
  rw [readMembers_member plain]
  cases read : readValue (fuel + 1) (text ++ sep :: rest) with
  | none => rfl
  | some result =>
      rcases result with ⟨value, left⟩
      rcases broken fuel sep rest separates value left read with ⟨byte, more, rfl, digit⟩
      have range := toNat_of_isDigit digit
      have ne : ∀ other : UInt8, other.toNat < 48 ∨ 57 < other.toNat → byte ≠ other := by
        rintro other outside rfl
        omega
      have start : skipBlanks (byte :: more) = byte :: more := by
        rw [skipBlanks, List.dropWhile_cons_of_neg]
        simp only [isBlank, Bool.or_eq_true, decide_eq_true_eq, not_or]
        exact ⟨⟨⟨ne 32 (by decide), ne 9 (by decide)⟩, ne 10 (by decide)⟩, ne 13 (by decide)⟩
      simp only [start]
      split
      · rename_i same
        exact absurd (List.cons.inj same).1 (ne 44 (by decide))
      · rename_i same
        exact absurd (List.cons.inj same).1 (ne 125 (by decide))
      · rfl

/-- A member of an object: its name, the text of its value and the value meant. -/
structure Member where
  name : Bytes
  text : Bytes
  value : Json

/-- The text of the member is read as the value meant. -/
def Member.Reads (field : Member) : Prop :=
  PlainName field.name ∧ ReadsAs field.text field.value

/-- The members of an object, as they are printed between the braces. -/
def membersText : List Member → Bytes
  | [] => []
  | [field] => 34 :: (field.name ++ 34 :: 58 :: field.text)
  | field :: rest => 34 :: (field.name ++ 34 :: 58 :: (field.text ++ 44 :: membersText rest))

/-- The text of an object. -/
def objectText (fields : List Member) : Bytes :=
  123 :: (membersText fields ++ [125])

/-- The object that the fields mean. -/
def objectValue (fields : List Member) : Json :=
  .object (fields.map fun field => (field.name, field.value))

/-- An object whose values are all read. -/
theorem readMembers_of_reads {fields : List Member} (nonempty : fields ≠ [])
    (reads : ∀ field ∈ fields, field.Reads) (fuel : Nat) (tail : Bytes) :
    readMembers (fuel + fields.length + 1) (membersText fields ++ 125 :: tail) =
      some (fields.map fun field => (field.name, field.value), tail) := by
  induction fields with
  | nil => contradiction
  | cons field rest ih =>
      rcases reads field List.mem_cons_self with ⟨plain, read⟩
      cases rest with
      | nil =>
          simp only [membersText, List.cons_append, List.append_assoc]
          exact readMembers_last plain read fuel tail
      | cons next more =>
          have later := ih (List.cons_ne_nil next more) fun field member =>
            reads field (List.mem_cons_of_mem _ member)
          simp only [membersText, List.cons_append, List.append_assoc]
          rw [List.length_cons, ← Nat.add_assoc, readMembers_next plain read, later]
          rfl

/-- An object with a broken value behind values that are read. -/
theorem readMembers_of_broken {before after : List Member} {field : Member}
    (reads : ∀ field ∈ before, field.Reads)
    (plain : PlainName field.name) (broken : Broken field.text) (fuel : Nat) (tail : Bytes) :
    readMembers (fuel + before.length + 2)
      (membersText (before ++ field :: after) ++ 125 :: tail) = none := by
  induction before with
  | nil =>
      cases after with
      | nil =>
          simp only [List.nil_append, membersText, List.cons_append, List.append_assoc]
          exact readMembers_broken plain broken (Or.inr rfl) _ _
      | cons next more =>
          simp only [List.nil_append, membersText, List.cons_append, List.append_assoc]
          exact readMembers_broken plain broken (Or.inl rfl) _ _
  | cons first rest ih =>
      have later := ih fun field member => reads field (List.mem_cons_of_mem _ member)
      rcases reads first List.mem_cons_self with ⟨plainFirst, readFirst⟩
      cases shape : rest ++ field :: after with
      | nil => simp at shape
      | cons next more =>
          rw [shape] at later
          simp only [List.cons_append, shape, membersText, List.append_assoc]
          rw [List.length_cons, ← Nat.add_assoc, readMembers_next plainFirst readFirst, later]
          rfl

theorem length_le_length_membersText (fields : List Member) :
    fields.length ≤ (membersText fields).length := by
  induction fields with
  | nil => exact Nat.zero_le _
  | cons field rest ih =>
      cases rest with
      | nil => simp [membersText]
      | cons next more =>
          simp only [membersText, List.length_cons, List.length_append] at ih ⊢
          omega

/-- Behind the opening brace stands a quote. -/
theorem readValue_members (fuel : Nat) (rest : Bytes) :
    readValue (fuel + 1) (123 :: 34 :: rest) =
      (readMembers fuel (34 :: rest)).map fun (members, left) => (.object members, left) := by
  have brace : skipBlanks (123 :: 34 :: rest) = 123 :: 34 :: rest := rfl
  have quote : skipBlanks (34 :: rest) = 34 :: rest := rfl
  rw [readValue, brace]
  simp only [quote]
  rfl

/-- The text of an object is read through its members. -/
theorem readJson_objectText {fields : List Member} (nonempty : fields ≠ []) :
    readJson (objectText fields) =
      match readMembers ((membersText fields).length + 2) (membersText fields ++ [125]) with
      | none => none
      | some (members, rest) => if skipBlanks rest = [] then some (.object members) else none := by
  have start : ∃ rest, membersText fields ++ [125] = 34 :: rest := by
    cases fields with
    | nil => contradiction
    | cons field rest =>
        cases rest with
        | nil => exact ⟨_, rfl⟩
        | cons next more => exact ⟨_, rfl⟩
  have length : (objectText fields).length = (membersText fields).length + 2 := by
    simp [objectText]
  rcases start with ⟨rest, start⟩
  rw [readJson, length, objectText, start, readValue_members]
  cases readMembers ((membersText fields).length + 2) (34 :: rest) <;> rfl

/-- A printed object whose values are all read is well-formed and carries them. -/
theorem readJson_of_reads {fields : List Member} (nonempty : fields ≠ [])
    (reads : ∀ field ∈ fields, field.Reads) :
    readJson (objectText fields) = some (objectValue fields) := by
  have enough := length_le_length_membersText fields
  have fuel : (membersText fields).length + 2 =
      (membersText fields).length - fields.length + 1 + fields.length + 1 := by
    omega
  rw [readJson_objectText nonempty, fuel, readMembers_of_reads nonempty reads]
  rfl

/-- A printed object with a broken value is not well-formed. -/
theorem readJson_of_broken {before after : List Member} {field : Member}
    (reads : ∀ field ∈ before, field.Reads)
    (plain : PlainName field.name) (broken : Broken field.text) :
    readJson (objectText (before ++ field :: after)) = none := by
  have enough := length_le_length_membersText (before ++ field :: after)
  rw [List.length_append, List.length_cons] at enough
  have fuel : (membersText (before ++ field :: after)).length + 2 =
      (membersText (before ++ field :: after)).length - before.length + before.length + 2 := by
    omega
  rw [readJson_objectText (by simp), fuel, readMembers_of_broken reads plain broken]

end BerPiNbiot.Text
