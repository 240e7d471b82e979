import BerPiNbiot.Text.Search
import Mathlib.Algebra.Ring.Nat
import Mathlib.Data.List.TakeWhile

/-!
# Decimal numerals and `atoi`

`decimal` prints a natural number, `atoi` reads the longest decimal prefix of a
text.  As in a C library with 32-bit `long`, the value is clamped at the ends
of the `int` range.
-/

namespace BerPiNbiot.Text

/-- The largest value of a 32-bit `int`. -/
def intMax : Int := 2147483647

/-- The smallest value of a 32-bit `int`. -/
def intMin : Int := -2147483648

/-- The bytes that `isspace` accepts. -/
def isSpace (byte : UInt8) : Bool :=
  byte = 32 || (9 ≤ byte && byte ≤ 13)

/-- The bytes that `isdigit` accepts. -/
def isDigit (byte : UInt8) : Bool :=
  48 ≤ byte && byte ≤ 57

/-- The bytes that `isxdigit` accepts. -/
def isHexDigit (byte : UInt8) : Bool :=
  isDigit byte || (65 ≤ byte && byte ≤ 70) || (97 ≤ byte && byte ≤ 102)

/-- Value of a run of digits, continuing from the value read so far. -/
def digitsValue (value : Nat) (digits : Bytes) : Nat :=
  digits.foldl (fun value byte => 10 * value + (byte.toNat - 48)) value

/-- Split an optional sign off a numeral. -/
def splitSign : Bytes → Bool × Bytes
  | 45 :: rest => (true, rest)
  | 43 :: rest => (false, rest)
  | text => (false, text)

/-- `strtol(text, NULL, 10)` with 32-bit `long`: skip blanks, read an optional
sign and the digits behind it, and clamp. -/
def atoi (text : Bytes) : Int :=
  let (negative, body) := splitSign (text.dropWhile isSpace)
  let value : Int := digitsValue 0 (body.takeWhile isDigit)
  if negative then max intMin (-value) else min intMax value

/-- The decimal numeral of a natural number. -/
def decimal (n : Nat) : Bytes :=
  (Nat.toDigits 10 n).map fun char => UInt8.ofNat char.toNat

/-- The text that `%d` prints. -/
def printInt (value : Int) : Bytes :=
  if value < 0 then 45 :: decimal value.natAbs else decimal value.natAbs

theorem decimal_ne_nil (n : Nat) : decimal n ≠ [] := by
  simp [decimal, Nat.toDigits_ne_nil]

private theorem isDigit_ofChar {char : Char} (digit : char.isDigit = true) :
    isDigit (UInt8.ofNat char.toNat) = true ∧
      (UInt8.ofNat char.toNat).toNat - 48 = char.toNat - 48 := by
  simp only [Char.isDigit, Bool.and_eq_true, decide_eq_true_eq] at digit
  have low : 48 ≤ char.toNat := digit.1
  have high : char.toNat ≤ 57 := digit.2
  have small : (UInt8.ofNat char.toNat).toNat = char.toNat := by
    simp only [UInt8.toNat_ofNat']
    omega
  refine ⟨?_, by rw [small]⟩
  simp only [isDigit, Bool.and_eq_true, decide_eq_true_eq, UInt8.le_iff_toNat_le, small]
  exact ⟨low, high⟩

/-- A decimal numeral consists of digits. -/
theorem isDigit_of_mem_decimal {n : Nat} {byte : UInt8} (member : byte ∈ decimal n) :
    isDigit byte = true := by
  simp only [decimal, List.mem_map] at member
  rcases member with ⟨char, charMem, rfl⟩
  exact (isDigit_ofChar (Nat.isDigit_of_mem_toDigits (by decide) (by decide) charMem)).1

theorem digitsValue_map_ofChar (value : Nat) (chars : List Char)
    (digits : ∀ char ∈ chars, char.isDigit = true) :
    digitsValue value (chars.map fun char => UInt8.ofNat char.toNat) =
      Nat.ofDigitChars 10 chars value := by
  induction chars generalizing value with
  | nil => simp [digitsValue]
  | cons char rest ih =>
      have headDigit := (isDigit_ofChar (digits char List.mem_cons_self)).2
      rw [Nat.ofDigitChars_cons, ← ih _ fun other member =>
        digits other (List.mem_cons_of_mem char member)]
      simp only [digitsValue, List.map_cons, List.foldl_cons, headDigit]
      rfl

/-- Reading the digits of a numeral gives the number back. -/
theorem digitsValue_decimal (n : Nat) : digitsValue 0 (decimal n) = n := by
  rw [decimal, digitsValue_map_ofChar]
  · exact Nat.ofDigitChars_ten_toDigits
  · intro char member
    exact Nat.isDigit_of_mem_toDigits (by decide) (by decide) member

theorem digitsValue_lt (value : Nat) {digits : Bytes}
    (all : ∀ byte ∈ digits, isDigit byte = true) :
    digitsValue value digits < (value + 1) * 10 ^ digits.length := by
  induction digits generalizing value with
  | nil => simp [digitsValue]
  | cons byte rest ih =>
      have digit := all byte List.mem_cons_self
      simp only [isDigit, Bool.and_eq_true, decide_eq_true_eq, UInt8.le_iff_toNat_le] at digit
      have high : byte.toNat ≤ 57 := digit.2
      have rest := ih (10 * value + (byte.toNat - 48)) fun other member =>
        all other (List.mem_cons_of_mem byte member)
      have bound : 10 * value + (byte.toNat - 48) + 1 ≤ (value + 1) * 10 := by omega
      rw [List.length_cons, Nat.pow_succ, Nat.mul_comm (10 ^ _) 10, ← Nat.mul_assoc]
      exact rest.trans_le (Nat.mul_le_mul_right _ bound)

/-- A numeral of the decimal grammar: digits, with no zero in front of others. -/
structure Numeral (digits : Bytes) : Prop where
  ne_nil : digits ≠ []
  isDigit : ∀ byte ∈ digits, isDigit byte = true
  leading : ∀ rest, digits = 48 :: rest → rest = []

theorem length_decimal_le_iff {n k : Nat} (positive : 0 < k) :
    (decimal n).length ≤ k ↔ n < 10 ^ k := by
  rw [decimal, List.length_map]
  exact Nat.length_toDigits_le_iff (by decide) positive

theorem length_decimal_le {n k : Nat} (positive : 0 < k) (bounded : n < 10 ^ k) :
    (decimal n).length ≤ k :=
  (length_decimal_le_iff positive).mpr bounded

theorem numeral_decimal (n : Nat) : Numeral (decimal n) where
  ne_nil := decimal_ne_nil n
  isDigit _ member := isDigit_of_mem_decimal member
  leading rest shape := by
    by_contra more
    have digits : ∀ byte ∈ rest, isDigit byte = true := by
      intro byte member
      apply @isDigit_of_mem_decimal n
      rw [shape]
      exact List.mem_cons_of_mem 48 member
    -- the zero adds nothing, so the number fits into the digits behind it
    have value : n = digitsValue 0 rest := by
      rw [← digitsValue_decimal n, shape]
      rfl
    have small := digitsValue_lt 0 digits
    rw [← value, Nat.zero_add, Nat.one_mul] at small
    have short := length_decimal_le (List.length_pos_iff.mpr more) small
    rw [shape, List.length_cons] at short
    omega

theorem isDigit_not_space {byte : UInt8} (digit : isDigit byte = true) :
    isSpace byte = false ∧ byte ≠ 45 ∧ byte ≠ 43 := by
  simp only [isDigit, Bool.and_eq_true, decide_eq_true_eq, UInt8.le_iff_toNat_le] at digit
  have low : 48 ≤ byte.toNat := digit.1
  have distinct (other : UInt8) (small : other.toNat < 48) : byte ≠ other := by
    rintro rfl
    omega
  refine ⟨?_, distinct 45 (by decide), distinct 43 (by decide)⟩
  have notControl : ¬ byte.toNat ≤ 13 := by omega
  simp only [isSpace, Bool.or_eq_false_iff, decide_eq_false_iff_not, Bool.and_eq_false_iff,
    UInt8.le_iff_toNat_le]
  exact ⟨distinct 32 (by decide), Or.inr notControl⟩

/-- `atoi` inverts the decimal printer up to clamping. -/
theorem atoi_decimal (n : Nat) : atoi (decimal n) = min intMax n := by
  have allDigits : ∀ byte ∈ decimal n, isDigit byte = true :=
    fun _ member => isDigit_of_mem_decimal member
  have taken : (decimal n).takeWhile isDigit = decimal n :=
    List.takeWhile_eq_self_iff.mpr allDigits
  cases shape : decimal n with
  | nil => exact absurd shape (decimal_ne_nil n)
  | cons first rest =>
      have firstDigit := isDigit_not_space (allDigits first (by simp [shape]))
      have noBlank : (first :: rest).dropWhile isSpace = first :: rest := by
        simp [firstDigit.1]
      have noSign : splitSign (first :: rest) = (false, first :: rest) := by
        unfold splitSign
        split
        · rename_i equal
          exact absurd (List.cons.inj equal).1 firstDigit.2.1
        · rename_i equal
          exact absurd (List.cons.inj equal).1 firstDigit.2.2
        · rfl
      rw [shape] at taken
      simp only [atoi, noBlank, noSign, taken]
      rw [← shape, digitsValue_decimal]
      simp

end BerPiNbiot.Text
