import BerPiNbiot.Text.Search
import Mathlib.Data.List.TakeWhile

/-!
# Tokenising with `strtok`

`strtok` skips leading delimiters, returns the run of bytes up to the next
delimiter and overwrites that delimiter by a terminator.  Its hidden state is
the text behind the overwritten byte, or nothing once the end of the string
was reached.  `tokenView` is the string that the caller of the first call still
sees at its own pointer afterwards: later calls only write behind the
terminator that the first one placed.
-/

namespace BerPiNbiot.Text

/-- One call of `strtok` on the text it still has to scan: the token, and the
text left for the next call with a null first argument. -/
def strtok (delimiters : List UInt8) : Option Bytes → Option Bytes × Option Bytes
  | none => (none, none)
  | some text =>
      let start := text.dropWhile (· ∈ delimiters)
      if start = [] then (none, none)
      else
        (some (start.takeWhile (· ∉ delimiters)),
          match start.dropWhile (· ∉ delimiters) with
          | [] => none
          | _ :: rest => some rest)

/-- The string at the caller's pointer after the first `strtok` call on it. -/
def tokenView (delimiters : List UInt8) (text : Bytes) : Bytes :=
  let start := text.dropWhile (· ∈ delimiters)
  if start.dropWhile (· ∉ delimiters) = [] then text
  else text.takeWhile (· ∈ delimiters) ++ start.takeWhile (· ∉ delimiters)

/-- What is still seen at the pointer is the beginning of the text. -/
theorem tokenView_begins (delimiters : List UInt8) (text : Bytes) :
    tokenView delimiters text <+: text := by
  unfold tokenView
  dsimp only
  split
  · exact List.prefix_rfl
  · have whole : text.takeWhile (· ∈ delimiters) ++ text.dropWhile (· ∈ delimiters) = text :=
      List.takeWhile_append_dropWhile
    conv_rhs => rw [← whole]
    rw [List.prefix_append_right_inj]
    exact List.takeWhile_prefix _

@[simp]
theorem strtok_none (delimiters : List UInt8) : strtok delimiters none = (none, none) :=
  rfl

section Fields

variable {delimiter : UInt8} {field rest : Bytes}

theorem takeWhile_field (free : delimiter ∉ field) :
    (field ++ delimiter :: rest).takeWhile (· ∉ [delimiter]) = field := by
  rw [List.takeWhile_append_of_pos]
  · simp
  · intro byte member
    have differs : byte ≠ delimiter := fun equal => free (equal ▸ member)
    simpa using differs

theorem dropWhile_field (free : delimiter ∉ field) :
    (field ++ delimiter :: rest).dropWhile (· ∉ [delimiter]) = delimiter :: rest := by
  rw [List.dropWhile_append_of_pos]
  · simp
  · intro byte member
    have differs : byte ≠ delimiter := fun equal => free (equal ▸ member)
    simpa using differs

theorem dropWhile_delimiter_eq_self (free : delimiter ∉ field) (nonempty : field ≠ [])
    (rest : Bytes) : (field ++ rest).dropWhile (· ∈ [delimiter]) = field ++ rest := by
  cases field with
  | nil => contradiction
  | cons byte tail =>
      have differs : byte ≠ delimiter := by
        rintro rfl
        simp at free
      simp [differs]

/-- A non-empty field in front of a delimiter is returned whole and the scan
continues behind the delimiter. -/
theorem strtok_field (free : delimiter ∉ field) (nonempty : field ≠ []) :
    strtok [delimiter] (some (field ++ delimiter :: rest)) = (some field, some rest) := by
  have start := dropWhile_delimiter_eq_self free nonempty (delimiter :: rest)
  simp only [strtok, start, takeWhile_field free, dropWhile_field free]
  simp

/-- A non-empty text without the delimiter is the last token. -/
theorem strtok_last (free : delimiter ∉ field) (nonempty : field ≠ []) :
    strtok [delimiter] (some field) = (some field, none) := by
  have start := dropWhile_delimiter_eq_self free nonempty []
  have all : ∀ byte ∈ field, byte ≠ delimiter := fun byte member equal => free (equal ▸ member)
  have taken : field.takeWhile (· ∉ [delimiter]) = field :=
    List.takeWhile_eq_self_iff.mpr (by simpa using all)
  have dropped : field.dropWhile (· ∉ [delimiter]) = [] :=
    List.dropWhile_eq_nil_iff.mpr (by simpa using all)
  rw [List.append_nil] at start
  simp only [strtok, start, taken, dropped]
  simp [nonempty]

/-- No token contains a delimiter. -/
theorem strtok_token_free {text token : Bytes} {left : Option Bytes}
    (result : strtok [delimiter] (some text) = (some token, left)) : delimiter ∉ token := by
  simp only [strtok] at result
  split at result
  · simp at result
  · simp only [Prod.mk.injEq, Option.some.injEq] at result
    rw [← result.1]
    intro member
    simpa using List.mem_takeWhile_imp member

/-- Cutting at the first delimiter leaves the field in front of it visible. -/
theorem tokenView_field (free : delimiter ∉ field) (nonempty : field ≠ []) :
    tokenView [delimiter] (field ++ delimiter :: rest) = field := by
  have start := dropWhile_delimiter_eq_self free nonempty (delimiter :: rest)
  have noLeading : (field ++ delimiter :: rest).takeWhile (· ∈ [delimiter]) = [] := by
    have whole : (field ++ delimiter :: rest).takeWhile (· ∈ [delimiter]) ++
        (field ++ delimiter :: rest).dropWhile (· ∈ [delimiter]) = field ++ delimiter :: rest :=
      List.takeWhile_append_dropWhile
    rw [start] at whole
    exact List.append_left_eq_self.mp whole
  simp only [tokenView, start, noLeading, takeWhile_field free, dropWhile_field free]
  simp

end Fields

/-! ## Counting tokens -/

section Count

variable (delimiters : List UInt8)

/-- The number of tokens that begin in a text; `inside` says that the text
continues a token. -/
def tokenCountFrom : Bool → Bytes → Nat
  | _, [] => 0
  | inside, byte :: rest =>
      if byte ∈ delimiters then tokenCountFrom false rest
      else (if inside then 0 else 1) + tokenCountFrom true rest

/-- The number of tokens in what a row of `strtok` calls still has to scan. -/
def tokensLeft : Option Bytes → Nat
  | none => 0
  | some text => tokenCountFrom delimiters false text

theorem tokenCountFrom_dropWhile (text : Bytes) :
    tokenCountFrom delimiters false (text.dropWhile (· ∈ delimiters)) =
      tokenCountFrom delimiters false text := by
  induction text with
  | nil => rfl
  | cons byte rest ih =>
      by_cases delimiter : byte ∈ delimiters
      · simp [tokenCountFrom, delimiter, ih]
      · simp [delimiter]

/-- Inside a token, the tokens to come are those behind the next delimiter. -/
theorem tokenCountFrom_inside (text : Bytes) :
    tokenCountFrom delimiters true text =
      tokensLeft delimiters (match text.dropWhile (· ∉ delimiters) with
        | [] => none
        | _ :: rest => some rest) := by
  induction text with
  | nil => rfl
  | cons byte rest ih =>
      by_cases delimiter : byte ∈ delimiters
      · simp [tokenCountFrom, delimiter, tokensLeft]
      · simp [tokenCountFrom, delimiter, ih]

/-- A call of `strtok` takes one of the tokens that are left, if there is one. -/
theorem strtok_tokens (rest : Option Bytes) :
    ((strtok delimiters rest).1 = none ↔ tokensLeft delimiters rest = 0) ∧
      tokensLeft delimiters (strtok delimiters rest).2 = tokensLeft delimiters rest - 1 := by
  cases rest with
  | none => exact ⟨Iff.intro (fun _ => rfl) fun _ => rfl, rfl⟩
  | some text =>
      have whole := tokenCountFrom_dropWhile delimiters text
      simp only [strtok, tokensLeft]
      cases start : text.dropWhile (· ∈ delimiters) with
      | nil =>
          rw [start] at whole
          simp [← whole, tokenCountFrom]
      | cons byte tail =>
          have outside : byte ∉ delimiters := by
            have head := List.head?_dropWhile_not (· ∈ delimiters) text
            rw [start] at head
            simpa using head
          have tokens : tokenCountFrom delimiters false text =
              1 + tokenCountFrom delimiters true tail := by
            rw [← whole, start]
            simp [tokenCountFrom, outside]
          rw [tokens, tokenCountFrom_inside]
          constructor
          · simp
          · simp [outside, tokensLeft]

/-- A text with a byte that is no delimiter has a token. -/
theorem tokensLeft_ne_zero {byte : UInt8} {text : Bytes} (member : byte ∈ text)
    (outside : byte ∉ delimiters) : tokensLeft delimiters (some text) ≠ 0 := by
  rw [tokensLeft]
  induction text with
  | nil => contradiction
  | cons first rest ih =>
      rw [tokenCountFrom]
      split
      · rename_i delimiter
        apply ih
        rcases List.mem_cons.mp member with rfl | later
        · exact absurd delimiter outside
        · exact later
      · simp

/-- What is left to scan behind a number of `strtok` calls. -/
def behindTokens : Nat → Option Bytes → Option Bytes
  | 0, rest => rest
  | count + 1, rest => behindTokens count (strtok delimiters rest).2

theorem tokensLeft_behindTokens (count : Nat) (rest : Option Bytes) :
    tokensLeft delimiters (behindTokens delimiters count rest) =
      tokensLeft delimiters rest - count := by
  induction count generalizing rest with
  | zero => rfl
  | succ count ih =>
      rw [behindTokens, ih, (strtok_tokens delimiters rest).2, Nat.sub_sub, Nat.add_comm 1 count]

/-- A call behind `count` others returns no token exactly when there are no more
than `count` of them. -/
theorem strtok_behindTokens_eq_none_iff (count : Nat) (rest : Option Bytes) :
    (strtok delimiters (behindTokens delimiters count rest)).1 = none ↔
      tokensLeft delimiters rest ≤ count := by
  rw [(strtok_tokens delimiters _).1, tokensLeft_behindTokens, Nat.sub_eq_zero_iff_le]

end Count

end BerPiNbiot.Text
