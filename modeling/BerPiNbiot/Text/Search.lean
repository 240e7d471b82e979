import Mathlib.Data.List.Infix

/-!
# Substring search in byte strings

A C string is modelled by the list of the bytes in front of its terminator.
`strstr` is the textbook search loop; it succeeds exactly when the pattern is
an infix of the text.

The main result is about texts that are put together from a header and a body.
A pattern that can neither start inside the header nor be the header occurs in
the whole text only where it occurs in the body.  "Can start inside" is a
computable test on the two short words, so it is settled by evaluation for a
concrete table of headers and patterns.
-/

namespace BerPiNbiot.Text

/-- The bytes of a C string, without the terminator. -/
abbrev Bytes := List UInt8

/-- The bytes of an ASCII literal. -/
def ascii (literal : String) : Bytes :=
  literal.toList.map fun char => UInt8.ofNat char.toNat

/-- Pointer to the first occurrence of `pattern`, given as the text from there
on; `none` is the null pointer. -/
def strstr : Bytes → Bytes → Option Bytes
  | [], pattern => if pattern = [] then some [] else none
  | byte :: rest, pattern =>
      if pattern <+: byte :: rest then some (byte :: rest) else strstr rest pattern

/-- The test `strstr(text, pattern) != NULL`. -/
def Found (text pattern : Bytes) : Prop :=
  strstr text pattern ≠ none

instance (text pattern : Bytes) : Decidable (Found text pattern) :=
  inferInstanceAs (Decidable (_ ≠ _))

/-- The search loop finds a pattern exactly when it is an infix. -/
theorem found_iff_occurs (text pattern : Bytes) : Found text pattern ↔ pattern <:+: text := by
  induction text with
  | nil =>
      by_cases empty : pattern = []
      · simp [Found, strstr, empty]
      · simp [Found, strstr, empty]
  | cons byte rest ih =>
      rw [List.infix_cons_iff]
      by_cases here : pattern <+: byte :: rest
      · simp [Found, strstr, here]
      · rw [Found, strstr, if_neg here]
        simp only [here, false_or]
        exact ih

/-! ## Occurrences in composed texts -/

/-- Two words agree on their common length. -/
def Compatible (left right : Bytes) : Prop :=
  left <+: right ∨ right <+: left

instance (left right : Bytes) : Decidable (Compatible left right) :=
  inferInstanceAs (Decidable (_ ∨ _))

/-- `pattern` could begin at some position of `header`, given a suitable
continuation of the header. -/
def StartsInside (header pattern : Bytes) : Prop :=
  ∃ suffix ∈ header.tails, suffix ≠ [] ∧ Compatible suffix pattern

instance (header pattern : Bytes) : Decidable (StartsInside header pattern) :=
  inferInstanceAs (Decidable (∃ suffix ∈ header.tails, suffix ≠ [] ∧ Compatible suffix pattern))

theorem compatible_of_prefix_append {suffix pattern : Bytes} (body : Bytes)
    (occurs : pattern <+: suffix ++ body) : Compatible suffix pattern := by
  have suffixPrefix : suffix <+: suffix ++ body := List.prefix_append suffix body
  exact List.prefix_or_prefix_of_prefix suffixPrefix occurs

/-- A pattern that cannot start inside the header occurs in `header ++ body`
exactly when it occurs in the body. -/
theorem infix_header_append_iff {header body pattern : Bytes}
    (outside : ¬ StartsInside header pattern) :
    pattern <:+: header ++ body ↔ pattern <:+: body := by
  induction header with
  | nil => simp
  | cons byte rest ih =>
      have outsideRest : ¬ StartsInside rest pattern := by
        rintro ⟨suffix, member, nonempty, compatible⟩
        refine outside ⟨suffix, ?_, nonempty, compatible⟩
        rw [List.mem_tails] at member ⊢
        exact member.trans (List.suffix_cons byte rest)
      have notHere : ¬ pattern <+: byte :: (rest ++ body) := by
        intro occurs
        refine outside ⟨byte :: rest, ?_, by simp, ?_⟩
        · simp
        · exact compatible_of_prefix_append body occurs
      rw [List.cons_append, List.infix_cons_iff]
      simp only [notHere, false_or]
      exact ih outsideRest

/-- A pattern without the closing byte occurs in front of that byte or not at
all. -/
theorem infix_append_singleton_iff {body pattern : Bytes} {last : UInt8}
    (free : last ∉ pattern) :
    pattern <:+: body ++ [last] ↔ pattern <:+: body := by
  rw [List.infix_concat_iff]
  constructor
  · rintro (suffix | occurs)
    · rcases List.suffix_concat_iff.mp suffix with empty | ⟨front, rfl, _⟩
      · subst empty
        exact List.nil_infix
      · simp at free
    · exact occurs
  · exact Or.inr

/-- A prefix without the separator ends in front of it. -/
theorem prefix_of_prefix_append_cons {front back pattern : Bytes} {separator : UInt8}
    (free : separator ∉ pattern) (occurs : pattern <+: front ++ separator :: back) :
    pattern <+: front := by
  rcases List.prefix_or_prefix_of_prefix occurs (List.prefix_append front _) with short | long
  · exact short
  · rcases long with ⟨rest, rfl⟩
    rw [List.prefix_append_right_inj] at occurs
    rcases List.prefix_cons_iff.mp occurs with empty | ⟨tail, rfl, _⟩
    · simp [empty]
    · simp at free

/-- A pattern without the separator occurs on one side of it. -/
theorem infix_append_cons_iff {front back pattern : Bytes} {separator : UInt8}
    (free : separator ∉ pattern) :
    pattern <:+: front ++ separator :: back ↔ pattern <:+: front ∨ pattern <:+: back := by
  induction front with
  | nil =>
      rw [List.nil_append, List.infix_cons_iff, List.prefix_cons_iff]
      constructor
      · rintro ((rfl | ⟨tail, rfl, _⟩) | occurs)
        · exact Or.inl List.nil_infix
        · simp at free
        · exact Or.inr occurs
      · rintro (occurs | occurs)
        · exact Or.inl (Or.inl (List.infix_nil.mp occurs))
        · exact Or.inr occurs
  | cons byte rest ih =>
      rw [List.cons_append, List.infix_cons_iff, List.infix_cons_iff, ih, or_assoc]
      constructor
      · rintro (here | later)
        · rw [← List.cons_append] at here
          exact Or.inl (prefix_of_prefix_append_cons free here)
        · exact Or.inr later
      · rintro (here | later)
        · exact Or.inl (here.trans (by simp))
        · exact Or.inr later

end BerPiNbiot.Text
