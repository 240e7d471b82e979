import Mathlib.Data.List.Induction
import Mathlib.Data.List.TakeWhile

/-!
# Streaks

The streak of a history is the run of entries at its end that meet a test.  A
debouncing counter acts on the length of the streak; the results compare the
streaks of two tests of which one is stricter.
-/

namespace BerPiNbiot.Transition

universe u

variable {α : Type u}

/-- The last entries that meet the test, the newest one first. -/
def streak (test : α → Bool) (history : List α) : List α :=
  history.reverse.takeWhile test

@[simp]
theorem streak_nil (test : α → Bool) : streak test [] = [] :=
  rfl

theorem streak_concat (test : α → Bool) (history : List α) (entry : α) :
    streak test (history ++ [entry]) =
      if test entry then entry :: streak test history else [] := by
  rw [streak, List.reverse_append, List.reverse_singleton, List.singleton_append,
    List.takeWhile_cons]
  rfl

theorem streak_concat_of_pos {test : α → Bool} {entry : α} (met : test entry = true)
    (history : List α) : streak test (history ++ [entry]) = entry :: streak test history := by
  rw [streak_concat, if_pos met]

theorem streak_concat_of_neg {test : α → Bool} {entry : α} (unmet : test entry = false)
    (history : List α) : streak test (history ++ [entry]) = [] := by
  rw [streak_concat, unmet, if_neg Bool.false_ne_true]

section Compare

variable {strict test : α → Bool}

/-- A stricter test has a shorter streak. -/
theorem length_streak_le (stricter : ∀ entry, strict entry = true → test entry = true)
    (history : List α) : (streak strict history).length ≤ (streak test history).length := by
  induction history using List.reverseRecOn with
  | nil => exact le_rfl
  | append_singleton earlier entry ih =>
      cases met : strict entry with
      | true =>
          rw [streak_concat_of_pos met, streak_concat_of_pos (stricter entry met)]
          exact Nat.succ_le_succ ih
      | false =>
          rw [streak_concat_of_neg met]
          exact Nat.zero_le _

/-- The streaks agree where the stricter test is met. -/
theorem streak_eq_of_forall (stricter : ∀ entry, strict entry = true → test entry = true)
    {history : List α} (all : ∀ entry ∈ streak test history, strict entry = true) :
    streak strict history = streak test history := by
  induction history using List.reverseRecOn with
  | nil => rfl
  | append_singleton earlier entry ih =>
      cases met : test entry with
      | true =>
          rw [streak_concat_of_pos met, List.forall_mem_cons] at all
          rw [streak_concat_of_pos met, streak_concat_of_pos all.1, ih all.2]
      | false =>
          have unmet : strict entry = false := by
            by_contra holds
            rw [Bool.not_eq_false] at holds
            rw [stricter entry holds] at met
            contradiction
          rw [streak_concat_of_neg met, streak_concat_of_neg unmet]

/-- A streak of the stricter test that is as long as the other one. -/
theorem forall_of_length_streak_le {history : List α}
    (long : (streak test history).length ≤ (streak strict history).length) :
    ∀ entry ∈ streak test history, strict entry = true := by
  induction history using List.reverseRecOn with
  | nil =>
      intro entry member
      contradiction
  | append_singleton earlier entry ih =>
      cases met : test entry with
      | true =>
          rw [streak_concat_of_pos met] at long ⊢
          cases strictMet : strict entry with
          | true =>
              rw [streak_concat_of_pos strictMet, List.length_cons, List.length_cons] at long
              rw [List.forall_mem_cons]
              exact ⟨strictMet, ih (by omega)⟩
          | false =>
              rw [streak_concat_of_neg strictMet, List.length_cons, List.length_nil] at long
              omega
      | false =>
          rw [streak_concat_of_neg met]
          intro other member
          contradiction

/-- Both tests reach a length at the same entries of a history exactly when the
entries of every streak of that length meet the stricter test. -/
theorem forall_streak_iff {length : Nat} (positive : 0 < length)
    (stricter : ∀ entry, strict entry = true → test entry = true) (whole : List α) :
    (∀ history, history <+: whole → length ≤ (streak test history).length →
        length ≤ (streak strict history).length) ↔
      ∀ history, history <+: whole → length ≤ (streak test history).length →
        ∀ entry ∈ streak test history, strict entry = true := by
  constructor
  · intro reaches history begins
    induction history using List.reverseRecOn with
    | nil =>
        intro long
        rw [streak_nil, List.length_nil] at long
        omega
    | append_singleton earlier entry ih =>
        intro long
        have strictLong := reaches _ begins long
        -- the streak of the stricter test is not empty, so the last entry meets it
        have met : strict entry = true := by
          by_contra unmet
          rw [Bool.not_eq_true] at unmet
          rw [streak_concat_of_neg unmet, List.length_nil] at strictLong
          omega
        have before : earlier <+: whole := (List.prefix_append earlier [entry]).trans begins
        rw [streak_concat_of_pos (stricter entry met)] at long ⊢
        rw [streak_concat_of_pos met, List.length_cons] at strictLong
        rw [List.length_cons] at long
        rw [List.forall_mem_cons]
        refine ⟨met, ?_⟩
        by_cases already : length ≤ (streak test earlier).length
        · exact ih before already
        · -- here the streak of the test is no longer than that of the stricter one
          exact forall_of_length_streak_le (by omega)
  · intro all history begins long
    rw [streak_eq_of_forall stricter (all history begins long)]
    exact long

end Compare

end BerPiNbiot.Transition
