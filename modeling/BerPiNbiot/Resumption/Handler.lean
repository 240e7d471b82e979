import BerPiNbiot.Resumption.Core
import Mathlib.Logic.Function.Iterate

/-!
# Handlers

A handler answers every call with one answer and one next state.  A program then
computes a result and a final state.  Loops that count their attempts down before
they look at the outcome compute what `retry` computes: behind the loop the
counter tells a success from exhaustion, except for a success of the last attempt.
-/

namespace BerPiNbiot.Resumption

universe u

namespace Program

variable {S : Signature.{u}} {α β : Type u} {σ : Type*}

/-- Run a program under a handler. -/
def run (handle : σ → (request : S.Call) → S.Answer request × σ) : Program S α → σ → α × σ
  | .ret value, state => (value, state)
  | .call request resume, state =>
      (resume (handle state request).1).run handle (handle state request).2

variable (handle : σ → (request : S.Call) → S.Answer request × σ)

@[simp]
theorem run_ret (value : α) (state : σ) :
    (ret value : Program S α).run handle state = (value, state) :=
  rfl

@[simp]
theorem run_call (request : S.Call) (resume : S.Answer request → Program S α) (state : σ) :
    (call request resume).run handle state =
      (resume (handle state request).1).run handle (handle state request).2 :=
  rfl

@[simp]
theorem run_bind (program : Program S α) (next : α → Program S β) (state : σ) :
    (program >>= next).run handle state =
      (next (program.run handle state).1).run handle (program.run handle state).2 := by
  induction program generalizing state with
  | ret value => rfl
  | call request resume ih => exact ih _ _

@[simp]
theorem run_ite (condition : Prop) [Decidable condition] (first second : Program S α) (state : σ) :
    (if condition then first else second).run handle state =
      if condition then first.run handle state else second.run handle state := by
  split <;> rfl

end Program

/-! ## Counted attempts -/

section Retry

variable {σ : Type*} (met : σ → Bool) (attempt : σ → σ)

/-- Attempt up to a number of times and stop at the first success; the result is
the counter that is left. -/
def retry : Nat → σ → Nat × σ
  | 0, state => (0, state)
  | left + 1, state => if met state then (left, attempt state) else retry left (attempt state)

/-- What every attempt keeps is kept. -/
theorem retry_invariant {inv : σ → Prop} (kept : ∀ state, inv state → inv (attempt state))
    (budget : Nat) {state : σ} (holds : inv state) : inv (retry met attempt budget state).2 := by
  induction budget generalizing state with
  | zero => exact holds
  | succ left ih =>
      rw [retry]
      split
      · exact kept state holds
      · exact ih (kept state holds)

/-- A counter is left exactly when an attempt before the last one succeeds. -/
theorem retry_left_ne_zero_iff (budget : Nat) (state : σ) :
    (retry met attempt budget state).1 ≠ 0 ↔
      ∃ failed, failed + 1 < budget ∧ met (attempt^[failed] state) = true := by
  induction budget generalizing state with
  | zero => simp [retry]
  | succ left ih =>
      rw [retry]
      cases now : met state with
      | true =>
          rw [if_pos rfl]
          constructor
          · intro some
            exact ⟨0, by omega, now⟩
          · rintro ⟨failed, inside, _⟩
            change left ≠ 0
            omega
      | false =>
          rw [if_neg Bool.false_ne_true, ih]
          constructor
          · rintro ⟨failed, inside, later⟩
            exact ⟨failed + 1, by omega, later⟩
          · rintro ⟨failed, inside, later⟩
            cases failed with
            | zero =>
                rw [Function.iterate_zero_apply, now] at later
                contradiction
            | succ failed => exact ⟨failed, by omega, later⟩

/-- The attempts made, and the success of the last one where a counter is left. -/
theorem exists_retry_eq {budget : Nat} (positive : 0 < budget) (state : σ) :
    ∃ failed < budget, (retry met attempt budget state).2 = attempt^[failed + 1] state ∧
      ((retry met attempt budget state).1 ≠ 0 → met (attempt^[failed] state) = true) := by
  induction budget generalizing state with
  | zero => exact absurd positive (Nat.lt_irrefl 0)
  | succ left ih =>
      rw [retry]
      cases now : met state with
      | true => exact ⟨0, positive, rfl, fun _ => now⟩
      | false =>
          rw [if_neg Bool.false_ne_true]
          rcases Nat.eq_zero_or_pos left with rfl | more
          · exact ⟨0, positive, rfl, fun counter => absurd rfl counter⟩
          · rcases ih more (attempt state) with ⟨failed, inside, final, success⟩
            exact ⟨failed + 1, by omega, final, success⟩

/-- The first success stops the attempts. -/
theorem retry_eq_of_met {budget failed : Nat} (inside : failed < budget) {state : σ}
    (before : ∀ earlier < failed, met (attempt^[earlier] state) = false)
    (now : met (attempt^[failed] state) = true) :
    retry met attempt budget state = (budget - (failed + 1), attempt^[failed + 1] state) := by
  induction budget generalizing failed state with
  | zero => exact absurd inside (Nat.not_lt_zero failed)
  | succ left ih =>
      rw [retry]
      cases failed with
      | zero =>
          rw [Function.iterate_zero_apply] at now
          rw [if_pos now]
          rfl
      | succ failed =>
          have first := before 0 (Nat.succ_pos failed)
          rw [Function.iterate_zero_apply] at first
          rw [if_neg (by rw [first]; exact Bool.false_ne_true),
            ih (Nat.lt_of_succ_lt_succ inside) (fun earlier less =>
              before (earlier + 1) (Nat.succ_lt_succ less)) now]
          simp

/-- Without a success before the last attempt all attempts are made, and no counter
is left. -/
theorem retry_eq_of_unmet {budget : Nat} {state : σ}
    (unmet : ∀ failed, failed + 1 < budget → met (attempt^[failed] state) = false) :
    retry met attempt budget state = (0, attempt^[budget] state) := by
  induction budget generalizing state with
  | zero => rfl
  | succ left ih =>
      rw [retry]
      rcases Nat.eq_zero_or_pos left with rfl | more
      · split <;> rfl
      · have first := unmet 0 (by omega)
        rw [Function.iterate_zero_apply] at first
        rw [if_neg (by rw [first]; exact Bool.false_ne_true)]
        exact ih fun failed inside => unmet (failed + 1) (by omega)

/-- A loop whose turns are attempts computes `retry`. -/
theorem Program.run_eq_retry {S : Signature.{0}}
    {handle : σ → (request : S.Call) → S.Answer request × σ} {loop : Nat → Program S Nat}
    (finished : loop 0 = .ret 0)
    (turn : ∀ left state, (loop (left + 1)).run handle state =
      if met state then (left, attempt state) else (loop left).run handle (attempt state))
    (budget : Nat) (state : σ) :
    (loop budget).run handle state = retry met attempt budget state := by
  induction budget generalizing state with
  | zero =>
      rw [finished]
      rfl
  | succ left ih => rw [turn, retry, ih]

end Retry

end BerPiNbiot.Resumption
