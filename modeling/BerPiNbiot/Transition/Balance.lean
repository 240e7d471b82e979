import BerPiNbiot.Transition.Core
import Mathlib.Data.Nat.ModEq

/-!
# Balanced runs

A counter that moves go up and down by one, modulo the length of a cycle.  Along
a run it changes by the difference between the moves up and the moves down.
-/

namespace BerPiNbiot.Transition

universe u v

variable {σ : Type u} {ι : Type v}

/-- Accounting along a run: what every allowed move does to the counter, summed
over the moves. -/
theorem exec_modEq {next : Step σ ι} {allowed : σ → ι → Prop} {inv : σ → Prop}
    {counter : σ → Nat} {up down : ι → Bool} {n : Nat}
    (preserved : ∀ state label target, inv state → allowed state label →
      next state label = some target → inv target)
    (moves : ∀ state label target, inv state → allowed state label →
      next state label = some target →
      counter target + (if down label then 1 else 0) ≡
        counter state + (if up label then 1 else 0) [MOD n])
    {state target : σ} {run : List ι} (holds : inv state)
    (guarded : Guarded next allowed state run)
    (executed : exec next state run = some target) :
    counter target + run.countP down ≡ counter state + run.countP up [MOD n] := by
  induction run generalizing state with
  | nil =>
      have equal := Option.some.inj executed
      subst target
      exact Nat.ModEq.refl _
  | cons label rest ih =>
      rcases (exec_cons_eq_some_iff next state target label rest).mp executed with
        ⟨middle, step, restExecuted⟩
      rcases guarded_cons_of_step guarded step with ⟨here, later⟩
      have first := moves state label middle holds here step
      have others := ih (preserved state label middle holds here step) later restExecuted
      rw [List.countP_cons, List.countP_cons]
      -- the counter between the first move and the others cancels
      apply Nat.ModEq.add_left_cancel' (counter middle)
      calc
        counter middle + (counter target + (rest.countP down + if down label then 1 else 0))
          = (counter target + rest.countP down) +
              (counter middle + if down label then 1 else 0) := by omega
        _ ≡ (counter middle + rest.countP up) +
              (counter state + if up label then 1 else 0) [MOD n] := others.add first
        _ = counter middle + (counter state + (rest.countP up + if up label then 1 else 0)) := by
          omega

/-- A run with as many moves up as down leads the counter back. -/
theorem counter_eq_of_balanced {counter counter' ups downs n : Nat}
    (moved : counter' + downs ≡ counter + ups [MOD n]) (balanced : ups = downs)
    (before : counter < n) (after : counter' < n) : counter' = counter := by
  subst ups
  have same : counter' % n = counter % n := Nat.ModEq.add_right_cancel' downs moved
  rwa [Nat.mod_eq_of_lt after, Nat.mod_eq_of_lt before] at same

end BerPiNbiot.Transition
