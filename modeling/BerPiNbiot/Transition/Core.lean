import Mathlib.Data.List.Basic

/-!
# Labelled partial execution

A component is a partial transition `σ → ι → Option σ`: the label names which
party moves and how, and `none` says that the move is not enabled.  A run is a
list of labels.  Every prefix of a run is a run, so a statement about the final
state of every run is a statement about every reachable state.

`Guarded` restricts the runs to those whose moves all satisfy a condition on
the state in front of the move.  The invariant rule is stated for guarded
runs, and a guard is exact when it excludes the runs that reach a bad state and
no others.
-/

namespace BerPiNbiot.Transition

universe u v

/-- A partial transition with labels; undefinedness is a disabled move. -/
abbrev Step (σ : Type u) (ι : Type v) := σ → ι → Option σ

variable {σ : Type u} {ι : Type v}

/-- Execute the labels of a run in order, failing at the first disabled move. -/
def exec (next : Step σ ι) : σ → List ι → Option σ
  | state, [] => some state
  | state, label :: rest => (next state label).bind fun target => exec next target rest

@[simp]
theorem exec_nil (next : Step σ ι) (state : σ) : exec next state [] = some state :=
  rfl

theorem exec_cons (next : Step σ ι) (state : σ) (label : ι) (rest : List ι) :
    exec next state (label :: rest) =
      (next state label).bind fun target => exec next target rest :=
  rfl

theorem exec_cons_eq_some_iff (next : Step σ ι) (state target : σ) (label : ι)
    (rest : List ι) :
    exec next state (label :: rest) = some target ↔
      ∃ middle, next state label = some middle ∧ exec next middle rest = some target := by
  rw [exec_cons]
  exact Option.bind_eq_some_iff

/-- Runs compose at an arbitrary split of the label list. -/
theorem exec_append (next : Step σ ι) (state : σ) (first second : List ι) :
    exec next state (first ++ second) =
      (exec next state first).bind fun middle => exec next middle second := by
  induction first generalizing state with
  | nil => rfl
  | cons label rest ih =>
      rw [List.cons_append, exec_cons, exec_cons, Option.bind_assoc]
      congr 1
      funext target
      exact ih target

/-- A projection that commutes with every move commutes with every run. -/
theorem exec_map {τ : Type*} {next : Step σ ι} {below : Step τ ι} {project : σ → τ}
    (commutes : ∀ state label, (next state label).map project = below (project state) label)
    (state : σ) (run : List ι) :
    (exec next state run).map project = exec below (project state) run := by
  induction run generalizing state with
  | nil => rfl
  | cons label rest ih =>
      rw [exec_cons, exec_cons, ← commutes]
      cases next state label with
      | none => rfl
      | some target => exact ih target

/-- Every move of the run meets `allowed` in the state it starts from. -/
def Guarded (next : Step σ ι) (allowed : σ → ι → Prop) : σ → List ι → Prop
  | _, [] => True
  | state, label :: rest =>
      allowed state label ∧
        match next state label with
        | none => True
        | some target => Guarded next allowed target rest

theorem guarded_cons_of_step {next : Step σ ι} {allowed : σ → ι → Prop}
    {state target : σ} {label : ι} {rest : List ι}
    (guarded : Guarded next allowed state (label :: rest))
    (step : next state label = some target) :
    allowed state label ∧ Guarded next allowed target rest := by
  rcases guarded with ⟨here, later⟩
  rw [step] at later
  exact ⟨here, later⟩

/-- The beginning of a guarded run is guarded. -/
theorem guarded_of_append {next : Step σ ι} {allowed : σ → ι → Prop} {state : σ}
    {first second : List ι} (guarded : Guarded next allowed state (first ++ second)) :
    Guarded next allowed state first := by
  induction first generalizing state with
  | nil => trivial
  | cons label rest ih =>
      rcases guarded with ⟨here, later⟩
      constructor
      · exact here
      · cases step : next state label with
        | none => trivial
        | some target =>
            rw [step] at later
            exact ih later

/-- A run is guarded when every move that it makes is allowed. -/
theorem guarded_iff_forall {next : Step σ ι} {allowed : σ → ι → Prop} {state : σ}
    {run : List ι} :
    Guarded next allowed state run ↔ ∀ first label, first ++ [label] <+: run →
      ∀ before, exec next state first = some before → allowed before label := by
  induction run generalizing state with
  | nil =>
      refine iff_of_true trivial fun first label begins => ?_
      have short := begins.length_le
      rw [List.length_append, List.length_singleton, List.length_nil] at short
      omega
  | cons label rest ih =>
      constructor
      · rintro ⟨here, later⟩ first last begins before executed
        cases first with
        | nil =>
            obtain ⟨rfl, -⟩ := List.cons_prefix_cons.mp begins
            cases executed
            exact here
        | cons other first =>
            obtain ⟨rfl, restBegins⟩ := List.cons_prefix_cons.mp begins
            obtain ⟨middle, step, restExecuted⟩ :=
              (exec_cons_eq_some_iff next state before other first).mp executed
            rw [step] at later
            exact ih.mp later first last restBegins before restExecuted
      · intro all
        refine ⟨all [] label (List.prefix_append [label] rest) state rfl, ?_⟩
        cases step : next state label with
        | none => trivial
        | some middle =>
            apply ih.mpr
            intro first last begins before executed
            apply all (label :: first) last (List.cons_prefix_cons.mpr ⟨rfl, begins⟩) before
            rw [exec_cons, step]
            exact executed

/-- Guards that agree on every move give the same guarded runs. -/
theorem guarded_congr {next : Step σ ι} {allowed other : σ → ι → Prop}
    (same : ∀ state label, allowed state label ↔ other state label) (state : σ) (run : List ι) :
    Guarded next allowed state run ↔ Guarded next other state run := by
  induction run generalizing state with
  | nil => exact Iff.rfl
  | cons label rest ih =>
      apply and_congr (same state label)
      cases next state label with
      | none => exact Iff.rfl
      | some target => exact ih target

/-- Decidable guards make the guardedness of a concrete run computable. -/
instance decidableGuarded (next : Step σ ι) (allowed : σ → ι → Prop)
    [∀ state label, Decidable (allowed state label)] :
    ∀ (state : σ) (run : List ι), Decidable (Guarded next allowed state run)
  | _, [] => isTrue trivial
  | state, label :: rest =>
      have : Decidable (match next state label with
          | none => True
          | some target => Guarded next allowed target rest) :=
        match next state label with
        | none => isTrue trivial
        | some target => decidableGuarded next allowed target rest
      inferInstanceAs (Decidable (_ ∧ _))

/-- Invariant rule for guarded runs: what every allowed move preserves holds
in every state a guarded run reaches. -/
theorem exec_invariant {next : Step σ ι} {allowed : σ → ι → Prop} {inv : σ → Prop}
    (preserved : ∀ state label target, inv state → allowed state label →
      next state label = some target → inv target)
    {state target : σ} {run : List ι} (holds : inv state)
    (guarded : Guarded next allowed state run)
    (executed : exec next state run = some target) : inv target := by
  induction run generalizing state with
  | nil =>
      have equal := Option.some.inj executed
      subst target
      exact holds
  | cons label rest ih =>
      rcases (exec_cons_eq_some_iff next state target label rest).mp executed with
        ⟨middle, step, restExecuted⟩
      rcases guarded_cons_of_step guarded step with ⟨here, later⟩
      exact ih (preserved state label middle holds here step) later restExecuted

/-- Exact guards: when a move outside the guard leads to a bad state at once,
and the guarded moves keep an invariant that excludes the bad states, the guarded
runs are those that meet no bad state. -/
theorem guarded_iff {next : Step σ ι} {allowed : σ → ι → Prop} {inv bad : σ → Prop}
    (preserved : ∀ state label target, inv state → allowed state label →
      next state label = some target → inv target)
    (safe : ∀ state, inv state → ¬ bad state)
    (leads : ∀ state label, inv state → ¬ allowed state label →
      ∃ target, next state label = some target ∧ bad target)
    {state : σ} (holds : inv state) (run : List ι) :
    Guarded next allowed state run ↔
      ∀ first, first <+: run → ∀ target, exec next state first = some target → ¬ bad target := by
  constructor
  · rintro guarded first ⟨second, rfl⟩ target executed
    apply safe target
    exact exec_invariant preserved holds (guarded_of_append guarded) executed
  · intro never
    induction run generalizing state with
    | nil => trivial
    | cons label rest ih =>
        have here : allowed state label := by
          by_contra outside
          rcases leads state label holds outside with ⟨target, step, reached⟩
          have executed : exec next state [label] = some target := by
            rw [exec_cons, step]
            rfl
          exact never [label] (List.prefix_append [label] rest) target executed reached
        refine ⟨here, ?_⟩
        cases step : next state label with
        | none => trivial
        | some middle =>
            apply ih (preserved state label middle holds here step)
            intro first begins target executed
            apply never (label :: first) (List.cons_prefix_cons.mpr ⟨rfl, begins⟩) target
            rw [exec_cons, step]
            exact executed

/-- The same for a property that every reached state should have. -/
theorem forall_reached_iff {next : Step σ ι} {allowed : σ → ι → Prop} {inv good : σ → Prop}
    (preserved : ∀ state label target, inv state → allowed state label →
      next state label = some target → inv target)
    (sound : ∀ state, inv state → good state)
    (fails : ∀ state label, inv state → ¬ allowed state label →
      ∃ target, next state label = some target ∧ ¬ good target)
    {state : σ} (holds : inv state) (run : List ι) :
    (∀ first, first <+: run → ∀ target, exec next state first = some target → good target) ↔
      Guarded next allowed state run := by
  have never := guarded_iff preserved (fun state holds => not_not_intro (sound state holds)) fails
    holds run
  simp only [not_not] at never
  exact never.symm

/-- A run of moves that are allowed in every state is guarded. -/
theorem guarded_of_forall {next : Step σ ι} {allowed : σ → ι → Prop} (state : σ) {run : List ι}
    (everywhere : ∀ label ∈ run, ∀ state, allowed state label) :
    Guarded next allowed state run := by
  induction run generalizing state with
  | nil => trivial
  | cons label rest ih =>
      rw [List.forall_mem_cons] at everywhere
      constructor
      · exact everywhere.1 state
      · cases next state label with
        | none => trivial
        | some target => exact ih target everywhere.2

/-- A guarded run of labels with a common property. -/
theorem guarded_and_of_forall {next : Step σ ι} {allowed : σ → ι → Prop} {common : ι → Prop}
    {state : σ} {run : List ι} (guarded : Guarded next allowed state run)
    (all : ∀ label ∈ run, common label) :
    Guarded next (fun state label => allowed state label ∧ common label) state run := by
  induction run generalizing state with
  | nil => trivial
  | cons label rest ih =>
      rw [List.forall_mem_cons] at all
      rcases guarded with ⟨here, later⟩
      refine ⟨⟨here, all.1⟩, ?_⟩
      cases step : next state label with
      | none => trivial
      | some target =>
          rw [step] at later
          exact ih later all.2

end BerPiNbiot.Transition
