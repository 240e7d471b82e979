import BerPiNbiot.Transition.Core

/-!
# Executions with replies

A service is a partial transition that replies to every label.  What its users see
of a run is the transcript, the labels with the replies to them.

A service implements another one when related states reply alike and stay related.
Then the two have the same transcripts, so that whatever is true of the transcripts
of the simpler one is true of those of its implementation.
-/

namespace BerPiNbiot.Transition

universe u v w x

variable {σ : Type u} {ι : Type v} {ρ : Type w} {τ : Type x}

/-- A partial transition that replies to its labels. -/
abbrev Service (σ : Type u) (ι : Type v) (ρ : Type w) := σ → ι → Option (ρ × σ)

namespace Service

/-- The transition without the replies. -/
def moves (service : Service σ ι ρ) : Step σ ι :=
  fun state label => (service state label).map Prod.snd

theorem moves_of_eq {service : Service σ ι ρ} {state target : σ} {label : ι} {reply : ρ}
    (served : service state label = some (reply, target)) :
    service.moves state label = some target := by
  rw [moves, served]
  rfl

/-- The labels of a run with the replies to them, up to the first disabled move. -/
def transcript (service : Service σ ι ρ) : σ → List ι → List (ι × ρ)
  | _, [] => []
  | state, label :: rest =>
      match service state label with
      | none => []
      | some (reply, target) => (label, reply) :: transcript service target rest

theorem transcript_cons_of_eq {service : Service σ ι ρ} {state target : σ} {label : ι} {reply : ρ}
    (served : service state label = some (reply, target)) (rest : List ι) :
    service.transcript state (label :: rest) =
      (label, reply) :: service.transcript target rest := by
  rw [transcript, served]

/-- What a service keeps with an account of the transcript holds behind every run. -/
theorem account {γ : Type*} {service : Service σ ι ρ} {allowed : σ → ι → Prop}
    {enter : γ → ι × ρ → γ} {kept : γ → σ → Prop}
    (keeps : ∀ books state label, kept books state → allowed state label →
      ∃ reply target, service state label = some (reply, target) ∧
        kept (enter books (label, reply)) target)
    {books : γ} {state : σ} {run : List ι} (holds : kept books state)
    (guarded : Guarded service.moves allowed state run) :
    ∃ target, exec service.moves state run = some target ∧
      kept ((service.transcript state run).foldl enter books) target := by
  induction run generalizing books state with
  | nil => exact ⟨state, rfl, holds⟩
  | cons label rest ih =>
      obtain ⟨reply, middle, served, later⟩ := keeps books state label holds guarded.1
      have moved := moves_of_eq served
      obtain ⟨target, executed, last⟩ := ih later (guarded_cons_of_step guarded moved).2
      refine ⟨target, ?_, ?_⟩
      · rw [exec_cons, moved]
        exact executed
      · rw [transcript_cons_of_eq served]
        exact last

/-- Related states reply alike and stay related. -/
def Implements (below : Service σ ι ρ) (allowed : σ → ι → Prop) (above : Service τ ι ρ)
    (related : σ → τ → Prop) : Prop :=
  ∀ low high label, related low high → allowed low label →
    ∃ reply lower higher, below low label = some (reply, lower) ∧
      above high label = some (reply, higher) ∧ related lower higher

/-- An implementation has the transcripts of what it implements. -/
theorem Implements.transcript_eq {below : Service σ ι ρ} {allowed : σ → ι → Prop}
    {above : Service τ ι ρ} {related : σ → τ → Prop}
    (implements : Implements below allowed above related) {low : σ} {high : τ} {run : List ι}
    (alike : related low high) (guarded : Guarded below.moves allowed low run) :
    ∃ lower higher, exec below.moves low run = some lower ∧
      exec above.moves high run = some higher ∧ related lower higher ∧
      below.transcript low run = above.transcript high run := by
  induction run generalizing low high with
  | nil => exact ⟨low, high, rfl, rfl, alike, rfl⟩
  | cons label rest ih =>
      obtain ⟨reply, lower, higher, served, answered, still⟩ :=
        implements low high label alike guarded.1
      have moved := moves_of_eq served
      obtain ⟨last, final, executed, finished, related, same⟩ :=
        ih still (guarded_cons_of_step guarded moved).2
      refine ⟨last, final, ?_, ?_, related, ?_⟩
      · rw [exec_cons, moved]
        exact executed
      · rw [exec_cons, moves_of_eq answered]
        exact finished
      · rw [transcript_cons_of_eq served, transcript_cons_of_eq answered, same]

end Service

end BerPiNbiot.Transition
