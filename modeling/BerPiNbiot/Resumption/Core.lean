import Mathlib.Data.List.Basic

/-!
# Programs that call their environment

A thread is a tree of calls: it either returns or makes one call and continues
with the answer.  The tree says nothing about what a call does; a relation
between the state, the call, its answer and the next state says that, and the
same program can be read against several such relations.

`Runs` is the big-step reading of a whole program.  The small-step reading of
many programs over one state only needs the next call of a program, so it is
left to the systems that interleave them.
-/

namespace BerPiNbiot.Resumption

universe u

/-- Calls together with the type of their answers. -/
structure Signature where
  Call : Type u
  Answer : Call → Type u

/-- A program over a signature. -/
inductive Program (S : Signature.{u}) (α : Type u)
  | ret (value : α)
  | call (request : S.Call) (resume : S.Answer request → Program S α)

namespace Program

variable {S : Signature.{u}} {α β : Type u}

/-- Sequential composition. -/
def bind : Program S α → (α → Program S β) → Program S β
  | .ret value, next => next value
  | .call request resume, next => .call request fun answer => (resume answer).bind next

instance : Monad (Program S) where
  pure := .ret
  bind := bind

@[simp]
theorem pure_eq_ret (value : α) : (pure value : Program S α) = .ret value :=
  rfl

@[simp]
theorem ret_bind (value : α) (next : α → Program S β) :
    (.ret value : Program S α) >>= next = next value :=
  rfl

@[simp]
theorem call_bind (request : S.Call) (resume : S.Answer request → Program S α)
    (next : α → Program S β) :
    (.call request resume : Program S α) >>= next =
      .call request fun answer => resume answer >>= next :=
  rfl

/-! ## Endless programs -/

/-- The next call of a loop that has been run up to `rest`; behind the end of a
turn it is the first call of the next turn. -/
def turn (body : α → Program S α) :
    Program S α → Option ((request : S.Call) × (S.Answer request → Program S α))
  | .call request resume => some ⟨request, resume⟩
  | .ret label =>
      match body label with
      | .call request resume => some ⟨request, resume⟩
      | .ret _ => none

/-- The next call belongs to the turn at hand or begins the next one. -/
theorem turn_eq_some {body : α → Program S α} {rest : Program S α} {request : S.Call}
    {resume : S.Answer request → Program S α} (next : rest.turn body = some ⟨request, resume⟩) :
    rest = .call request resume ∨
      ∃ label, rest = .ret label ∧ body label = .call request resume := by
  cases rest with
  | call first tail =>
      cases next
      exact Or.inl rfl
  | ret label =>
      rw [turn] at next
      cases start : body label with
      | ret value =>
          rw [start] at next
          contradiction
      | call first tail =>
          rw [start] at next
          cases next
          exact Or.inr ⟨label, rfl, start⟩

/-! ## Calls that are never made -/

section Always

variable (answers : (request : S.Call) → S.Answer request → Prop) (bad : S.Call → Prop)

/-- As long as its calls are answered as `answers` says, the program makes no
bad call and returns only values that meet `post`. -/
def Always (post : α → Prop) : Program S α → Prop
  | .ret value => post value
  | .call request resume =>
      ¬ bad request ∧ ∀ answer, answers request answer → Always post (resume answer)

@[simp]
theorem always_ret (post : α → Prop) (value : α) :
    Always answers bad post (.ret value : Program S α) ↔ post value :=
  Iff.rfl

@[simp]
theorem always_call (post : α → Prop) (request : S.Call)
    (resume : S.Answer request → Program S α) :
    Always answers bad post (.call request resume) ↔
      ¬ bad request ∧ ∀ answer, answers request answer →
        Always answers bad post (resume answer) :=
  Iff.rfl

@[simp]
theorem always_bind (post : β → Prop) (program : Program S α) (next : α → Program S β) :
    Always answers bad post (program >>= next) ↔
      Always answers bad (fun value => Always answers bad post (next value)) program := by
  induction program with
  | ret value => exact Iff.rfl
  | call request resume ih =>
      exact and_congr_right fun _ => forall_congr' fun answer => forall_congr' fun _ => ih answer

@[simp]
theorem always_ite (post : α → Prop) (condition : Prop) [Decidable condition]
    (first second : Program S α) :
    Always answers bad post (if condition then first else second) ↔
      if condition then Always answers bad post first else Always answers bad post second := by
  split <;> exact Iff.rfl

/-- Fewer calls may be called bad. -/
theorem Always.weaken {answers : (request : S.Call) → S.Answer request → Prop}
    {bad other : S.Call → Prop} (fewer : ∀ request, other request → bad request)
    {post : α → Prop} {program : Program S α} (always : Always answers bad post program) :
    Always answers other post program := by
  induction program with
  | ret value => exact always
  | call request resume ih =>
      rcases always with ⟨fine, rest⟩
      exact ⟨fun here => fine (fewer request here),
        fun answer answered => ih answer (rest answer answered)⟩

/-- A loop over a body that makes no bad call makes none. -/
theorem Always.turn {body : α → Program S α}
    (loop : ∀ label, Always answers bad (fun _ => True) (body label)) {rest : Program S α}
    (always : Always answers bad (fun _ => True) rest) {request : S.Call}
    {resume : S.Answer request → Program S α} (next : rest.turn body = some ⟨request, resume⟩) :
    ¬ bad request ∧ ∀ answer, answers request answer →
      Always answers bad (fun _ => True) (resume answer) := by
  rcases turn_eq_some next with rfl | ⟨label, rfl, start⟩
  · exact always
  · have first := loop label
    rw [start] at first
    exact first

end Always

/-! ## Big steps -/

section BigStep

variable {σ : Type*} (respond : σ → (request : S.Call) → S.Answer request → σ → Prop)

/-- The program can run from `before` to `after` and return `value`. -/
def Runs : Program S α → σ → α → σ → Prop
  | .ret result, before, value, after => value = result ∧ after = before
  | .call request resume, before, value, after =>
      ∃ answer middle, respond before request answer middle ∧
        Runs (resume answer) middle value after

@[simp]
theorem runs_ret (result value : α) (before after : σ) :
    Runs respond (.ret result) before value after ↔ value = result ∧ after = before :=
  Iff.rfl

@[simp]
theorem runs_call (request : S.Call) (resume : S.Answer request → Program S α)
    (before after : σ) (value : α) :
    Runs respond (.call request resume) before value after ↔
      ∃ answer middle, respond before request answer middle ∧
        Runs respond (resume answer) middle value after :=
  Iff.rfl

/-- A composition runs through an intermediate result and state. -/
theorem runs_bind (program : Program S α) (next : α → Program S β) (before after : σ)
    (value : β) :
    Runs respond (program >>= next) before value after ↔
      ∃ result middle, Runs respond program before result middle ∧
        Runs respond (next result) middle value after := by
  induction program generalizing before with
  | ret result => simp
  | call request resume ih =>
      rw [call_bind, runs_call]
      constructor
      · rintro ⟨answer, middle, step, rest⟩
        rcases (ih answer middle).mp rest with ⟨result, later, first, second⟩
        exact ⟨result, later, ⟨answer, middle, step, first⟩, second⟩
      · rintro ⟨result, later, ⟨answer, middle, step, first⟩, second⟩
        exact ⟨answer, middle, step, (ih answer middle).mpr ⟨result, later, first, second⟩⟩

/-- A map of states that respects the answers carries runs over. -/
theorem runs_map {τ : Type*} {respond : σ → (request : S.Call) → S.Answer request → σ → Prop}
    {other : τ → (request : S.Call) → S.Answer request → τ → Prop} {project : σ → τ}
    (respects : ∀ before request answer after, respond before request answer after →
      other (project before) request answer (project after))
    {program : Program S α} {before after : σ} {value : α}
    (run : Runs respond program before value after) :
    Runs other program (project before) value (project after) := by
  induction program generalizing before with
  | ret result =>
      rcases run with ⟨rfl, rfl⟩
      exact ⟨rfl, rfl⟩
  | call request resume ih =>
      rcases run with ⟨answer, middle, step, rest⟩
      exact ⟨answer, project middle, respects before request answer middle step, ih answer rest⟩

/-- If every call finds an answer in a state of a class and stays in the class,
then every program runs to its end. -/
theorem exists_runs {inv : σ → Prop}
    (answered : ∀ state, inv state → ∀ request, ∃ answer next,
      respond state request answer next ∧ inv next)
    (program : Program S α) (before : σ) (holds : inv before) :
    ∃ value after, Runs respond program before value after ∧ inv after := by
  induction program generalizing before with
  | ret result => exact ⟨result, before, ⟨rfl, rfl⟩, holds⟩
  | call request resume ih =>
      rcases answered before holds request with ⟨answer, middle, step, inside⟩
      rcases ih answer middle inside with ⟨value, after, rest, finished⟩
      exact ⟨value, after, ⟨answer, middle, step, rest⟩, finished⟩

end BigStep

end Program

end BerPiNbiot.Resumption
