import BerPiNbiot.Resumption.Section

/-!
# Typestates of programs

A typestate is what an observer remembers about the calls a program has made.
`Along` says of the rest of a program that, from a typestate on, it makes only
calls that are allowed there and returns only values that fit the typestate it
has reached.  It is a property of the rest of the program alone, so that a system
can keep it for each of its interleaved programs.
-/

namespace BerPiNbiot.Resumption.Program

universe u v

variable {S T : Signature.{u}} {α β : Type u} {Q : Type v}

section Along

variable (allowed : Q → S.Call → Prop)
  (moves : Q → (request : S.Call) → S.Answer request → Q → Prop)

/-- From a typestate on, every call is allowed and every result meets `post`. -/
def Along (post : α → Q → Prop) : Q → Program S α → Prop
  | before, .ret value => post value before
  | before, .call request resume =>
      allowed before request ∧
        ∀ answer after, moves before request answer after → Along post after (resume answer)

@[simp]
theorem along_ret (post : α → Q → Prop) (before : Q) (value : α) :
    Along allowed moves post before (.ret value : Program S α) ↔ post value before :=
  Iff.rfl

@[simp]
theorem along_call (post : α → Q → Prop) (before : Q) (request : S.Call)
    (resume : S.Answer request → Program S α) :
    Along allowed moves post before (.call request resume) ↔
      allowed before request ∧ ∀ answer after, moves before request answer after →
        Along allowed moves post after (resume answer) :=
  Iff.rfl

@[simp]
theorem along_bind (post : β → Q → Prop) (before : Q) (program : Program S α)
    (next : α → Program S β) :
    Along allowed moves post before (program >>= next) ↔
      Along allowed moves (fun value after => Along allowed moves post after (next value))
        before program := by
  induction program generalizing before with
  | ret value => exact Iff.rfl
  | call request resume ih =>
      apply and_congr_right
      intro _
      exact forall_congr' fun answer => forall_congr' fun after =>
        imp_congr_right fun _ => ih answer after

@[simp]
theorem along_ite (post : α → Q → Prop) (before : Q) (condition : Prop) [Decidable condition]
    (first second : Program S α) :
    Along allowed moves post before (if condition then first else second) ↔
      if condition then Along allowed moves post before first
      else Along allowed moves post before second := by
  split <;> exact Iff.rfl

end Along

variable {allowed : Q → S.Call → Prop}
  {moves : Q → (request : S.Call) → S.Answer request → Q → Prop}

/-- The results may be described more weakly. -/
theorem Along.mono {post other : α → Q → Prop} (weaker : ∀ value after, post value after →
    other value after) {before : Q} {program : Program S α}
    (along : Along allowed moves post before program) :
    Along allowed moves other before program := by
  induction program generalizing before with
  | ret value => exact weaker value before along
  | call request resume ih =>
      rcases along with ⟨here, rest⟩
      exact ⟨here, fun answer after moved => ih answer (rest answer after moved)⟩

/-- Replacing calls by code that behaves as the calls were said to. -/
theorem Along.expand {coarse : Q → S.Call → Prop}
    {coarseMoves : Q → (request : S.Call) → S.Answer request → Q → Prop}
    {fine : Q → T.Call → Prop}
    {fineMoves : Q → (request : T.Call) → T.Answer request → Q → Prop}
    {handler : (request : S.Call) → Program T (S.Answer request)}
    (handled : ∀ before request, coarse before request →
      Along fine fineMoves (coarseMoves before request) before (handler request))
    {post : α → Q → Prop} {before : Q} {program : Program S α}
    (along : Along coarse coarseMoves post before program) :
    Along fine fineMoves post before (program.expand handler) := by
  induction program generalizing before with
  | ret value => exact along
  | call request resume ih =>
      rcases along with ⟨here, rest⟩
      rw [Program.expand, along_bind]
      exact (handled before request here).mono fun answer after moved =>
        ih answer (rest answer after moved)

/-- A program that makes no bad call stays in a typestate that only bad calls
would leave. -/
theorem along_of_always {bad : S.Call → Prop} (rest : Q) {program : Program S α}
    (always : program.Always (fun _ _ => True) bad fun _ => True) :
    Along (fun before request => before = rest ∧ ¬ bad request)
      (fun before _ _ after => after = before) (fun _ after => after = rest) rest program := by
  induction program with
  | ret value => rfl
  | call request resume ih =>
      rcases always with ⟨fine, later⟩
      refine ⟨⟨rfl, fine⟩, ?_⟩
      rintro answer _ rfl
      exact ih answer (later answer trivial)

/-- A loop over a body that fits its labels does so call by call. -/
theorem Along.turn {body : α → Program S α} {post : α → Q → Prop}
    (loop : ∀ label before, post label before → Along allowed moves post before (body label))
    {before : Q} {rest : Program S α} (along : Along allowed moves post before rest)
    {request : S.Call} {resume : S.Answer request → Program S α}
    (next : rest.turn body = some ⟨request, resume⟩) :
    allowed before request ∧ ∀ answer after, moves before request answer after →
      Along allowed moves post after (resume answer) := by
  rcases turn_eq_some next with rfl | ⟨label, rfl, start⟩
  · exact along
  · have first := loop label before along
    rw [start] at first
    exact first

/-! ## Expansion of composed programs -/

@[simp]
theorem bind_assoc {γ : Type u} (program : Program S α) (next : α → Program S β)
    (later : β → Program S γ) :
    program >>= next >>= later = program >>= fun value => next value >>= later := by
  induction program with
  | ret value => rfl
  | call request resume ih =>
      rw [call_bind, call_bind, call_bind]
      congr 1
      funext answer
      exact ih answer

section Expand

variable (handler : (request : S.Call) → Program T (S.Answer request))

@[simp]
theorem expand_ret (value : α) : (.ret value : Program S α).expand handler = .ret value :=
  rfl

@[simp]
theorem expand_call (request : S.Call) (resume : S.Answer request → Program S α) :
    (.call request resume : Program S α).expand handler =
      handler request >>= fun answer => (resume answer).expand handler :=
  rfl

@[simp]
theorem expand_bind (program : Program S α) (next : α → Program S β) :
    (program >>= next).expand handler =
      program.expand handler >>= fun value => (next value).expand handler := by
  induction program with
  | ret value => rfl
  | call request resume ih =>
      rw [call_bind, expand_call, expand_call, bind_assoc]
      congr 1
      funext answer
      exact ih answer

@[simp]
theorem expand_ite (condition : Prop) [Decidable condition] (first second : Program S α) :
    (if condition then first else second).expand handler =
      if condition then first.expand handler else second.expand handler := by
  split <;> rfl

end Expand

end BerPiNbiot.Resumption.Program
