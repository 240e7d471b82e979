import BerPiNbiot.Resumption.Core

/-!
# Sections of programs

Some calls enter a section and some leave it.  A program is bracketed when it
enters only from outside, leaves only from inside, and is outside when it
returns.  Being inside or outside is then a property of the rest of the program
alone, so that a system of interleaved programs can speak about the position of
each of them.

`expand` replaces the calls of a program by programs over a finer signature, so
that a call of the coarser one can become a section of the finer one.
-/

namespace BerPiNbiot.Resumption.Program

universe u

variable {S T : Signature.{u}} {α β : Type u}

/-- Replace every call by a program over another signature. -/
def expand (handler : (request : S.Call) → Program T (S.Answer request)) :
    Program S α → Program T α
  | .ret value => .ret value
  | .call request resume => handler request >>= fun answer => (resume answer).expand handler

/-- A program makes no bad call when its calls are expanded to programs that
make none. -/
theorem always_expand {answers : (request : T.Call) → T.Answer request → Prop}
    {bad : T.Call → Prop} {handler : (request : S.Call) → Program T (S.Answer request)}
    (handled : ∀ request, Always answers bad (fun _ => True) (handler request))
    (program : Program S α) : Always answers bad (fun _ => True) (program.expand handler) := by
  induction program with
  | ret value => exact trivial
  | call request resume ih =>
      rw [expand, always_bind]
      simp only [ih]
      exact handled request

/-- The same for a program that avoids the calls whose code is unknown. -/
theorem Always.expand {coarse : S.Call → Prop} {bad : T.Call → Prop}
    {handler : (request : S.Call) → Program T (S.Answer request)}
    (handled : ∀ request, ¬ coarse request →
      Always (fun _ _ => True) bad (fun _ => True) (handler request))
    {program : Program S α} (avoids : program.Always (fun _ _ => True) coarse fun _ => True) :
    Always (fun _ _ => True) bad (fun _ => True) (program.expand handler) := by
  induction program with
  | ret value => exact trivial
  | call request resume ih =>
      rcases avoids with ⟨fine, rest⟩
      have later : ∀ answer, Always (fun _ _ => True) bad (fun _ => True)
          ((resume answer).expand handler) := fun answer => ih answer (rest answer trivial)
      rw [Program.expand, always_bind]
      simp only [later]
      exact handled request fine

/-- What a call does to a section. -/
inductive Mark
  | enter
  | leave
  | stay
  deriving DecidableEq, Repr

/-- The position behind a call, if the call may be made there. -/
def Mark.move : Mark → Bool → Option Bool
  | .enter, false => some true
  | .leave, true => some false
  | .stay, inside => some inside
  | _, _ => none

/-- A call is never made from both positions with the same position behind it. -/
theorem Mark.move_injective {mark : Mark} {first second after : Bool}
    (fromFirst : mark.move first = some after) (fromSecond : mark.move second = some after) :
    first = second := by
  cases mark <;> cases first <;> cases second <;> simp_all [Mark.move]

variable (mark : S.Call → Mark)

/-- From a position inside or outside, the program respects the section and
ends outside. -/
def Bracketed (inside : Bool) : Program S α → Prop
  | .ret _ => inside = false
  | .call request resume =>
      ∃ after, (mark request).move inside = some after ∧
        ∀ answer, Bracketed after (resume answer)

variable {mark}

@[simp]
theorem bracketed_ret (inside : Bool) (value : α) :
    Bracketed mark inside (.ret value : Program S α) ↔ inside = false :=
  Iff.rfl

@[simp]
theorem bracketed_call (inside : Bool) (request : S.Call)
    (resume : S.Answer request → Program S α) :
    Bracketed mark inside (.call request resume) ↔
      ∃ after, (mark request).move inside = some after ∧
        ∀ answer, Bracketed mark after (resume answer) :=
  Iff.rfl

theorem bracketed_bind {inside : Bool} {program : Program S α} {next : α → Program S β}
    (first : Bracketed mark inside program) (second : ∀ value, Bracketed mark false (next value)) :
    Bracketed mark inside (program >>= next) := by
  induction program generalizing inside with
  | ret value =>
      have outside : inside = false := first
      subst outside
      exact second value
  | call request resume ih =>
      rcases first with ⟨after, moved, rest⟩
      exact ⟨after, moved, fun answer => ih answer (rest answer)⟩

/-- A program that makes none of the bad calls is bracketed as soon as the other
calls are expanded to bracketed programs. -/
theorem bracketed_expand {mark : T.Call → Mark} {bad : S.Call → Prop}
    {handler : (request : S.Call) → Program T (S.Answer request)}
    (handled : ∀ request, ¬ bad request → Bracketed mark false (handler request))
    {program : Program S α}
    (avoids : program.Always (fun _ _ => True) bad fun _ => True) :
    Bracketed mark false (program.expand handler) := by
  induction program with
  | ret value => rfl
  | call request resume ih =>
      rcases avoids with ⟨other, rest⟩
      exact bracketed_bind (handled request other) fun answer => ih answer (rest answer trivial)

/-- A loop over a bracketed body stays bracketed call by call. -/
theorem Bracketed.turn {body : α → Program S α} (loop : ∀ label, Bracketed mark false (body label))
    {inside : Bool} {rest : Program S α} (placed : Bracketed mark inside rest) {request : S.Call}
    {resume : S.Answer request → Program S α} (next : rest.turn body = some ⟨request, resume⟩) :
    ∃ after, (mark request).move inside = some after ∧
      ∀ answer, Bracketed mark after (resume answer) := by
  rcases turn_eq_some next with rfl | ⟨label, rfl, start⟩
  · exact placed
  · have outside : inside = false := placed
    subst outside
    have bracketed := loop label
    rw [start] at bracketed
    exact bracketed

/-- When all calls can be answered, a program is at one position only. -/
theorem Bracketed.unique (answerable : ∀ request, Nonempty (S.Answer request))
    {first second : Bool} {program : Program S α} (one : Bracketed mark first program)
    (other : Bracketed mark second program) : first = second := by
  induction program generalizing first second with
  | ret value => exact Eq.trans one (Eq.symm other)
  | call request resume ih =>
      rcases one with ⟨after, moved, rest⟩
      rcases other with ⟨later, movedOther, restOther⟩
      rcases answerable request with ⟨answer⟩
      have same : after = later := ih answer (rest answer) (restOther answer)
      subst same
      exact Mark.move_injective moved movedOther

end BerPiNbiot.Resumption.Program
