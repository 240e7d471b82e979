import BerPiNbiot.Resumption.Typestate
import BerPiNbiot.Transition.Core

/-!
# Watching a thread

A thread runs from label to label and calls functions on the way.  An observer
keeps a history of it: of the jumps, of the calls when they are made and when
they return, and of what the environment does meanwhile.  Whether a call can
return an answer may depend on the history.

`Follows` places a typestate of the program at the point the thread has reached,
before a call or inside one.
-/

namespace BerPiNbiot.Resumption

open BerPiNbiot.Transition

universe u v w

/-- What an observer does with its history. -/
structure Observer (S : Signature.{u}) (L : Type u) (G : Type v) (E : Type w) where
  arrive : G → L → G
  enter : G → S.Call → G
  leave : G → (request : S.Call) → S.Answer request → Option G
  notice : G → E → Option G

/-- Where a thread stands. -/
inductive Phase (S : Signature.{u}) (L : Type u)
  | outside (rest : Program S L)
  | inside (request : S.Call) (resume : S.Answer request → Program S L)

/-- A thread with its history. -/
structure Watched (S : Signature.{u}) (L : Type u) (G : Type v) where
  phase : Phase S L
  history : G

/-- The moves of a thread and of its environment. -/
inductive Watch (S : Signature.{u}) (E : Type w)
  | jump
  | enter
  | leave (request : S.Call) (answer : S.Answer request)
  | notice (event : E)

variable {S : Signature.{u}} {L : Type u} {G : Type v} {E : Type w}

section Step

variable [DecidableEq S.Call] (body : L → Program S L) (observer : Observer S L G E)

/-- One move of the thread or of its environment. -/
def Observer.step : Step (Watched S L G) (Watch S E)
  | ⟨.outside (.ret label), history⟩, .jump =>
      some ⟨.outside (body label), observer.arrive history label⟩
  | ⟨.outside (.call request resume), history⟩, .enter =>
      some ⟨.inside request resume, observer.enter history request⟩
  | ⟨.inside request resume, history⟩, .leave given answer =>
      if same : given = request then
        (observer.leave history request (same ▸ answer)).map fun after =>
          ⟨.outside (resume (same ▸ answer)), after⟩
      else none
  | ⟨phase, history⟩, .notice event =>
      (observer.notice history event).map fun after => ⟨phase, after⟩
  | _, _ => none

variable {body observer}

/-- Everything that a move can do. -/
theorem Observer.step_cases {state target : Watched S L G} {move : Watch S E}
    (moved : observer.step body state move = some target) :
    (∃ label, move = .jump ∧ state.phase = .outside (.ret label) ∧
      target = ⟨.outside (body label), observer.arrive state.history label⟩) ∨
    (∃ request resume, move = .enter ∧ state.phase = .outside (.call request resume) ∧
      target = ⟨.inside request resume, observer.enter state.history request⟩) ∨
    (∃ request resume answer after, move = .leave request answer ∧
      state.phase = .inside request resume ∧
      observer.leave state.history request answer = some after ∧
      target = ⟨.outside (resume answer), after⟩) ∨
    (∃ event after, move = .notice event ∧ observer.notice state.history event = some after ∧
      target = ⟨state.phase, after⟩) := by
  rcases state with ⟨phase, history⟩
  cases move with
  | jump =>
      rcases phase with (label | ⟨request, resume⟩) | ⟨request, resume⟩
      · exact Or.inl ⟨label, rfl, rfl, (Option.some.inj moved).symm⟩
      · contradiction
      · contradiction
  | enter =>
      rcases phase with (label | ⟨request, resume⟩) | ⟨request, resume⟩
      · contradiction
      · exact Or.inr (Or.inl ⟨request, resume, rfl, rfl, (Option.some.inj moved).symm⟩)
      · contradiction
  | leave given answer =>
      rcases phase with (label | ⟨request, resume⟩) | ⟨request, resume⟩
      · contradiction
      · contradiction
      · rw [Observer.step] at moved
        split at moved
        · rename_i same
          subst same
          rcases Option.map_eq_some_iff.mp moved with ⟨after, left, equal⟩
          exact Or.inr (Or.inr (Or.inl ⟨given, resume, answer, after, rfl, rfl, left, equal.symm⟩))
        · contradiction
  | notice event =>
      have noticed : (observer.notice history event).map (fun after => ⟨phase, after⟩) =
          some target := by
        rcases phase with (label | ⟨request, resume⟩) | ⟨request, resume⟩ <;> exact moved
      rcases Option.map_eq_some_iff.mp noticed with ⟨after, changed, equal⟩
      exact Or.inr (Or.inr (Or.inr ⟨event, after, rfl, changed, equal.symm⟩))

end Step

/-- The moves of the thread, for a number of them, when its calls return what
`outcome` says. -/
def Observer.drive [DecidableEq S.Call] (body : L → Program S L) (observer : Observer S L G E)
    (outcome : G → (request : S.Call) → S.Answer request) : Nat → Watched S L G → List (Watch S E)
  | 0, _ => []
  | moves + 1, state =>
      let move : Watch S E :=
        match state.phase with
        | .outside (.ret _) => .jump
        | .outside (.call ..) => .enter
        | .inside request _ => .leave request (outcome state.history request)
      match observer.step body state move with
      | none => []
      | some target => move :: observer.drive body outcome moves target

/-! ## Typestates of the thread -/

section Follows

variable {Q : Type*} (allowed : Q → S.Call → Prop) (opens : Q → S.Call → Q)
  (closes : Q → (request : S.Call) → S.Answer request → Q → Prop) (post : L → Q → Prop)

/-- The thread follows a typestate that changes when a call is made and again
when it returns. -/
def Follows : Phase S L → Q → Prop
  | .outside rest, state =>
      rest.Along allowed (fun before request => closes (opens before request) request) post state
  | .inside request resume, state =>
      ∀ answer after, closes state request answer after →
        (resume answer).Along allowed
          (fun before request => closes (opens before request) request) post after

variable {allowed opens closes post}

theorem follows_enter {request : S.Call} {resume : S.Answer request → Program S L} {state : Q}
    (follows : Follows allowed opens closes post (.outside (.call request resume)) state) :
    allowed state request ∧
      Follows allowed opens closes post (.inside request resume) (opens state request) :=
  follows

theorem follows_leave {request : S.Call} {resume : S.Answer request → Program S L}
    {state after : Q} {answer : S.Answer request}
    (follows : Follows allowed opens closes post (.inside request resume) state)
    (left : closes state request answer after) :
    Follows allowed opens closes post (.outside (resume answer)) after :=
  follows answer after left

end Follows

end BerPiNbiot.Resumption
