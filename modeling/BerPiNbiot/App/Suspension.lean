import BerPiNbiot.App.NetPosition
import BerPiNbiot.Modem.Reboot

/-!
# Suspending the uploader in time

`net_entry` suspends the uploader right behind the receive of an event.  An event
comes when a publish has failed, and then the uploader stands outside its AT
commands, or when the module has rebooted, and then it may stand anywhere.

What decides is where the uploader stands when the event is consumed, and what it
does before the suspension follows: a wait inside a transaction protects it, but
not when the answer of the module comes in between.
-/

namespace BerPiNbiot.App.Recovery

open BerPiNbiot.Kernel
open BerPiNbiot.Modem
open BerPiNbiot.Resumption
open BerPiNbiot.Text
open BerPiNbiot.Transition

/-! ## Events and their timing -/

/-- The uploader is ready and owns the AT lock: it stands inside a transaction,
and `rt_thread_suspend` would take it. -/
def Publishing (state : State) : Prop :=
  state.status .dataUp = .ready ∧ state.lock.owner = some .dataUp

/-- `rt_event_send(net_error, set)` serves the waiting network thread. -/
def State.serves (state : State) (set : EventSet) : Bool :=
  match state.status .net, (state.work .net).next with
  | .blocked, some ⟨.driver (.eventRecv .netError flag requested _), _⟩ =>
      (rtEventRecv flag requested (rtEventSend state.netError set)).isSome
  | _, _ => false

/-- Between an event and the suspension the network thread is ready, and the
uploader is not both ready and the owner of the lock. -/
def State.Window (state : State) : Prop :=
  Suspends state .net → state.status .net = .ready ∧ ¬ Publishing state

/-- The window stays as it is. -/
theorem State.Window.congr {state target : State} (window : state.Window)
    (work : target.work .net = state.work .net) (status : target.status .net = state.status .net)
    (publishing : Suspends state .net → Publishing target → Publishing state) :
    target.Window := by
  intro suspends
  have before : Suspends state .net := by
    rw [Suspends, ← work]
    exact suspends
  rcases window before with ⟨ready, apart⟩
  exact ⟨status.trans ready, fun here => apart (publishing before here)⟩

/-- The two outcomes of a send to `net_error`. -/
theorem sendNetError_cases (state : State) (set : EventSet) :
    (state.serves set = true ∧ state.status .net = .blocked ∧
      ∃ flag requested timeout resume received left,
        (state.work .net).next =
          some ⟨.driver (.eventRecv .netError flag requested timeout), resume⟩ ∧
        state.sendNetError set =
          { (state.setWork .net (resume (some received))).setStatus .net .ready with
            netError := left }) ∨
      state.serves set = false ∧
        state.sendNetError set = { state with netError := rtEventSend state.netError set } := by
  unfold State.sendNetError
  simp only
  split
  · rename_i flag requested timeout resume blocked next
    have served : state.serves set =
        (rtEventRecv flag requested (rtEventSend state.netError set)).isSome := by
      simp only [State.serves, blocked, next]
    rw [served]
    split
    · rename_i received left kernel
      rw [kernel]
      exact Or.inl ⟨rfl, blocked, flag, requested, timeout, resume, received, left, next, rfl⟩
    · rename_i kernel
      rw [kernel]
      exact Or.inr ⟨rfl, rfl⟩
  · rename_i waits
    refine Or.inr ⟨?_, rfl⟩
    unfold State.serves
    split
    · rename_i flag requested timeout resume blocked next
      exact (waits flag requested timeout resume blocked next).elim
    · rfl

/-! ## The lock behind a call -/

theorem State.Assigned.sendNetError {state : State} (assigned : state.Assigned) (set : EventSet) :
    (state.sendNetError set).Assigned := by
  rcases sendNetError_cases state set with
    ⟨_, _, _, _, _, resume, received, _, next, served⟩ | ⟨_, pending⟩
  · rw [served]
    exact (assigned.proceed next (some received)).congr rfl
  · rw [pending]
    exact assigned.congr rfl

theorem State.Assigned.resumeDataUp {state : State} (assigned : state.Assigned) :
    state.resumeDataUp.Assigned := by
  unfold State.resumeDataUp
  split
  · exact assigned.congr rfl
  · exact assigned.congr rfl
  · have locked : State.Assigned { state with
        lock := { state.lock with waiting := state.lock.waiting.erase .dataUp } } :=
      assigned.congr rfl
    exact locked.pass .dataUp
  · exact assigned
  · exact assigned

section Calls

variable {state target : State} {thread : Thread} {reply : (request : AtCall) → request.Answer}

end Calls

/-! ## Moves -/

/-- What holds along timed runs. -/
structure State.Watched (state : State) : Prop where
  placed : state.Placed
  assigned : state.Assigned
  window : state.Window

/-- A suspension in time finds the uploader clear. -/
theorem State.Watched.clear {state : State} (watched : state.Watched) (move : Move) :
    Clear state move := by
  cases move with
  | run thread reply =>
      intro _ suspends readyUp
      have net := watched.assigned.eq_net suspends
      subst net
      exact Or.inr fun owner => (watched.window suspends).2 ⟨readyUp, owner⟩
  | _ => exact trivial

/-- The next call of the network thread suspends the owner of the lock. -/
structure Doomed (state : State) : Prop where
  suspends : Suspends state .net
  ready : state.status .net = .ready
  publishing : Publishing state

/-- The call of the network thread that follows gets the uploader stuck. -/
theorem Doomed.stuck {state : State} (doomed : Doomed state) (placed : state.Placed)
    (reply : (request : AtCall) → request.Answer) :
    ∃ after, step state (.run .net reply) = some after ∧ Stuck after := by
  apply stuck_of_not_clear
  intro clear
  have apart := clear doomed.ready doomed.suspends doomed.publishing.1
  exact apart.elim placed.not_owner id doomed.publishing.2

end BerPiNbiot.App.Recovery
