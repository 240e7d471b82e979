import BerPiNbiot.App.Net
import BerPiNbiot.Kernel.Mutex
import BerPiNbiot.Modem.Psm
import BerPiNbiot.Modem.Transaction
import BerPiNbiot.Transition.Core

/-!
# Recovery and the uploader

On an error the network thread suspends the uploader and then talks to the
module.  `rt_thread_suspend` takes any thread that is ready, also one that has
just been woken inside `at_obj_exec_cmd` and still owns the AT lock; the
commands of the recovery then wait for a thread that waits for the recovery.

The network thread, the uploader, the notification handler and the kernel's view
of the AT lock and of `net_error` are interleaved call by call, with the calls
inside the AT transactions.  The remaining threads may run any driver code that
leaves the uploader's thread alone.
What is read from the shared records and what the module answers is arbitrary.
-/

namespace BerPiNbiot.App.Recovery

open BerPiNbiot.Kernel
open BerPiNbiot.Modem
open BerPiNbiot.Resumption
open BerPiNbiot.Text
open BerPiNbiot.Transition

/-! ## The uploader -/

/-- The positions of `data_up_entry` between which it runs; `stat` is its
label. -/
inductive DataUpLabel
  | entry
  | loop
  | stat
  deriving DecidableEq, Repr

/-- `qsdk_nb_exit_psm` -/
def qsdkNbExitPsm : Code Unit :=
  eventSend .nbEvent eventExitPsm

/-- `rt_mb_recv(Send_data_mailbox, &receive_buf, RT_WAITING_FOREVER) == RT_EOK` -/
def sendDataMailRecv : Code Bool :=
  .call .sendDataMailRecv .ret

/-- The text behind `receive_buf` -/
def readSendData : Code Bytes :=
  .call .readSendData .ret

/-- `data_up_entry`, from one position to the next. -/
def dataUpEntry : DataUpLabel → Code DataUpLabel
  | .entry => do
      let _ ← rtMalloc 200
      return .loop
  | .loop => do
      if ← qsdkMqttGetConnect then
        if ← getPsmStatus then
          qsdkNbExitPsm
        if ← sendDataMailRecv then
          return .stat
      threadDelay 4000
      return .loop
  | .stat => do
      let receiveBuf ← readSendData
      if !(← qsdkMqttPubStream receiveBuf 1) then
        eventSend .netError sendError
        return .stat
      threadDelay 4000
      return .loop

/-! ## Threads and kernel objects -/

/-- `thread->stat`, with the reason of a wait.  A running thread counts as
ready. -/
inductive Status
  | init
  | ready
  | onLock
  | blocked
  | suspended
  deriving DecidableEq, Repr

/-- What is left of a thread's work. -/
inductive Work
  | net (rest : AtCode NetLabel)
  | dataUp (rest : AtCode DataUpLabel)
  | function (rest : AtCode Unit)

/-- The call that a thread makes next, and its work behind the answer. -/
def Work.next : Work → Option ((request : AtCall) × (request.Answer → Work))
  | .net rest =>
      (rest.turn fun label => transacted (netEntry label)).map fun call =>
        ⟨call.1, fun answer => .net (call.2 answer)⟩
  | .dataUp rest =>
      (rest.turn fun label => transacted (dataUpEntry label)).map fun call =>
        ⟨call.1, fun answer => .dataUp (call.2 answer)⟩
  | .function (.call request resume) => some ⟨request, fun answer => .function (resume answer)⟩
  | .function (.ret _) => none

/-- The AT lock, the pending flags of `net_error` and the threads. -/
structure State where
  lock : Mutex Thread := {}
  netError : EventSet := 0
  status : Thread → Status
  work : Thread → Work

/-- The network thread has been started, the uploader has been created. -/
def State.initial : State where
  status thread := if thread = .dataUp then .init else .ready
  work
    | .net => .net (transacted (netEntry (.netRecon 0)))
    | .dataUp => .dataUp (transacted (dataUpEntry .entry))
    | _ => .function (.ret ())

/-- A thread gets another status. -/
def State.setStatus (state : State) (thread : Thread) (status : Status) : State :=
  { state with status := fun other => if other = thread then status else state.status other }

/-- A thread goes on with other work. -/
def State.setWork (state : State) (thread : Thread) (work : Work) : State :=
  { state with work := fun other => if other = thread then work else state.work other }

/-- A thread that waits for the lock returns from `rt_mutex_take`. -/
def State.pass (state : State) (thread : Thread) : State :=
  match (state.work thread).next with
  | some ⟨.driver .lockTake, resume⟩ => (state.setWork thread (resume ())).setStatus thread .ready
  | _ => state

/-- `rt_thread_startup(data_up_thread_id)` -/
def State.startupDataUp (state : State) : State :=
  if state.status .dataUp = .init then state.setStatus .dataUp .ready else state

/-- `rt_thread_suspend(data_up_thread_id)` -/
def State.suspendDataUp (state : State) : State :=
  if state.status .dataUp = .ready then state.setStatus .dataUp .suspended else state

/-- `rt_thread_resume(data_up_thread_id)`: any wait of the thread ends, and a
wait for the lock ends as if the lock had been taken. -/
def State.resumeDataUp (state : State) : State :=
  match state.status .dataUp with
  | .suspended | .blocked => state.setStatus .dataUp .ready
  | .onLock =>
      { state with lock := { state.lock with waiting := state.lock.waiting.erase .dataUp } }.pass
        .dataUp
  | .init | .ready => state

/-- `rt_event_send(net_error, set)`; the network thread is served at once if it
waits for one of the flags. -/
def State.sendNetError (state : State) (set : EventSet) : State :=
  let pending := rtEventSend state.netError set
  match state.status .net, (state.work .net).next with
  | .blocked, some ⟨.driver (.eventRecv .netError flag requested _), resume⟩ =>
      match rtEventRecv flag requested pending with
      | some (received, left) =>
          { (state.setWork .net (resume (some received))).setStatus .net .ready with
            netError := left }
      | none => { state with netError := pending }
  | _, _ => { state with netError := pending }

/-- What a notification does to `net_error`. -/
def State.deliver (state : State) : Effect → State
  | .sendNetError set => state.sendNetError set
  | .sendNbEvent _ | .dataCallback .. => state
  -- These threads exist only behind the creation of `net_error`.
  | .assertionFailed => state

/-! ## Moves -/

/-- Calls that can make a thread wait, other than for the lock. -/
def mayWait (netError : EventSet) : AtCall → Bool
  | .respNotice _ => true
  | .driver (.threadDelay _) | .driver .sendDataMailRecv => true
  -- The heap is protected by a semaphore.
  | .driver (.malloc _) | .driver .deleteResp => true
  | .driver (.eventRecv .nbEvent ..) => true
  | .driver (.eventRecv .netError flag set _) => (rtEventRecv flag set netError).isNone
  | _ => false

/-- Waits that end by something else than a send to `net_error`. -/
def mayWake : AtCall → Bool
  | .driver (.eventRecv .netError ..) => false
  | _ => true

/-- The next call of a ready thread is made; `reply` answers the calls whose
answer is open here. -/
def State.answer (state : State) (thread : Thread) (reply : (request : AtCall) → request.Answer) :
    (request : AtCall) → (request.Answer → Work) → Option State
  | .driver .lockTake, resume =>
      match rtMutexTake thread state.lock with
      | (true, lock) => some ({ state with lock }.setWork thread (resume ()))
      | (false, lock) => some ({ state with lock }.setStatus thread .onLock)
  | .driver .lockRelease, resume =>
      let after := { state with lock := (rtMutexRelease thread state.lock).1 }.setWork thread
        (resume ())
      match (rtMutexRelease thread state.lock).2 with
      | none => some after
      | some woken => some (after.pass woken)
  | .driver .dataUpStartup, resume => some (state.startupDataUp.setWork thread (resume ()))
  | .driver .dataUpSuspend, resume => some (state.suspendDataUp.setWork thread (resume ()))
  | .driver .dataUpResume, resume => some (state.resumeDataUp.setWork thread (resume ()))
  | .driver (.eventSend .netError set), resume =>
      some ((state.sendNetError set).setWork thread (resume ()))
  | .driver (.eventRecv .netError flag set _), resume =>
      match rtEventRecv flag set state.netError with
      | some (received, left) =>
          some ({ state with netError := left }.setWork thread (resume (some received)))
      | none => none
  | request, resume => some (state.setWork thread (resume (reply request)))

/-- A call on the uploader's thread. -/
def Controls : Call → Prop
  | .dataUpStartup | .dataUpSuspend | .dataUpResume => True
  | _ => False

/-- Driver code of a thread other than the network thread, which alone starts,
suspends and resumes the uploader. -/
structure OtherCode where
  code : Code Unit
  leaves : code.Always (fun _ _ => True) Controls fun _ => True

/-- A move of the system. -/
inductive Move
  /-- A ready thread makes its next call and continues. -/
  | run (thread : Thread) (reply : (request : AtCall) → request.Answer)
  /-- A ready thread has to wait in its next call. -/
  | block (thread : Thread)
  /-- The wait of a thread ends. -/
  | wake (thread : Thread)
  /-- Another thread calls driver code. -/
  | enter (thread : Thread) (other : OtherCode)
  /-- The parser calls `nb_reboot_func`. -/
  | urc (data : Bytes) (driver : Driver)

/-- The moves of the interleaved threads. -/
def step : Step State Move
  | state, .run thread reply =>
      if state.status thread = .ready then
        match (state.work thread).next with
        | some ⟨request, resume⟩ => state.answer thread reply request resume
        | none => none
      else
        none
  | state, .block thread =>
      match state.status thread, (state.work thread).next with
      | .ready, some ⟨request, _⟩ =>
          if mayWait state.netError request then some (state.setStatus thread .blocked) else none
      | _, _ => none
  | state, .wake thread =>
      match state.status thread, (state.work thread).next with
      | .blocked, some ⟨request, _⟩ =>
          if mayWake request then some (state.setStatus thread .ready) else none
      | _, _ => none
  | state, .enter thread other =>
      if thread ≠ .dataUp ∧ state.status thread = .ready ∧ (state.work thread).next.isNone then
        some (state.setWork thread (.function (transacted other.code)))
      else
        none
  | state, .urc data driver =>
      some ((nbRebootFunc data { driver with netErrorCreated := true }).2.foldl State.deliver state)

/-- The uploader has been suspended while it owns the AT lock. -/
def Stuck (state : State) : Prop :=
  state.status .dataUp = .suspended ∧ state.lock.owner = some .dataUp

instance : DecidablePred Stuck := fun state =>
  inferInstanceAs (Decidable
    (state.status .dataUp = .suspended ∧ state.lock.owner = some .dataUp))

/-! ## The uploader and the locked section -/

/-- The uploader's work stands inside or outside the locked section of an AT
transaction. -/
def Work.Stands (inside : Bool) : Work → Prop
  | .dataUp rest => rest.Bracketed lockMark inside
  | _ => False

/-- The uploader leaves the lock to its transactions. -/
theorem avoids_dataUpEntry (label : DataUpLabel) :
    (dataUpEntry label).Always (fun _ _ => True) UsesLock fun _ => True := by
  cases label with
  | entry => simp [dataUpEntry, rtMalloc, UsesLock]
  | loop =>
      simp [dataUpEntry, qsdkMqttGetConnect, readMqtt, getPsmStatus, readPsmStatus, qsdkNbExitPsm,
        eventSend, sendDataMailRecv, threadDelay, UsesLock]
  | stat =>
      simp [dataUpEntry, readSendData, qsdkMqttPubStream, rtMalloc, writeMqtt, atObjExecCmd, pubAck,
        eventSend, threadDelay, always_pollAck, UsesLock]

/-- A call moves the uploader as its mark says. -/
theorem Work.Stands.next {inside : Bool} {work : Work} (stands : work.Stands inside)
    {request : AtCall} {resume : request.Answer → Work}
    (next : work.next = some ⟨request, resume⟩) :
    ∃ after, (lockMark request).move inside = some after ∧
      ∀ answer, (resume answer).Stands after := by
  cases work with
  | net rest => contradiction
  | function rest => contradiction
  | dataUp rest =>
      rw [Work.next, Option.map_eq_some_iff] at next
      rcases next with ⟨⟨first, tail⟩, turned, equal⟩
      cases equal
      exact Program.Bracketed.turn (fun label => bracketed_transacted (avoids_dataUpEntry label))
        stands turned

theorem Work.Stands.unique {first second : Bool} {work : Work} (one : work.Stands first)
    (other : work.Stands second) : first = second := by
  cases work with
  | net rest => contradiction
  | function rest => contradiction
  | dataUp rest => exact Program.Bracketed.unique AtCall.nonempty_answer one other

/-! ## The invariant -/

/-- The uploader owns the lock only inside a transaction and with one hold, it
waits in the queue only while it makes the call that takes the lock, and it is
not suspended as the owner. -/
structure Placed (lock : Mutex Thread) (status : Status) (work : Work) : Prop where
  free : lock.owner = none → lock.hold = 0
  position : ∃ inside, work.Stands inside ∧
    (lock.owner = some .dataUp → inside = true ∧ lock.hold = 1)
  waits : .dataUp ∈ lock.waiting → status = .onLock
  once : lock.waiting.count .dataUp ≤ 1
  onLock : status = .onLock → ∃ resume, work.next = some ⟨.driver .lockTake, resume⟩
  apart : status = .suspended → lock.owner ≠ some .dataUp

namespace Placed

variable {lock : Mutex Thread} {status : Status} {work : Work}

/-- A change of the status that is no wait for the lock. -/
theorem setStatus (placed : Placed lock status work) (notWaiting : status ≠ .onLock)
    {target : Status} (notOnLock : target ≠ .onLock)
    (apart : target = .suspended → lock.owner ≠ some .dataUp) : Placed lock target work where
  free := placed.free
  position := placed.position
  waits member := absurd (placed.waits member) notWaiting
  once := placed.once
  onLock waiting := absurd waiting notOnLock
  apart := apart

/-- A call of the uploader that leaves the lock alone. -/
theorem stay (placed : Placed lock status work) (notWaiting : status ≠ .onLock)
    {request : AtCall} {resume : request.Answer → Work}
    (next : work.next = some ⟨request, resume⟩) (stays : lockMark request = .stay)
    (answer : request.Answer) : Placed lock status (resume answer) := by
  rcases placed.position with ⟨inside, stands, owned⟩
  rcases stands.next next with ⟨after, moved, rest⟩
  rw [stays] at moved
  cases moved
  exact ⟨placed.free, ⟨inside, rest answer, owned⟩, placed.waits, placed.once,
    fun waiting => absurd waiting notWaiting, placed.apart⟩

/-- The uploader is outside before it takes the lock and inside behind it. -/
theorem taking (placed : Placed lock status work) {resume : Unit → Work}
    (next : work.next = some ⟨.driver .lockTake, resume⟩) :
    lock.owner ≠ some .dataUp ∧ (resume ()).Stands true := by
  rcases placed.position with ⟨inside, stands, owned⟩
  rcases stands.next next with ⟨after, moved, rest⟩
  cases inside with
  | true => contradiction
  | false =>
      cases moved
      exact ⟨fun owner => absurd (owned owner).1 Bool.false_ne_true, rest ()⟩

/-- The uploader gets the lock and returns from its take. -/
theorem granted (placed : Placed lock status work) {resume : Unit → Work}
    (next : work.next = some ⟨.driver .lockTake, resume⟩) {given : Mutex Thread}
    (owner : given.owner = some .dataUp) (hold : given.hold = 1)
    (gone : .dataUp ∉ given.waiting) : Placed given .ready (resume ()) where
  free unowned := by
    rw [owner] at unowned
    contradiction
  position := ⟨true, (placed.taking next).2, fun _ => ⟨rfl, hold⟩⟩
  waits member := absurd member gone
  once := by
    rw [List.count_eq_zero_of_not_mem gone]
    exact Nat.zero_le 1
  onLock := Status.noConfusion
  apart := Status.noConfusion

/-- The uploader returns from its take without the lock. -/
theorem cutShort (placed : Placed lock status work) {resume : Unit → Work}
    (next : work.next = some ⟨.driver .lockTake, resume⟩) :
    Placed { lock with waiting := lock.waiting.erase .dataUp } .ready (resume ()) := by
  rcases placed.taking next with ⟨notOwner, inside⟩
  have none : (lock.waiting.erase .dataUp).count .dataUp = 0 := by
    rw [List.count_erase_self]
    exact Nat.sub_eq_zero_of_le placed.once
  exact ⟨placed.free, ⟨true, inside, fun owner => absurd owner notOwner⟩,
    fun member => absurd member (List.count_eq_zero.mp none),
    none.trans_le (Nat.zero_le 1), Status.noConfusion, Status.noConfusion⟩

/-- The uploader takes the lock or is queued for it. -/
theorem take (placed : Placed lock .ready work) {resume : Unit → Work}
    (next : work.next = some ⟨.driver .lockTake, resume⟩) {taken : Bool} {after : Mutex Thread}
    (result : rtMutexTake .dataUp lock = (taken, after)) :
    if taken then Placed after .ready (resume ()) else Placed after .onLock work := by
  have notOwner := (placed.taking next).1
  have gone : .dataUp ∉ lock.waiting := fun member => Status.noConfusion (placed.waits member)
  rw [rtMutexTake, if_neg notOwner] at result
  split at result
  · rename_i unowned
    cases result
    have hold : lock.hold + 1 = 1 := by
      rw [placed.free unowned]
      rfl
    exact placed.granted next rfl hold gone
  · cases result
    refine ⟨placed.free, placed.position, fun _ => rfl, ?_, fun _ => ⟨resume, next⟩,
      Status.noConfusion⟩
    rw [List.count_append, List.count_eq_zero_of_not_mem gone]
    exact le_refl 1

/-- The uploader releases the lock and hands it over to another thread. -/
theorem release (placed : Placed lock .ready work) {resume : Unit → Work}
    (next : work.next = some ⟨.driver .lockRelease, resume⟩) :
    Placed (rtMutexRelease .dataUp lock).1 .ready (resume ()) ∧
      (rtMutexRelease .dataUp lock).2 ≠ some .dataUp := by
  rcases placed.position with ⟨inside, stands, owned⟩
  rcases stands.next next with ⟨after, moved, rest⟩
  have outside : after = false := by
    cases inside with
    | true => exact (Option.some.inj moved).symm
    | false => contradiction
  subst outside
  have gone : .dataUp ∉ lock.waiting := fun member => Status.noConfusion (placed.waits member)
  rw [rtMutexRelease]
  split
  · rename_i notOwner
    exact ⟨⟨placed.free, ⟨false, rest (), fun owner => absurd owner notOwner⟩, placed.waits,
      placed.once, nofun, nofun⟩, nofun⟩
  · rename_i owner
    rw [not_not] at owner
    rw [(owned owner).2, if_neg (by decide)]
    cases queue : lock.waiting with
    | nil =>
        exact ⟨⟨fun _ => rfl, ⟨false, rest (), nofun⟩, nofun, Nat.zero_le 1, nofun, nofun⟩, nofun⟩
    | cons first others =>
        rw [queue, List.mem_cons, not_or] at gone
        have different : some first ≠ some Thread.dataUp :=
          fun same => gone.1 (Option.some.inj same).symm
        refine ⟨⟨nofun, ⟨false, rest (), fun owner => absurd owner different⟩,
          fun member => absurd member gone.2, ?_, nofun, nofun⟩, different⟩
        rw [List.count_eq_zero_of_not_mem gone.2]
        exact Nat.zero_le 1

/-- Another thread takes the lock or is queued for it. -/
theorem takeOther (placed : Placed lock status work) {thread : Thread} (other : thread ≠ .dataUp) :
    Placed (rtMutexTake thread lock).2 status work := by
  have different : some thread ≠ some Thread.dataUp := fun same => other (Option.some.inj same)
  rcases placed.position with ⟨inside, stands, owned⟩
  rw [rtMutexTake]
  split
  · rename_i owner
    have notOwner : lock.owner ≠ some .dataUp := by
      rw [owner]
      exact different
    refine ⟨fun unowned => ?_, ⟨inside, stands, fun owner => absurd owner notOwner⟩, placed.waits,
      placed.once, placed.onLock, placed.apart⟩
    rw [owner] at unowned
    contradiction
  · split
    · exact ⟨fun free => absurd free (Option.some_ne_none _),
        ⟨inside, stands, fun owner => absurd owner different⟩, placed.waits,
        placed.once, placed.onLock, fun _ => different⟩
    · refine ⟨placed.free, placed.position, fun member => ?_, ?_, placed.onLock, placed.apart⟩
      · rw [List.mem_append, List.mem_singleton] at member
        exact placed.waits (member.resolve_right fun same => other same.symm)
      · rw [List.count_append, List.count_singleton, if_neg (by simpa using other)]
        exact placed.once

/-- Another thread releases the lock, and hands it over to the uploader or to
somebody else. -/
theorem releaseOther (placed : Placed lock status work) {thread : Thread}
    (other : thread ≠ .dataUp) :
    if (rtMutexRelease thread lock).2 = some .dataUp then
      ∃ resume, work.next = some ⟨.driver .lockTake, resume⟩ ∧
        Placed (rtMutexRelease thread lock).1 .ready (resume ())
    else
      Placed (rtMutexRelease thread lock).1 status work := by
  rcases placed.position with ⟨inside, stands, owned⟩
  rw [rtMutexRelease]
  split
  · exact placed
  · rename_i owner
    rw [not_not] at owner
    have notOwner : lock.owner ≠ some .dataUp := by
      rw [owner]
      exact fun same => other (Option.some.inj same)
    split
    · refine ⟨fun unowned => ?_, ⟨inside, stands, fun owner => absurd owner notOwner⟩,
        placed.waits, placed.once, placed.onLock, placed.apart⟩
      rw [owner] at unowned
      contradiction
    · cases queue : lock.waiting with
      | nil =>
          exact ⟨fun _ => rfl, ⟨inside, stands, nofun⟩, nofun, Nat.zero_le 1, placed.onLock, nofun⟩
      | cons first others =>
          have once := placed.once
          rw [queue] at once
          by_cases uploader : first = .dataUp
          · subst uploader
            rcases placed.onLock (placed.waits (by simp [queue])) with ⟨resume, next⟩
            rw [List.count_cons_self] at once
            have gone : .dataUp ∉ others := List.count_eq_zero.mp (by omega)
            rw [if_pos rfl]
            exact ⟨resume, next, placed.granted next rfl rfl gone⟩
          · have different : some first ≠ some Thread.dataUp :=
              fun same => uploader (Option.some.inj same)
            rw [List.count_cons_of_ne uploader] at once
            rw [if_neg different]
            exact ⟨nofun, ⟨inside, stands, fun owner => absurd owner different⟩,
              fun member => placed.waits (by simp [queue, member]), once, placed.onLock,
              fun _ => different⟩

end Placed

/-! ## Moves keep the invariant -/

/-- The invariant of the whole system. -/
def State.Placed (state : State) : Prop :=
  Recovery.Placed state.lock (state.status .dataUp) (state.work .dataUp)

/-- The invariant only looks at the lock and at the uploader. -/
theorem State.Placed.congr {state target : State} (placed : state.Placed)
    (lock : target.lock = state.lock) (status : target.status .dataUp = state.status .dataUp)
    (work : target.work .dataUp = state.work .dataUp) : target.Placed := by
  rw [State.Placed, lock, status, work]
  exact placed

theorem setWork_of_ne (state : State) {thread : Thread} (other : thread ≠ .dataUp) (work : Work) :
    (state.setWork thread work).work .dataUp = state.work .dataUp :=
  if_neg fun same => other same.symm

theorem setStatus_of_ne (state : State) {thread : Thread} (other : thread ≠ .dataUp)
    (status : Status) : (state.setStatus thread status).status .dataUp = state.status .dataUp :=
  if_neg fun same => other same.symm

/-- Another thread returns from its take. -/
theorem pass_of_ne (state : State) {thread : Thread} (other : thread ≠ .dataUp) :
    (state.pass thread).lock = state.lock ∧
      (state.pass thread).status .dataUp = state.status .dataUp ∧
      (state.pass thread).work .dataUp = state.work .dataUp := by
  unfold State.pass
  split
  · exact ⟨rfl, setStatus_of_ne _ other _, setWork_of_ne _ other _⟩
  · exact ⟨rfl, rfl, rfl⟩

/-- Only the network thread receives from `net_error`. -/
theorem sendNetError_view (state : State) (set : EventSet) :
    (state.sendNetError set).lock = state.lock ∧
      (state.sendNetError set).status .dataUp = state.status .dataUp ∧
      (state.sendNetError set).work .dataUp = state.work .dataUp := by
  unfold State.sendNetError
  simp only
  split
  · split
    · exact ⟨rfl, rfl, rfl⟩
    · exact ⟨rfl, rfl, rfl⟩
  · exact ⟨rfl, rfl, rfl⟩

theorem State.Placed.sendNetError {state : State} (placed : state.Placed) (set : EventSet) :
    (state.sendNetError set).Placed := by
  rcases sendNetError_view state set with ⟨lock, status, work⟩
  exact placed.congr lock status work

theorem State.Placed.deliver {state : State} (placed : state.Placed) (effects : List Effect) :
    (effects.foldl State.deliver state).Placed := by
  induction effects generalizing state with
  | nil => exact placed
  | cons effect rest ih =>
      rw [List.foldl_cons]
      cases effect with
      | sendNetError set => exact ih (placed.sendNetError set)
      | sendNbEvent set => exact ih placed
      | assertionFailed => exact ih placed
      | dataCallback topic mesg mesgLen => exact ih placed

theorem State.Placed.continueOther {state : State} (placed : state.Placed) {thread : Thread}
    (other : thread ≠ .dataUp) (work : Work) : (state.setWork thread work).Placed :=
  placed.congr rfl rfl (setWork_of_ne state other work)

/-- A call other than on the lock continues its thread. -/
theorem State.Placed.continue {state : State} (placed : state.Placed) {thread : Thread}
    {request : AtCall} {resume : request.Answer → Work}
    (next : (state.work thread).next = some ⟨request, resume⟩)
    (stays : lockMark request = .stay)
    (notWaiting : thread = .dataUp → state.status .dataUp ≠ .onLock) (answer : request.Answer) :
    (state.setWork thread (resume answer)).Placed := by
  by_cases own : thread = .dataUp
  · subst own
    exact Recovery.Placed.stay placed (notWaiting rfl) next stays answer
  · exact placed.continueOther own _

/-- A change of a thread's status that is no wait for the lock. -/
theorem State.Placed.setStatus {state : State} (placed : state.Placed) {thread : Thread}
    {before after : Status} (current : state.status thread = before)
    (notWaiting : before ≠ .onLock) (notOnLock : after ≠ .onLock)
    (apart : after = .suspended → state.lock.owner ≠ some .dataUp) :
    (state.setStatus thread after).Placed := by
  by_cases own : thread = .dataUp
  · subst own
    rw [← current] at notWaiting
    exact Recovery.Placed.setStatus placed notWaiting notOnLock apart
  · exact placed.congr rfl (setStatus_of_ne state own after) rfl

theorem State.Placed.startupDataUp {state : State} (placed : state.Placed) :
    state.startupDataUp.Placed := by
  unfold State.startupDataUp
  split
  · rename_i created
    exact placed.setStatus created Status.noConfusion Status.noConfusion Status.noConfusion
  · exact placed

/-- The uploader may be suspended while it does not own the lock. -/
theorem State.Placed.suspendDataUp {state : State} (placed : state.Placed)
    (apart : state.status .dataUp = .ready → state.lock.owner ≠ some .dataUp) :
    state.suspendDataUp.Placed := by
  unfold State.suspendDataUp
  split
  · rename_i ready
    exact placed.setStatus ready Status.noConfusion Status.noConfusion fun _ => apart ready
  · exact placed

theorem State.Placed.resumeDataUp {state : State} (placed : state.Placed) :
    state.resumeDataUp.Placed := by
  unfold State.resumeDataUp
  split
  · rename_i suspended
    exact placed.setStatus suspended Status.noConfusion Status.noConfusion Status.noConfusion
  · rename_i blocked
    exact placed.setStatus blocked Status.noConfusion Status.noConfusion Status.noConfusion
  · rename_i waiting
    rcases placed.onLock waiting with ⟨resume, next⟩
    unfold State.pass
    simp only [next]
    exact Recovery.Placed.cutShort placed next
  · exact placed
  · exact placed

theorem State.Placed.lockTake {state target : State} (placed : state.Placed) {thread : Thread}
    {reply : (request : AtCall) → request.Answer} {resume : Unit → Work}
    (ready : state.status thread = .ready)
    (next : (state.work thread).next = some ⟨.driver .lockTake, resume⟩)
    (answered : state.answer thread reply (.driver .lockTake) resume = some target) :
    target.Placed := by
  rw [State.answer] at answered
  by_cases own : thread = .dataUp
  · subst own
    rw [State.Placed, ready] at placed
    split at answered
    · rename_i lock taken
      cases answered
      have after := placed.take next taken
      rw [if_pos rfl, ← ready] at after
      exact after
    · rename_i lock taken
      cases answered
      exact placed.take next taken
  · have after := Recovery.Placed.takeOther placed own
    split at answered
    · rename_i lock taken
      cases answered
      rw [taken] at after
      rw [State.Placed, setWork_of_ne _ own]
      exact after
    · rename_i lock taken
      cases answered
      rw [taken] at after
      rw [State.Placed, setStatus_of_ne _ own]
      exact after

theorem State.Placed.lockRelease {state target : State} (placed : state.Placed) {thread : Thread}
    {reply : (request : AtCall) → request.Answer} {resume : Unit → Work}
    (ready : state.status thread = .ready)
    (next : (state.work thread).next = some ⟨.driver .lockRelease, resume⟩)
    (answered : state.answer thread reply (.driver .lockRelease) resume = some target) :
    target.Placed := by
  rw [State.answer] at answered
  by_cases own : thread = .dataUp
  · subst own
    rw [State.Placed, ready] at placed
    rcases placed.release next with ⟨after, handedOn⟩
    rw [← ready] at after
    split at answered
    · cases answered
      exact after
    · rename_i woken handed
      cases answered
      have other : woken ≠ .dataUp := by
        rintro rfl
        exact handedOn handed
      obtain ⟨lock, status, work⟩ := pass_of_ne ({ state with
        lock := (rtMutexRelease Thread.dataUp state.lock).1 }.setWork .dataUp (resume ())) other
      rw [State.Placed, lock, status, work]
      exact after
  · have after := Recovery.Placed.releaseOther placed own
    split at answered
    · rename_i handed
      cases answered
      rw [if_neg (by rw [handed]; exact nofun)] at after
      rw [State.Placed, setWork_of_ne _ own]
      exact after
    · rename_i woken handed
      cases answered
      by_cases uploader : woken = .dataUp
      · subst uploader
        rw [if_pos handed] at after
        rcases after with ⟨taking, waiting, granted⟩
        unfold State.pass
        rw [setWork_of_ne _ own]
        simp only [waiting]
        exact granted
      · rw [handed, if_neg fun same => uploader (Option.some.inj same)] at after
        obtain ⟨lock, status, work⟩ := pass_of_ne ({ state with
          lock := (rtMutexRelease thread state.lock).1 }.setWork thread (resume ())) uploader
        rw [State.Placed, lock, status, work, setWork_of_ne _ own]
        exact after

/-- The thread's next call is `rt_thread_suspend(data_up_thread_id)`. -/
def Suspends (state : State) (thread : Thread) : Prop :=
  ∃ resume, (state.work thread).next = some ⟨.driver .dataUpSuspend, resume⟩

/-- A move that suspends the uploader while it is ready finds it outside the
locked section of its AT commands, or in it without the lock. -/
def Clear (state : State) : Move → Prop
  | .run thread _ =>
      state.status thread = .ready → Suspends state thread → state.status .dataUp = .ready →
        (state.work .dataUp).Stands false ∨ state.lock.owner ≠ some .dataUp
  | _ => True

/-- Outside the section the uploader does not own the lock. -/
theorem State.Placed.not_owner {state : State} (placed : state.Placed)
    (outside : (state.work .dataUp).Stands false) : state.lock.owner ≠ some .dataUp := by
  intro owner
  rcases placed.position with ⟨inside, stands, owned⟩
  have same := stands.unique outside
  rw [(owned owner).1] at same
  contradiction

/-- A move that is not clear suspends the owner of the lock. -/
theorem stuck_of_not_clear (state : State) (move : Move) (unclear : ¬ Clear state move) :
    ∃ target, step state move = some target ∧ Stuck target := by
  cases move with
  | run thread reply =>
      simp only [Clear, Classical.not_imp, not_or, not_not] at unclear
      rcases unclear with ⟨ready, ⟨resume, next⟩, readyUp, _, owner⟩
      refine ⟨state.suspendDataUp.setWork thread (resume ()), ?_, ?_, ?_⟩
      · rw [step, if_pos ready]
        simp only [next]
        rfl
      · simp [State.setWork, State.suspendDataUp, State.setStatus, readyUp]
      · simp [State.setWork, State.suspendDataUp, State.setStatus, readyUp, owner]
  | _ => exact absurd trivial unclear

/-- A module that answers every command. -/
def answeringAt : (request : AtCall) → request.Answer
  | .driver request => answering request
  | .cliMode | .elapsed _ => false
  | .respNotice _ | .respStatus => true
  | .write _ => ()

/-- The module has rebooted: the table has been cleared. -/
def clearedTable : (request : AtCall) → request.Answer
  | .driver .readTable => {}
  | request => answeringAt request

end BerPiNbiot.App.Recovery
