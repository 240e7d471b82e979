import BerPiNbiot.App.Outline
import BerPiNbiot.App.Recovery
import BerPiNbiot.Kernel.Semaphore

/-!
# Commands and their responses

The network thread and the uploader exchange commands with the module while the
AT parser releases `resp_notice` at the end of each response.  The threads, the
AT lock and `net_error` are those of the recovery; here `rt_sem_take` on
`resp_notice` is one of the kernel, and `client->resp` and `client->resp_status`
are kept.

`rt_thread_resume` ends every wait, and a wait in `rt_sem_take` ends as if the
semaphore had been released.  Next to the state of the code the system remembers
for each command of the uploader whether the parser has completed it.
-/

namespace BerPiNbiot.App.Exchange

open BerPiNbiot.Kernel
open BerPiNbiot.Modem
open BerPiNbiot.Resumption
open BerPiNbiot.Text
open BerPiNbiot.Transition
open Recovery (Work Status mayWait mayWake)

/-- The threads, the client and what is remembered of the uploader. -/
structure State where
  threads : Recovery.State := .initial
  respNotice : Semaphore Thread := {}
  /-- the thread whose command has set `client->resp` -/
  resp : Option Thread := none
  /-- `client->resp_status == AT_RESP_OK` -/
  respOk : Bool := true
  /-- the thread has set `client->resp` in its transaction -/
  begun : Thread → Bool := fun _ => false
  /-- the parser has released `resp_notice` for the uploader's last command -/
  noticed : Bool := false
  /-- the uploader has been suspended and not resumed since -/
  effective : Bool := false
  /-- a resume has ended a wait of the uploader that no suspension began -/
  cut : Bool := false
  /-- for each command of the uploader that returned `RT_EOK`, whether the parser
  had released `resp_notice` for it -/
  completed : List Bool := []

/-! ## Moves -/

/-- A thread that waits for the notice returns from `rt_sem_take`. -/
def returned (threads : Recovery.State) (thread : Thread) (taken : Bool) : Recovery.State :=
  match (threads.work thread).next with
  | some ⟨.respNotice _, resume⟩ =>
      (threads.setWork thread (resume taken)).setStatus thread .ready
  | _ => threads

/-- `rt_sem_take(client->resp_notice, timeout)` -/
def State.takeNotice (state : State) (thread : Thread) (resume : Bool → Work) : State :=
  match rtSemTake thread state.respNotice with
  | (true, respNotice) =>
      { state with respNotice, threads := state.threads.setWork thread (resume true) }
  | (false, respNotice) =>
      { state with respNotice, threads := state.threads.setStatus thread .blocked }

/-- The uploader waits for something. -/
def State.Waits (state : State) : Prop :=
  state.threads.status .dataUp = .blocked ∨ state.threads.status .dataUp = .onLock

instance (state : State) : Decidable state.Waits :=
  inferInstanceAs (Decidable
    (state.threads.status .dataUp = .blocked ∨ state.threads.status .dataUp = .onLock))

/-- `rt_thread_resume(data_up_thread_id)` -/
def State.resumeDataUp (state : State) : State :=
  let after := { state with effective := false, cut := state.cut || decide state.Waits }
  if .dataUp ∈ state.respNotice.waiting then
    { after with
      threads := returned state.threads .dataUp true
      respNotice := state.respNotice.drop .dataUp }
  else
    { after with threads := state.threads.resumeDataUp }

/-- The transaction has set `client->resp` behind a call. -/
def begunAfter : AtCall → Bool → Bool
  | .write _, _ => true
  | .driver .lockRelease, _ => false
  | _, begun => begun

/-- A command sets `client->resp` and `client->resp_status` before it is
written; the notices so far are none of its own.  `at_client_obj_wait_connect`
leaves `resp_status` as it was, but does not read it, and every later reading is
behind a command that sets it. -/
def State.begin (state : State) (thread : Thread) : State :=
  { state with
    resp := some thread
    respOk := true
    noticed := state.noticed && !decide (thread = .dataUp) }

/-- What a call does to the client, and what is remembered of it. -/
def State.client (state : State) (thread : Thread) : AtCall → State
  | .write _ => if state.begun thread then state else state.begin thread
  | .driver .lockRelease => { state with resp := none }
  | .driver .dataUpSuspend =>
      { state with effective := decide (state.threads.status .dataUp = .ready) }
  | .respStatus =>
      if thread = .dataUp ∧ state.respOk = true then
        { state with completed := state.completed ++ [state.noticed] }
      else state
  | _ => state

/-- A call has been made; `threads` is what it has done to the threads. -/
def State.made (state : State) (thread : Thread) (request : AtCall) (threads : Recovery.State) :
    State :=
  { state.client thread request with
    threads
    begun := Function.update state.begun thread (begunAfter request (state.begun thread)) }

/-- The answers that are open here. -/
def State.heard (state : State) (reply : (request : AtCall) → request.Answer) :
    (request : AtCall) → request.Answer
  | .respStatus => state.respOk
  | request => reply request

/-- The next call of a ready thread is made. -/
def State.answer (state : State) (thread : Thread) (reply : (request : AtCall) → request.Answer) :
    (request : AtCall) → (request.Answer → Work) → Option State
  | .respNotice _, resume => some (state.takeNotice thread resume)
  | .driver .dataUpResume, resume =>
      some { state.resumeDataUp with
        threads := state.resumeDataUp.threads.setWork thread (resume ()) }
  | request, resume =>
      (state.threads.answer thread (state.heard reply) request resume).map
        (state.made thread request)

/-- The parser reads the last line of a response. -/
def State.line (state : State) (ok : Bool) : State :=
  match state.resp with
  | none => state
  | some owner =>
      { state with
        threads :=
          match (rtSemRelease state.respNotice).2 with
          | none => state.threads
          | some woken => returned state.threads woken true
        respNotice := (rtSemRelease state.respNotice).1
        resp := none
        respOk := ok
        noticed := state.noticed || decide (owner = .dataUp) }

/-- The call that a thread makes next. -/
def State.nextCall (state : State) (thread : Thread) : Option AtCall :=
  (state.threads.work thread).next.map Sigma.fst

/-- `rt_sem_take(client->resp_notice, timeout)` -/
def AtCall.takesNotice : AtCall → Bool
  | .respNotice _ => true
  | _ => false

/-- The thread is about to take the notice, or waits for it. -/
def State.AtNotice (state : State) (thread : Thread) : Prop :=
  ∃ request ∈ state.nextCall thread, AtCall.takesNotice request = true

instance (state : State) (thread : Thread) : Decidable (state.AtNotice thread) :=
  inferInstanceAs (Decidable (∃ request, request ∈ state.nextCall thread ∧
    AtCall.takesNotice request = true))

/-- A move of the system. -/
inductive Move
  /-- A ready thread makes its next call. -/
  | run (thread : Thread) (reply : (request : AtCall) → request.Answer)
  /-- A ready thread has to wait in its next call. -/
  | block (thread : Thread)
  /-- The wait of a thread ends. -/
  | wake (thread : Thread)
  /-- The wait of a thread for the notice times out. -/
  | timeout (thread : Thread)
  /-- The parser reads the last line of a response. -/
  | line (ok : Bool)
  /-- A notification of a reboot is handled. -/
  | urc (data : Bytes) (driver : Driver)

/-- The moves of the network thread, the uploader and the parser. -/
def step : Step State Move
  | state, .run thread reply =>
      if state.threads.status thread = .ready then
        match (state.threads.work thread).next with
        | some ⟨request, resume⟩ => state.answer thread reply request resume
        | none => none
      else
        none
  | state, .block thread =>
      if state.AtNotice thread then none
      else (Recovery.step state.threads (.block thread)).map ({ state with threads := · })
  | state, .wake thread =>
      if thread ∈ state.respNotice.waiting then none
      else (Recovery.step state.threads (.wake thread)).map ({ state with threads := · })
  | state, .timeout thread =>
      if thread ∈ state.respNotice.waiting then
        some { state with
          threads := returned state.threads thread false
          respNotice := state.respNotice.drop thread }
      else
        none
  | state, .line ok => some (state.line ok)
  | state, .urc data driver =>
      (Recovery.step state.threads (.urc data driver)).map ({ state with threads := · })

/-! ## Stages of a transaction -/

/-- Where a thread stands in a transaction. -/
inductive Stage
  | idle
  | locked
  | begun
  | taken
  deriving DecidableEq, Repr

/-- The command has been written. -/
def Stage.busy : Stage → Bool
  | .begun | .taken => true
  | .idle | .locked => false

/-- The stage behind a call. -/
def Stage.next : Stage → (request : AtCall) → request.Answer → Stage
  | _, .driver .lockTake, _ => .locked
  | _, .driver .lockRelease, _ => .idle
  | _, .write _, _ => .begun
  | _, .respNotice _, true => .taken
  | stage, _, _ => stage

/-- The stage is a function of the call and its answer. -/
def Stage.Moves (before : Stage) (request : AtCall) (answer : request.Answer) (after : Stage) :
    Prop :=
  after = before.next request answer

/-- The calls that a function makes in a stage. -/
def Stage.Allows : Stage → AtCall → Prop
  | .idle, .driver .lockRelease => False
  | .idle, .driver _ | .idle, .cliMode => True
  | .locked, .driver .lockRelease | .locked, .write _ | .locked, .elapsed _ => True
  | .begun, .driver .lockRelease | .begun, .write _ | .begun, .elapsed _ => True
  | .begun, .respNotice _ => True
  | .taken, .driver .lockRelease | .taken, .respStatus => True
  | _, _ => False

/-- From a stage on, the rest of the code runs its transactions in order. -/
abbrev Orderly {α : Type} (stage : Stage) (rest : AtCode α) : Prop :=
  rest.Along Stage.Allows Stage.Moves (fun _ after => after = .idle) stage

theorem orderly_execCmd (cmd : Bytes) : Orderly .idle (execCmdTransaction cmd) := by
  simp [execCmdTransaction, driverCall, atWrite, takeRespNotice, Stage.Allows, Stage.Moves,
    Stage.next]

theorem along_connectLoop (timeout count : Nat) {stage : Stage}
    (inside : stage = .locked ∨ stage = .begun) :
    (connectLoop timeout count).Along Stage.Allows Stage.Moves (fun _ after => after ≠ .idle)
      stage := by
  induction count generalizing stage with
  | zero =>
      rcases inside with rfl | rfl
      · exact Stage.noConfusion
      · exact Stage.noConfusion
  | succ count ih =>
      have later := ih (Or.inr rfl)
      rcases inside with rfl | rfl
      · simp [connectLoop, atWrite, takeRespNotice, Stage.Allows, Stage.Moves, Stage.next]
        exact later
      · simp [connectLoop, atWrite, takeRespNotice, Stage.Allows, Stage.Moves, Stage.next]
        exact later

theorem orderly_waitConnect (timeout : Nat) : Orderly .idle (waitConnectTransaction timeout) := by
  have loop := along_connectLoop timeout (timeout / 300 + 1) (Or.inl rfl)
  simp [waitConnectTransaction, driverCall, Stage.Allows, Stage.Moves, Stage.next]
  apply loop.mono
  intro connected after inside
  cases after with
  | idle => exact absurd rfl inside
  | locked | begun | taken => simp

/-- Code that leaves the lock to its transactions runs them in order. -/
theorem orderly_transacted {α : Type} {code : Code α}
    (avoids : code.Always (fun _ _ => True) UsesLock fun _ => True) :
    Orderly .idle (transacted code) := by
  apply Program.Along.expand _ (Program.along_of_always Stage.idle avoids)
  rintro _ request ⟨rfl, other⟩
  rw [UsesLock, not_or] at other
  cases request with
  | execCmd cmd => exact orderly_execCmd cmd
  | waitConnect timeout => exact orderly_waitConnect timeout
  | lockTake => exact absurd rfl other.1
  | lockRelease => exact absurd rfl other.2
  | _ => exact ⟨trivial, fun _ _ moved => moved⟩

/-- A thread's work stands at a stage. -/
def Standing (stage : Stage) : Work → Prop
  | .net rest => Orderly stage rest
  | .dataUp rest => Orderly stage rest
  | .function rest => Orderly stage rest

theorem Standing.next {stage : Stage} {work : Work} (standing : Standing stage work)
    {request : AtCall} {resume : request.Answer → Work}
    (next : work.next = some ⟨request, resume⟩) :
    stage.Allows request ∧ ∀ answer, Standing (stage.next request answer) (resume answer) := by
  cases work with
  | net rest =>
      rw [Work.next, Option.map_eq_some_iff] at next
      rcases next with ⟨⟨first, tail⟩, turned, equal⟩
      cases equal
      have along := Program.Along.turn (fun label before post => by
        rw [post]
        exact orderly_transacted (avoids_netEntry label)) standing turned
      exact ⟨along.1, fun answer => along.2 answer _ rfl⟩
  | dataUp rest =>
      rw [Work.next, Option.map_eq_some_iff] at next
      rcases next with ⟨⟨first, tail⟩, turned, equal⟩
      cases equal
      have along := Program.Along.turn (fun label before post => by
        rw [post]
        exact orderly_transacted (Recovery.avoids_dataUpEntry label)) standing turned
      exact ⟨along.1, fun answer => along.2 answer _ rfl⟩
  | function rest =>
      cases rest with
      | ret value => contradiction
      | call first tail =>
          cases next
          exact ⟨standing.1, fun answer => standing.2 answer _ rfl⟩

end BerPiNbiot.App.Exchange
