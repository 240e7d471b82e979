import BerPiNbiot.Modem.Dispatch
import BerPiNbiot.Modem.Psm
import BerPiNbiot.Modem.Reboot
import BerPiNbiot.Resumption.Typestate
import BerPiNbiot.Transition.Core

/-!
# Waiting for the module

Functions of `rb_nb.c` that ask the module for something and wait on `nb_event`
for its notification: a reboot, a ping, the end of a sleep.  Callers in any
number of threads are interleaved, call by call, with the notification handler
and with the PSM thread.  An AT command is one call, placed at the moment at
which it is written to the module; what it returns is of no concern to the other
threads.

Next to the state the code has, the system keeps for each caller what it has
waited for and whether an answer to it has been handled.
-/

namespace BerPiNbiot.Modem

open BerPiNbiot.Kernel
open BerPiNbiot.Resumption
open BerPiNbiot.Text
open BerPiNbiot.Transition

/-! ## The functions -/

/-- `status` of `qsdk_nb_ping_ip` before it is assigned. -/
def staleStatus (locals : Fin 6 → Int) : EventSet :=
  BitVec.ofInt 32 (locals ⟨0, Nat.zero_lt_succ 5⟩)

/-- The flags that `qsdk_nb_ping_ip` waits for. -/
def pingRequested : EventSet :=
  eventPingError ||| eventPingOk

/-- `qsdk_nb_ping_ip`; a receive that times out does not assign `status`. -/
def qsdkNbPingIp (ip : Bytes) : Code Bool := do
  let locals ← uninitialised
  if !(← atObjExecCmd (ascii "AT+NPING=" ++ ip)) then
    return false
  match ← eventRecv .nbEvent .or pingRequested (some 60000) with
  | none => return decide (staleStatus locals = eventPingOk)
  | some status => return decide (status = eventPingOk)

/-- `qsdk_nb_enter_psm` -/
def qsdkNbEnterPsm : Code Unit := do
  let _ ← atObjExecCmd (ascii "AT+CPSMS=1")
  let _ ← eventRecv .nbEvent .and eventEnterRun none

/-- A function that a thread calls. -/
inductive Job
  | initEnvironment
  | reboot
  | ping (ip : Bytes)
  | enterPsm
  | exitPsm
  deriving DecidableEq, Repr

/-- The code of a function; `qsdk_nb_enter_psm` and `qsdk_nb_exit_psm` always
succeed. -/
def Job.code : Job → Code Bool
  | .initEnvironment => qsdkInitEnvironment
  | .reboot => qsdkNbReboot
  | .ping ip => qsdkNbPingIp ip
  | .enterPsm => do
      qsdkNbEnterPsm
      return true
  | .exitPsm => do
      eventSend .nbEvent eventExitPsm
      return true

/-- The functions that ask for a reset of the module. -/
def Job.resets : Job → Bool
  | .initEnvironment | .reboot => true
  | _ => false

/-! ## Callers -/

/-- What happens in the module when a call is acknowledged. -/
inductive Acknowledgement
  /-- a pin-reset notification was handled -/
  | pinReset
  /-- a notification `+NPING:` was handled -/
  | ping
  /-- `EVENT_ENTER_RUN` was sent -/
  | enterRun
  deriving DecidableEq, Repr

/-- What a call waits for, as far as it is a question here. -/
def Job.awaits : Job → Option Acknowledgement
  | .reboot => some .pinReset
  | .ping _ => some .ping
  | .enterPsm => some .enterRun
  | .initEnvironment | .exitPsm => none

/-- The position of the flag that reports an acknowledgement. -/
def Acknowledgement.position : Acknowledgement → Fin 32
  | .pinReset => positionOf 1
  | .ping => positionOf 7
  | .enterRun => positionOf 6

/-- What is remembered of the calls that a function has made. -/
structure CallView where
  /-- the module has been asked -/
  asked : Bool := false
  stale : EventSet := 0
  received : Option EventSet := none
  expired : Bool := false
  /-- `reboot_open` was set by this call and not yet cleared by it -/
  requested : Bool := false
  deriving DecidableEq, Repr

/-- The call by which a function asks the module. -/
def Job.asksBy : Job → Call → Bool
  | .reboot, .resetPin high => high
  | .ping _, .execCmd _ => true
  | _, _ => false

/-- The view behind a call; `table` is `nb_device_table` in front of it. -/
def CallView.next (view : CallView) (job : Job) (table : NbDevice) (request : Call)
    (answer : request.Answer) : CallView :=
  let view := { view with asked := view.asked || job.asksBy request }
  match request, answer with
  | .uninitialised, locals => { view with stale := staleStatus locals }
  | .eventRecv .., none => { view with expired := true }
  | .eventRecv .., some set => { view with received := some set }
  | .writeTable update, _ =>
      { view with requested := decide ((update table).rebootOpen = .rebootForPin) }
  | _, _ => view

/-- A call in progress. -/
structure Caller where
  job : Job
  rest : Code Bool
  view : CallView
  /-- what the call awaits has happened since it asked -/
  acknowledged : Bool := false

/-- A function is entered.  `qsdk_nb_enter_psm` asks from its start on. -/
def Caller.start (job : Job) : Caller where
  job := job
  rest := job.code
  view := { asked := job = .enterPsm }

/-- A call that has got what it waited for. -/
structure Outcome where
  job : Job
  acknowledged : Bool
  deriving DecidableEq, Repr

/-- The driver, its events and the threads. -/
structure Calls where
  driver : Driver := {}
  nbEvent : EventSet := 0
  netError : EventSet := 0
  callers : Thread → Option Caller := fun _ => none
  psm : Code Unit := .ret ()
  outcomes : List Outcome := []
  /-- `qsdk_thread_entry` stands in a failed assertion -/
  halted : Bool := false

/-! ## Moves -/

/-- What a call does to the shared state, if it can be answered so. -/
def Calls.respond (state : Calls) : (request : Call) → request.Answer → Option Calls
  | .writeTable update, _ =>
      some { state with driver :=
        { state.driver with nbDeviceTable := update state.driver.nbDeviceTable } }
  | .writePsmStatus status, _ =>
      some { state with driver := { state.driver with nbiotPsmStatus := status } }
  | .readTable, table => if table = state.driver.nbDeviceTable then some state else none
  | .readPsmStatus, status => if status = state.driver.nbiotPsmStatus then some state else none
  | .eventSend .nbEvent set, _ => some { state with nbEvent := rtEventSend state.nbEvent set }
  | .eventSend .netError set, _ => some { state with netError := rtEventSend state.netError set }
  | .eventRecv .nbEvent flag set timeout, answer =>
      match rtEventRecv flag set state.nbEvent, answer with
      | some (received, left), some status =>
          if status = received then some { state with nbEvent := left } else none
      | none, none => if timeout.isSome then some state else none
      | _, _ => none
  -- None of these threads receives on `net_error`.
  | .eventRecv .netError .., _ => none
  | _, _ => some state

/-- The caller when an acknowledgement has happened, or none. -/
def Caller.notice (acknowledgement : Option Acknowledgement) (caller : Caller) : Caller :=
  { caller with
    acknowledged := caller.acknowledged ||
      (acknowledgement.isSome && caller.job.awaits = acknowledgement) }

/-- Tell the callers of an acknowledgement. -/
def Calls.mark (state : Calls) (acknowledgement : Option Acknowledgement) : Calls :=
  { state with callers := fun thread =>
      (state.callers thread).map (Caller.notice acknowledgement) }

/-- The call has got what it waited for: a reboot is past its receive, the other
functions return. -/
def Job.succeeds (job : Job) (request : Call) (answer : request.Answer) (rest : Code Bool) :
    Bool :=
  match job, request, answer, rest with
  | .reboot, .eventRecv .., some _, _ => true
  | .ping _, _, _, .ret value => value
  | .enterPsm, _, _, .ret _ => true
  | _, _, _, _ => false

/-- A call has been answered: the caller goes on, or is gone when it returns. -/
def Caller.answered (caller : Caller) (table : NbDevice) (request : Call)
    (answer : request.Answer) (rest : Code Bool) : Caller :=
  { caller with
    rest
    view := caller.view.next caller.job table request answer
    acknowledged := caller.acknowledged && !caller.job.asksBy request }

/-- The caller while its function has not returned. -/
def Caller.remaining (caller : Caller) : Option Caller :=
  match caller.rest with
  | .ret _ => none
  | .call .. => some caller

/-- The system when a caller's call has been answered; `after` is the shared
state behind the call and `rest` what is left of the function. -/
def Calls.proceed (state after : Calls) (thread : Thread) (caller : Caller) (request : Call)
    (answer : request.Answer) (rest : Code Bool) : Calls :=
  { after with
    callers := Function.update state.callers thread
      (caller.answered state.driver.nbDeviceTable request answer rest).remaining
    outcomes :=
      if caller.job.succeeds request answer rest then
        state.outcomes ++ [⟨caller.job, caller.acknowledged⟩]
      else state.outcomes }

/-- A caller's next call is answered. -/
def Calls.turn (state : Calls) (thread : Thread) (outcome : (request : Call) → request.Answer) :
    Option Calls :=
  match state.callers thread with
  | none => none
  | some caller =>
      match caller.rest with
      | .ret _ => none
      | .call request resume =>
          (state.respond request (outcome request)).map fun after =>
            state.proceed after thread caller request (outcome request) (resume (outcome request))

/-- The acknowledgement that a call of the PSM thread is. -/
def Call.acknowledges : Call → Option Acknowledgement
  | .eventSend .nbEvent set => if set = eventEnterRun then some .enterRun else none
  | _ => none

/-- The PSM thread's next call is answered. -/
def Calls.psmTurn (state : Calls) (outcome : (request : Call) → request.Answer) :
    Option Calls :=
  match state.psm.turn fun _ => qsdkPsmIteration with
  | none => none
  | some ⟨request, resume⟩ =>
      (state.respond request (outcome request)).map fun after =>
        Calls.mark { after with psm := resume (outcome request) } request.acknowledges

/-- An effect of the notification handler. -/
def Calls.effect (state : Calls) : Effect → Calls
  | .sendNbEvent set => { state with nbEvent := rtEventSend state.nbEvent set }
  | .sendNetError set => { state with netError := rtEventSend state.netError set }
  | .assertionFailed => { state with halted := true }
  | .dataCallback .. => state

/-- `REBOOT_CAUSE_SECURITY_RESET_PIN` -/
def resetPinCause : Bytes :=
  ascii "REBOOT_CAUSE_SECURITY_RESET_PIN"

/-- The notification is the acknowledgement, by its own prefix. -/
def Acknowledgement.Own (event : Bytes) : Acknowledgement → Prop
  | .pinReset => resetPinCause <+: event
  | .ping => Urc.cmdPrefix .nping <+: event
  | .enterRun => False

instance (event : Bytes) : DecidablePred (Acknowledgement.Own event)
  | .pinReset => inferInstanceAs (Decidable (resetPinCause <+: event))
  | .ping => inferInstanceAs (Decidable (Urc.cmdPrefix .nping <+: event))
  | .enterRun => isFalse id

/-- The acknowledgement that a notification is, if any: it begins with its
prefix, and is handled as one. -/
def acknowledges (event : Bytes) (driver : Driver) : Option Acknowledgement :=
  match (qsdkThreadEntry event driver).disposition with
  | .reboot => if Acknowledgement.pinReset.Own event then some .pinReset else none
  | .pingOk => if Acknowledgement.ping.Own event then some .ping else none
  | _ => none

/-- `qsdk_thread_entry` handles a notification. -/
def Calls.urc (state : Calls) (event : Bytes) : Calls :=
  let handled := qsdkThreadEntry event state.driver
  (handled.effects.foldl Calls.effect { state with driver := handled.driver }).mark
    (acknowledges event state.driver)

/-- The moves of the system. -/
inductive CallsMove
  | start (thread : Thread) (job : Job)
  | turn (thread : Thread) (outcome : (request : Call) → request.Answer)
  | psmTurn (outcome : (request : Call) → request.Answer)
  | urc (event : Bytes)
  /-- `main` creates `net_error` -/
  | createNetError

/-- The moves; a handler that stands in an assertion takes no notification. -/
def callsStep : Step Calls CallsMove
  | state, .start thread job =>
      match state.callers thread with
      | some _ => none
      | none =>
          some { state with
            callers := Function.update state.callers thread (some (Caller.start job)) }
  | state, .turn thread outcome => state.turn thread outcome
  | state, .psmTurn outcome => state.psmTurn outcome
  | state, .urc event => if state.halted then none else some (state.urc event)
  | state, .createNetError =>
      some { state with driver := { state.driver with netErrorCreated := true } }

/-- The answers of a module that does what it is told, with the outcome of the
receives. -/
def workingModule (received : Option EventSet) : (request : Call) → request.Answer
  | .execCmd _ | .waitConnect _ | .malloc _ | .sendDataMailRecv => true
  | .eventRecv .. => received
  | .readTable => {}
  | .readMqtt => {}
  | .topicRead _ => {}
  | .topicInit _ => none
  | .readPsmStatus => .exitPsm
  | .readSendData | .respParse .. | .respParseByKw .. => []
  | .uninitialised => fun _ => 0
  | .deleteResp | .lockTake | .lockRelease | .eventSend .. | .threadDelay _ | .resetPin _
  | .writeTable _ | .writePsmStatus _ | .writeMqtt _ | .topicWrite .. | .rtcSetTime _
  | .dataUpStartup | .dataUpSuspend | .dataUpResume => ()

/-! ## What the functions do -/

/-- A receive without a timeout does not fail. -/
def Possible : (request : Call) → request.Answer → Prop
  | .eventRecv _ _ _ timeout, none => timeout ≠ none
  | _, _ => True

/-- The receive of a function. -/
def Job.Receives (flag : EventFlag) (set : EventSet) : Job → Prop
  | .initEnvironment | .reboot => flag = .and ∧ set = eventReboot
  | .ping _ => flag = .or ∧ set = pingRequested
  | .enterPsm => flag = .and ∧ set = eventEnterRun
  | .exitPsm => False

/-- A function that waits for a ping or for the end of a sleep is done when it
has received something. -/
def Job.single (job : Job) : Prop :=
  job.awaits = some .ping ∨ job.awaits = some .enterRun

/-- What a call of a function may be. -/
def Job.Makes (job : Job) (view : CallView) : Call → Prop
  | .eventRecv object flag set _ =>
      object = .nbEvent ∧ job.Receives flag set ∧ (job.awaits ≠ none → view.asked = true)
  | .eventSend object set => object = .nbEvent ∧ set = eventExitPsm
  | .writeTable update =>
      job.resets = true ∧ ∀ table, (update table).rebootOpen ≠ .rebootForAt
  | _ => True

/-- The calls of a function: it asks before it receives, it makes no call when
its time is up, and only the functions that reset the module write its table,
never for a reset by AT command. -/
structure Job.Allows (job : Job) (view : CallView) (request : Call) : Prop where
  running : view.expired = false
  waiting : job.single → view.received = none
  makes : job.Makes view request

/-- The view may move on behind a call. -/
def Job.Moves (job : Job) (view : CallView) (request : Call) (answer : request.Answer)
    (after : CallView) : Prop :=
  Possible request answer ∧ ∃ table, after = view.next job table request answer

/-- What a function has done when it returns. -/
structure Job.Returns (job : Job) (value : Bool) (view : CallView) : Prop where
  requested : view.requested = true → view.expired = true
  ping : job.awaits = some .ping → value = true →
    view.received = some eventPingOk ∨ view.expired = true ∧ view.stale = eventPingOk
  enterRun : job.awaits = some .enterRun → view.received ≠ none

/-- From a view on, the rest of a function behaves. -/
abbrev Job.Behaves (job : Job) (view : CallView) (rest : Code Bool) : Prop :=
  rest.Along job.Allows job.Moves job.Returns view

theorem not_single_of_resets {job : Job} (resets : job.resets = true) : ¬ job.single := by
  cases job <;> simp_all [Job.single, Job.awaits, Job.resets]

/-- A function that resets the module may return once its request is closed. -/
theorem returns_of_resets {job : Job} (resets : job.resets = true) {view : CallView}
    (closed : view.requested = true → view.expired = true) (value : Bool) :
    job.Returns value view := by
  cases job with
  | initEnvironment | reboot => exact ⟨closed, nofun, nofun⟩
  | _ => contradiction

/-- The test of the connection behind a reset. -/
theorem behaves_waitConnect {job : Job} {view : CallView} (resets : job.resets = true)
    (running : view.expired = false) (closed : view.requested = false) :
    job.Behaves view qsdkNbWaitConnect := by
  have still : view.requested = true → view.expired = true := by
    rw [closed]
    exact nofun
  have several : job.single → view.received = none := fun single =>
    absurd single (not_single_of_resets resets)
  refine ⟨⟨running, several, trivial⟩, ?_⟩
  rintro connected _ ⟨_, _, rfl⟩
  cases connected with
  | true =>
      change job.Returns true _
      apply returns_of_resets resets
      exact still
  | false =>
      refine ⟨⟨running, several, trivial⟩, ?_⟩
      rintro _ _ ⟨_, _, rfl⟩
      change job.Returns false _
      apply returns_of_resets resets
      exact still

/-- One call of a function that resets the module, while its time is not up. -/
theorem allows_of_resets {job : Job} (resets : job.resets = true) {view : CallView}
    (running : view.expired = false) {request : Call} (makes : job.Makes view request) :
    job.Allows view request :=
  ⟨running, fun single => absurd single (not_single_of_resets resets), makes⟩

/-- Neither write of `reboot_open` is one for a reset by AT command. -/
theorem requested_notAt (_ : NbDevice) : rebootRequested.rebootOpen ≠ .rebootForAt :=
  nofun

theorem acknowledged_notAt (table : NbDevice) :
    (rebootAcknowledged table).rebootOpen ≠ .rebootForAt :=
  nofun

theorem behaves_reboot : Job.Behaves .reboot {} qsdkNbReboot := by
  refine ⟨allows_of_resets rfl rfl ⟨rfl, requested_notAt⟩, ?_⟩
  rintro _ _ ⟨_, _, rfl⟩
  refine ⟨allows_of_resets rfl rfl trivial, ?_⟩
  rintro _ _ ⟨_, _, rfl⟩
  refine ⟨allows_of_resets rfl rfl trivial, ?_⟩
  rintro _ _ ⟨_, _, rfl⟩
  refine ⟨allows_of_resets rfl rfl trivial, ?_⟩
  rintro _ _ ⟨_, _, rfl⟩
  refine ⟨allows_of_resets rfl rfl trivial, ?_⟩
  rintro _ _ ⟨_, _, rfl⟩
  refine ⟨allows_of_resets rfl rfl ⟨rfl, ⟨rfl, rfl⟩, fun _ => rfl⟩, ?_⟩
  rintro (_ | set) _ ⟨_, _, rfl⟩
  · exact ⟨fun _ => rfl, nofun, nofun⟩
  · refine ⟨allows_of_resets rfl rfl trivial, ?_⟩
    rintro _ _ ⟨_, _, rfl⟩
    refine ⟨allows_of_resets rfl rfl ⟨rfl, acknowledged_notAt⟩, ?_⟩
    rintro _ _ ⟨_, _, rfl⟩
    exact behaves_waitConnect rfl rfl rfl

theorem behaves_initEnvironment : Job.Behaves .initEnvironment {} qsdkInitEnvironment := by
  refine ⟨allows_of_resets rfl rfl ⟨rfl, requested_notAt⟩, ?_⟩
  rintro _ _ ⟨_, _, rfl⟩
  refine ⟨allows_of_resets rfl rfl trivial, ?_⟩
  rintro _ _ ⟨_, _, rfl⟩
  refine ⟨allows_of_resets rfl rfl trivial, ?_⟩
  rintro _ _ ⟨_, _, rfl⟩
  refine ⟨allows_of_resets rfl rfl trivial, ?_⟩
  rintro _ _ ⟨_, _, rfl⟩
  refine ⟨allows_of_resets rfl rfl trivial, ?_⟩
  rintro _ _ ⟨_, _, rfl⟩
  refine ⟨allows_of_resets rfl rfl ⟨rfl, ⟨rfl, rfl⟩, fun asks => absurd rfl asks⟩, ?_⟩
  rintro (_ | set) _ ⟨_, _, rfl⟩
  · exact ⟨fun _ => rfl, nofun, nofun⟩
  · refine ⟨allows_of_resets rfl rfl ⟨rfl, acknowledged_notAt⟩, ?_⟩
    rintro _ _ ⟨_, _, rfl⟩
    refine ⟨allows_of_resets rfl rfl trivial, ?_⟩
    rintro _ _ ⟨_, _, rfl⟩
    exact behaves_waitConnect rfl rfl rfl

theorem behaves_ping (ip : Bytes) : Job.Behaves (.ping ip) {} (qsdkNbPingIp ip) := by
  refine ⟨⟨rfl, fun _ => rfl, trivial⟩, ?_⟩
  rintro locals _ ⟨_, _, rfl⟩
  refine ⟨⟨rfl, fun _ => rfl, trivial⟩, ?_⟩
  rintro sent _ ⟨_, _, rfl⟩
  cases sent with
  | false => exact ⟨nofun, nofun, nofun⟩
  | true =>
      refine ⟨⟨rfl, fun _ => rfl, rfl, ⟨rfl, rfl⟩, fun _ => rfl⟩, ?_⟩
      rintro (_ | set) _ ⟨_, _, rfl⟩
      · exact ⟨nofun, fun _ same => Or.inr ⟨rfl, of_decide_eq_true same⟩, nofun⟩
      · refine ⟨nofun, fun _ same => Or.inl ?_, nofun⟩
        exact congrArg some (of_decide_eq_true same)

theorem behaves_enterPsm :
    Job.Behaves .enterPsm { asked := true } (Job.code .enterPsm) := by
  refine ⟨⟨rfl, fun _ => rfl, trivial⟩, ?_⟩
  rintro _ _ ⟨_, _, rfl⟩
  refine ⟨⟨rfl, fun _ => rfl, rfl, ⟨rfl, rfl⟩, fun _ => rfl⟩, ?_⟩
  rintro (_ | set) _ ⟨possible, _, rfl⟩
  · exact absurd rfl possible
  · exact ⟨nofun, nofun, nofun⟩

theorem behaves_exitPsm : Job.Behaves .exitPsm {} (Job.code .exitPsm) := by
  refine ⟨⟨rfl, fun _ => rfl, rfl, rfl⟩, ?_⟩
  rintro _ _ ⟨_, _, rfl⟩
  exact ⟨nofun, nofun, nofun⟩

/-- Every function behaves from its start on. -/
theorem behaves_start (job : Job) : job.Behaves (Caller.start job).view job.code := by
  cases job with
  | initEnvironment => exact behaves_initEnvironment
  | reboot => exact behaves_reboot
  | ping ip => exact behaves_ping ip
  | enterPsm => exact behaves_enterPsm
  | exitPsm => exact behaves_exitPsm

end BerPiNbiot.Modem
