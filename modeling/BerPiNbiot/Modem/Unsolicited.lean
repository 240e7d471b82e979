import BerPiNbiot.Modem.Acknowledge

/-!
# Resets that nobody asked for

`reboot_open` is set when a reset is requested and cleared when the request has
been acknowledged, but not when the wait for it times out.  A later reset by pin
then finds the request still open and is taken for its answer.

As long as no wait times out with `reboot_open` set, unless another request is
under way that will clear it, an open request belongs to a function in progress.

The report to the network thread needs `net_error`.  `main` creates it behind the
initialisation of the driver, so a reset in between runs into an assertion.
-/

namespace BerPiNbiot.Modem

open BerPiNbiot.Kernel
open BerPiNbiot.Resumption
open BerPiNbiot.Text
open BerPiNbiot.Transition

/-- `NB_MODULE_REBOOT_FOR_PIN` -/
def Calls.Open (state : Calls) : Prop :=
  state.driver.nbDeviceTable.rebootOpen = .rebootForPin

/-- The thread has requested a reset and not yet closed its request. -/
def Calls.Requests (state : Calls) (thread : Thread) : Prop :=
  ∃ caller ∈ state.callers thread, caller.view.requested = true

instance (state : Calls) : Decidable state.Open :=
  inferInstanceAs (Decidable (_ = _))

instance (state : Calls) : DecidablePred state.Requests := fun thread =>
  inferInstanceAs (Decidable (∃ caller ∈ state.callers thread, caller.view.requested = true))

/-- The answer is the timeout of a receive. -/
def Call.expires : (request : Call) → request.Answer → Bool
  | .eventRecv .., none => true
  | _, _ => false

/-- The next call of a function that resets the module does not time out, or
`reboot_open` has been cleared or another request is under way. -/
def Caller.Timely (caller : Caller) (state : Calls) (thread : Thread)
    (outcome : (request : Call) → request.Answer) : Prop :=
  match caller.rest with
  | .ret _ => True
  | .call request _ =>
      caller.job.resets = true → request.expires (outcome request) = true →
        ¬ state.Open ∨ ∃ other ∈ threads, other ≠ thread ∧ state.Requests other

instance (caller : Caller) (state : Calls) (thread : Thread)
    (outcome : (request : Call) → request.Answer) :
    Decidable (caller.Timely state thread outcome) :=
  match caller with
  | ⟨_, .ret _, _, _⟩ => isTrue trivial
  | ⟨job, .call request _, _, _⟩ =>
      inferInstanceAs (Decidable
        (job.resets = true → request.expires (outcome request) = true →
          ¬ state.Open ∨ ∃ other ∈ threads, other ≠ thread ∧ state.Requests other))

/-- A request for a reset times out only when `reboot_open` has been cleared or
another request is under way, and a reboot that answers no open request finds
`net_error` created. -/
def Timely (state : Calls) : CallsMove → Prop
  | .turn thread outcome => ∀ caller ∈ state.callers thread, caller.Timely state thread outcome
  | .urc event => Found event (Urc.cmdPrefix .reboot) → Reportable event state.driver
  | _ => True

instance (state : Calls) : DecidablePred (Timely state)
  | .turn thread outcome =>
      inferInstanceAs (Decidable (∀ caller ∈ state.callers thread,
        caller.Timely state thread outcome))
  | .urc event =>
      inferInstanceAs (Decidable
        (Found event (Urc.cmdPrefix .reboot) → Reportable event state.driver))
  | .start .. | .psmTurn _ | .createNetError => isTrue trivial

theorem timely_turn {state : Calls} {thread : Thread}
    {outcome : (request : Call) → request.Answer} (timely : Timely state (.turn thread outcome))
    {caller : Caller} (place : state.callers thread = some caller) {request : Call}
    {resume : request.Answer → Code Bool} (rest : caller.rest = .call request resume)
    (resets : caller.job.resets = true) (expires : request.expires (outcome request) = true) :
    ¬ state.Open ∨ ∃ other, other ≠ thread ∧ state.Requests other := by
  have here := timely caller place
  rw [Caller.Timely, rest] at here
  rcases here resets expires with closed | ⟨other, _, found⟩
  · exact Or.inl closed
  · exact Or.inr ⟨other, found⟩

/-- Behind a timely notification the handler returns. -/
theorem qsdkThreadEntry_returns {state : Calls} {event : Bytes}
    (timely : Timely state (.urc event)) :
    halts (qsdkThreadEntry event state.driver).effects = false := by
  unfold qsdkThreadEntry
  split
  · rename_i reboot
    have reportable := timely reboot
    rw [← Bool.not_eq_true, halts_nbRebootFunc_iff]
    exact not_not.mpr reportable
  · repeat' split
    · rfl
    · rfl
    · rfl
    · exact decide_eq_false (mqttEventFunc_asserts event state.driver.mqttDevice)

/-- What holds along timely runs. -/
structure Calls.Accounted (state : Calls) : Prop where
  steady : state.Steady
  resets : ∀ thread caller, state.callers thread = some caller →
    caller.view.requested = true → caller.job.resets = true
  requests : state.Open → ∃ thread, state.Requests thread
  awake : state.halted = false

namespace Calls.Accounted

variable {state target : Calls}

/-- Moves that neither write the table nor a view keep the account. -/
theorem of_noticed (accounted : state.Accounted) (steady : target.Steady)
    {acknowledgement : Option Acknowledgement}
    (callers : ∀ thread, target.callers thread =
      (state.callers thread).map (Caller.notice acknowledgement))
    (isOpen : target.Open → state.Open) (awake : target.halted = false) : target.Accounted := by
  refine ⟨steady, ?_, fun opened => ?_, awake⟩
  · intro thread caller place requested
    rw [callers] at place
    rcases Option.map_eq_some_iff.mp place with ⟨before, found, rfl⟩
    exact accounted.resets thread before found requested
  · rcases accounted.requests (isOpen opened) with ⟨thread, caller, found, requested⟩
    refine ⟨thread, caller.notice acknowledgement, ?_, requested⟩
    rw [callers, found]
    rfl

/-- Another thread's request is not touched by a turn. -/
theorem requests_of_ne {thread other : Thread} (different : other ≠ thread)
    (requests : state.Requests other)
    (callers : ∃ next, target.callers = Function.update state.callers thread next) :
    target.Requests other := by
  rcases requests with ⟨caller, found, requested⟩
  rcases callers with ⟨next, equal⟩
  refine ⟨caller, ?_, requested⟩
  rw [equal, Function.update_of_ne different]
  exact found

end Calls.Accounted

/-- What a call leaves of the request, for a function that behaves. -/
theorem requested_next (view : CallView) (job : Job) (table : NbDevice) (request : Call)
    (answer : request.Answer) :
    (view.next job table request answer).requested =
      match request with
      | .writeTable update => decide ((update table).rebootOpen = .rebootForPin)
      | _ => view.requested := by
  cases request with
  | eventRecv object flag set timeout => cases answer <;> rfl
  | _ => rfl

/-- A wait times out at the timeout of its receive only. -/
theorem expired_next {view : CallView} {job : Job} {table : NbDevice} {request : Call}
    {answer : request.Answer} (running : view.expired = false)
    (expired : (view.next job table request answer).expired = true) :
    request.expires answer = true := by
  cases request with
  | eventRecv object flag set timeout =>
      cases answer with
      | none => rfl
      | some received =>
          have before : view.expired = true := expired
          rw [running] at before
          contradiction
  | _ =>
      have before : view.expired = true := expired
      rw [running] at before
      contradiction

/-- A function that still has its request open goes on, unless its time is up. -/
theorem remains_or_expires {caller : Caller} {request : Call}
    {resume : request.Answer → Code Bool} {answer : request.Answer} {table : NbDevice}
    (allows : caller.job.Allows caller.view request)
    (behaves : caller.job.Behaves (caller.view.next caller.job table request answer)
      (resume answer))
    (requested : (caller.view.next caller.job table request answer).requested = true) :
    (caller.answered table request answer (resume answer)).remaining =
        some (caller.answered table request answer (resume answer)) ∨
      request.expires answer = true := by
  cases later : resume answer with
  | call next resumeNext => exact Or.inl rfl
  | ret value =>
      rw [later] at behaves
      exact Or.inr (expired_next allows.running (behaves.requested requested))

namespace Calls.Accounted

variable {state target : Calls}

/-- Only a function that resets the module has a request. -/
theorem resets_next (accounted : state.Accounted) {thread : Thread} {caller : Caller}
    (place : state.callers thread = some caller) {request : Call}
    (allows : caller.job.Allows caller.view request) {answer : request.Answer} {table : NbDevice}
    (requested : (caller.view.next caller.job table request answer).requested = true) :
    caller.job.resets = true := by
  rw [requested_next] at requested
  cases request with
  | writeTable update => exact allows.makes.1
  | _ => exact accounted.resets thread caller place requested

/-- Who answers for an open request behind a turn: the thread itself, or
another one if the request was open before. -/
theorem requested_or_other (accounted : state.Accounted) {thread : Thread} {caller : Caller}
    (place : state.callers thread = some caller) {request : Call} (answer : request.Answer)
    (opened : (request.tableAfter state.driver.nbDeviceTable).rebootOpen = .rebootForPin) :
    (caller.view.next caller.job state.driver.nbDeviceTable request answer).requested = true ∨
      ∃ other, other ≠ thread ∧ state.Requests other := by
  rw [requested_next]
  cases request with
  | writeTable update => exact Or.inl (decide_eq_true opened)
  | _ =>
      rcases accounted.requests opened with ⟨other, found⟩
      by_cases same : other = thread
      · subst same
        rcases found with ⟨_, found, requested⟩
        cases place.symm.trans found
        exact Or.inl requested
      · exact Or.inr ⟨other, same, found⟩

theorem turn (accounted : state.Accounted) {thread : Thread}
    {outcome : (request : Call) → request.Answer} (timely : Timely state (.turn thread outcome))
    (moved : callsStep state (.turn thread outcome) = some target) : target.Accounted := by
  have steady := steady_step accounted.steady moved
  rcases turn_cases moved with ⟨caller, request, resume, after, place, rest, responds, rfl⟩
  have done := responded responds
  rcases behaves_answered rest (accounted.steady.behaves thread caller place) done.possible
    state.driver.nbDeviceTable with ⟨allows, behaves⟩
  refine ⟨steady, forall_update_callers accounted.resets ?_, fun opened => ?_,
    done.halted.trans accounted.awake⟩
  · intro later remains requested
    rw [remaining_eq_some remains] at requested ⊢
    change caller.job.resets = true
    exact accounted.resets_next place allows requested
  · change after.driver.nbDeviceTable.rebootOpen = .rebootForPin at opened
    rw [done.table] at opened
    have another : (∃ other, other ≠ thread ∧ state.Requests other) →
        ∃ other, (state.proceed after thread caller request (outcome request)
          (resume (outcome request))).Requests other := by
      rintro ⟨other, different, found⟩
      exact ⟨other, requests_of_ne different found ⟨_, rfl⟩⟩
    rcases accounted.requested_or_other place (outcome request) opened with requested | other
    · rcases remains_or_expires allows behaves requested with remains | expires
      · refine ⟨thread, caller.answered _ request (outcome request) (resume (outcome request)), ?_,
          requested⟩
        exact (Function.update_self thread _ state.callers).trans remains
      · have resets := accounted.resets_next place allows requested
        rcases timely_turn timely place rest resets expires with closed | other
        · -- A timeout leaves the table alone.
          have same : request.tableAfter state.driver.nbDeviceTable =
              state.driver.nbDeviceTable := by
            cases request with
            | writeTable update => contradiction
            | _ => rfl
          rw [same] at opened
          exact absurd opened closed
        · exact another other
    · exact another other

theorem step (accounted : state.Accounted) {move : CallsMove} (timely : Timely state move)
    (moved : callsStep state move = some target) : target.Accounted := by
  cases move with
  | turn thread outcome => exact accounted.turn timely moved
  | start thread job =>
      have steady := steady_step accounted.steady moved
      rcases start_cases moved with ⟨free, rfl⟩
      refine ⟨steady, forall_update_callers accounted.resets ?_, fun opened => ?_,
        accounted.awake⟩
      · rintro caller started requested
        cases started
        contradiction
      · rcases accounted.requests opened with ⟨other, found⟩
        have different : other ≠ thread := by
          rintro rfl
          rcases found with ⟨_, found, _⟩
          rw [free] at found
          contradiction
        exact ⟨other, requests_of_ne different found ⟨_, rfl⟩⟩
  | psmTurn outcome =>
      have steady := steady_step accounted.steady moved
      rcases psmTurn_cases accounted.steady.psm moved with
        ⟨request, rest, after, fine, _, responds, rfl⟩
      have done := responded responds
      apply accounted.of_noticed steady
      · intro thread
        rw [Calls.mark, done.callers]
      · intro opened
        change after.driver.nbDeviceTable.rebootOpen = .rebootForPin at opened
        rw [done.table] at opened
        cases request with
        | writeTable update => exact absurd trivial fine
        | _ => exact opened
      · exact done.halted.trans accounted.awake
  | urc event =>
      have steady := steady_step accounted.steady moved
      rcases urc_cases moved with ⟨awake, rfl⟩
      rcases urc_frame state event with ⟨driver, _, _, halted, callers⟩
      apply accounted.of_noticed steady callers
      · intro opened
        rw [Calls.Open, driver] at opened
        rcases qsdkThreadEntry_rebootOpen event state.driver with closed | same
        · rw [closed] at opened
          contradiction
        · exact same.symm.trans opened
      · rw [halted, awake, Bool.false_or]
        exact qsdkThreadEntry_returns timely
  | createNetError =>
      have steady := steady_step accounted.steady moved
      cases moved
      exact ⟨steady, accounted.resets, accounted.requests, accounted.awake⟩

end Calls.Accounted

theorem accounted_start : Calls.Accounted {} := by
  constructor
  · exact steady_start
  · intro thread caller place
    contradiction
  · intro opened
    contradiction
  · rfl

/-! ## The report -/

theorem reset_reported {event : Bytes} {driver : Driver} (pin : Found event resetPinCause)
    (closed : driver.nbDeviceTable.rebootOpen ≠ .rebootForPin)
    (created : driver.netErrorCreated = true) :
    .sendNetError nbReboot ∈ (qsdkThreadEntry event driver).effects := by
  rw [qsdkThreadEntry, if_pos (found_reboot_of_pin pin)]
  rw [resetPinCause] at pin
  simp only [nbRebootFunc, rebootBranch, if_pos pin, rebootCause, if_neg closed,
    qsdkNbRebootCallback, if_pos created, List.mem_append, List.mem_singleton, or_true]

/-- No function that resets the module is in progress. -/
def Calls.NoReset (state : Calls) : Prop :=
  ∀ thread caller, state.callers thread = some caller → caller.job.resets = false

/-- In every interleaving of callers, notifications and timeouts in which no
request for a reset times out with `reboot_open` set, unless another request is
under way, and no reboot that answers no request comes before `net_error` has
been created, a reset by pin that nobody waits for is handled and reported to the
network thread. -/
theorem unsolicited_reset_reported (run : List CallsMove) (event : Bytes) (final : Calls)
    (timely : Guarded callsStep Timely {} (run ++ [.urc event]))
    (executed : exec callsStep {} run = some final) (idle : final.NoReset)
    (pin : Found event resetPinCause) :
    final.halted = false ∧
      .sendNetError nbReboot ∈ (qsdkThreadEntry event final.driver).effects := by
  have accounted : final.Accounted :=
    exec_invariant (fun _ _ _ holds allowed moved => holds.step allowed moved) accounted_start
      (guarded_of_append timely) executed
  have last : Timely final (.urc event) :=
    guarded_iff_forall.mp timely run (.urc event) (List.prefix_refl _) final executed
  have closed : final.driver.nbDeviceTable.rebootOpen ≠ .rebootForPin := by
    intro opened
    rcases accounted.requests opened with ⟨thread, caller, place, requested⟩
    have resets := accounted.resets thread caller place requested
    rw [idle thread caller place] at resets
    contradiction
  refine ⟨accounted.awake, reset_reported pin closed ?_⟩
  rcases last (found_reboot_of_pin pin) with created | answers
  · exact created
  · rw [resetPinCause] at pin
    rw [Answers, if_pos pin] at answers
    exact absurd answers closed

/-- The network thread reboots the module; the receive comes out as given. -/
def rebootRun (event : List CallsMove) (received : Option EventSet) : List CallsMove :=
  .start .net .reboot :: List.replicate 5 (.turn .net (workingModule received)) ++
    (event ++ [.turn .net (workingModule received)])

/-- The module acknowledges the reset; behind it `main` creates `net_error`. -/
def acknowledgedReboot : List CallsMove :=
  rebootRun [.urc (resetPinCause ++ [13])] (some eventReboot) ++
    List.replicate 3 (.turn .net (workingModule (some eventReboot))) ++ [.createNetError]

/-- No function is in progress. -/
def Calls.idle (state : Calls) : Bool :=
  threads.all fun thread => (state.callers thread).isNone

theorem noReset_of_idle {state : Calls} (idle : state.idle = true) : state.NoReset := by
  intro thread caller place
  have none := List.all_eq_true.mp idle thread (mem_threads thread)
  rw [place] at none
  contradiction

theorem acknowledgedReboot_idle :
    (exec callsStep {} acknowledgedReboot).map Calls.idle = some true := by
  decide +kernel

theorem timely_acknowledgedReboot :
    Guarded callsStep Timely {} (acknowledgedReboot ++ [.urc resetPinCause]) := by
  decide +kernel

theorem acknowledgedReboot_reported :
    ∃ final, exec callsStep {} acknowledgedReboot = some final ∧ final.halted = false ∧
      .sendNetError nbReboot ∈ (qsdkThreadEntry resetPinCause final.driver).effects := by
  rcases Option.map_eq_some_iff.mp acknowledgedReboot_idle with ⟨final, executed, idle⟩
  refine ⟨final, executed, ?_⟩
  apply unsolicited_reset_reported acknowledgedReboot resetPinCause final
    timely_acknowledgedReboot executed
  · exact noReset_of_idle idle
  · decide

/-- `net_error` exists; the module resets itself after the wait for a requested
reset has timed out, and the request still stands. -/
def expiredReboot : List CallsMove :=
  .createNetError :: rebootRun [] none

theorem expiredReboot_effects :
    (exec callsStep {} expiredReboot).map
      (fun final => (final.idle, (qsdkThreadEntry resetPinCause final.driver).effects)) =
      some (true, [.sendNbEvent eventExitPsmReboot, .sendNbEvent eventReboot]) := by
  decide +kernel

theorem expiredReboot_unreported :
    ¬ ∀ run final, exec callsStep {} run = some final → final.NoReset →
      ∀ event, Found event resetPinCause →
        .sendNetError nbReboot ∈ (qsdkThreadEntry event final.driver).effects := by
  intro always
  rcases Option.map_eq_some_iff.mp expiredReboot_effects with ⟨final, executed, equal⟩
  rcases Prod.mk.inj equal with ⟨idle, effects⟩
  have reported := always expiredReboot final executed (noReset_of_idle idle) resetPinCause
    (by decide)
  rw [effects] at reported
  contradiction

end BerPiNbiot.Modem
