import BerPiNbiot.Modem.Callers

/-!
# Moves of the callers

What each move of the system of callers can do, once for all the results about
it: what an answered call changes, what the PSM thread never does, and which
flags a notification sends.  At the end, that the functions in progress go on
behaving whatever happens in between.
-/

namespace BerPiNbiot.Modem

open BerPiNbiot.Kernel
open BerPiNbiot.Resumption
open BerPiNbiot.Text
open BerPiNbiot.Transition

/-! ## Answered calls -/

/-- The module's table behind a call. -/
def Call.tableAfter : Call → NbDevice → NbDevice
  | .writeTable update, table => update table
  | _, table => table

/-- The call adds the flag at a position to `nb_event`. -/
def Call.SendsAt (position : Fin 32) : Call → Prop
  | .eventSend .nbEvent set => set.getLsbD position = true
  | _ => False

/-- What every answered call leaves alone, and what it does to the rest. -/
structure Responded (state after : Calls) (request : Call) (answer : request.Answer) : Prop where
  callers : after.callers = state.callers
  psm : after.psm = state.psm
  outcomes : after.outcomes = state.outcomes
  halted : after.halted = state.halted
  table : after.driver.nbDeviceTable = request.tableAfter state.driver.nbDeviceTable
  possible : Possible request answer
  pending : ∀ position : Fin 32, after.nbEvent.getLsbD position = true →
    state.nbEvent.getLsbD position = true ∨ request.SendsAt position

/-- A receive on `nb_event` is one of the kernel, or it has timed out. -/
theorem respond_eventRecv {state after : Calls} {flag : EventFlag} {set : EventSet}
    {timeout : Option Nat} {answer : Option EventSet}
    (responds : state.respond (.eventRecv .nbEvent flag set timeout) answer = some after) :
    (∃ received left, rtEventRecv flag set state.nbEvent = some (received, left) ∧
      answer = some received ∧ after = { state with nbEvent := left }) ∨
    (answer = none ∧ timeout ≠ none ∧ after = state) := by
  simp only [Calls.respond] at responds
  split at responds
  · rename_i received left status kernel
    rw [Option.ite_none_right_eq_some] at responds
    rcases responds with ⟨rfl, equal⟩
    exact Or.inl ⟨_, left, kernel, rfl, (Option.some.inj equal).symm⟩
  · rw [Option.ite_none_right_eq_some] at responds
    rcases responds with ⟨bounded, equal⟩
    refine Or.inr ⟨rfl, ?_, (Option.some.inj equal).symm⟩
    rintro rfl
    contradiction
  · contradiction

theorem responded {state after : Calls} {request : Call} {answer : request.Answer}
    (responds : state.respond request answer = some after) :
    Responded state after request answer := by
  cases request with
  | readTable | readPsmStatus =>
      simp only [Calls.respond, Option.ite_none_right_eq_some, Option.some.injEq] at responds
      rw [← responds.2]
      exact ⟨rfl, rfl, rfl, rfl, rfl, trivial, fun _ => Or.inl⟩
  | eventSend object set =>
      cases object with
      | netError =>
          cases responds
          exact ⟨rfl, rfl, rfl, rfl, rfl, trivial, fun _ => Or.inl⟩
      | nbEvent =>
          cases responds
          refine ⟨rfl, rfl, rfl, rfl, rfl, trivial, fun position held => ?_⟩
          rw [rtEventSend, BitVec.getLsbD_or, Bool.or_eq_true] at held
          exact held
  | eventRecv object flag set timeout =>
      cases object with
      | netError => contradiction
      | nbEvent =>
          rcases respond_eventRecv responds with ⟨received, left, kernel, rfl, rfl⟩ |
            ⟨rfl, bounded, rfl⟩
          · refine ⟨rfl, rfl, rfl, rfl, rfl, trivial, fun position held => Or.inl ?_⟩
            rw [(rtEventRecv_eq_some kernel).2, BitVec.getLsbD_and, Bool.and_eq_true] at held
            exact held.1
          · exact ⟨rfl, rfl, rfl, rfl, rfl, bounded, fun _ => Or.inl⟩
  | _ =>
      cases responds
      exact ⟨rfl, rfl, rfl, rfl, rfl, trivial, fun _ => Or.inl⟩

/-- Everything that a caller's turn can do. -/
theorem turn_cases {state target : Calls} {thread : Thread}
    {outcome : (request : Call) → request.Answer}
    (moved : state.turn thread outcome = some target) :
    ∃ (caller : Caller) (request : Call) (resume : request.Answer → Code Bool) (after : Calls),
      state.callers thread = some caller ∧ caller.rest = .call request resume ∧
      state.respond request (outcome request) = some after ∧
      target = state.proceed after thread caller request (outcome request)
        (resume (outcome request)) := by
  unfold Calls.turn at moved
  split at moved
  · contradiction
  · rename_i caller place
    split at moved
    · contradiction
    · rename_i request resume rest
      rcases Option.map_eq_some_iff.mp moved with ⟨after, responds, equal⟩
      exact ⟨caller, request, resume, after, place, rest, responds, equal.symm⟩

/-- What the PSM thread never does: it does not write the module's table, and it
sends nothing but the end of a sleep. -/
def PsmForbidden : Call → Prop
  | .writeTable _ => True
  | .eventSend object set => ¬ (object = .nbEvent ∧ set = eventEnterRun)
  | _ => False

/-- The rest of the PSM thread's turn does none of this. -/
abbrev PsmKeeps (rest : Code Unit) : Prop :=
  rest.Always (fun _ _ => True) PsmForbidden fun _ => True

theorem psmKeeps_iteration : PsmKeeps qsdkPsmIteration := by
  simp only [qsdkPsmIteration, eventRecv, Program.call_bind, Program.ret_bind,
    Program.always_call]
  refine ⟨id, ?_⟩
  rintro (_ | status) _
  · exact trivial
  · simp [psmHandle, wakeUp, qsdkNbWaitConnect, atClientObjWaitConnect, atDeleteResp,
      atObjExecCmd, writePsmStatus, readPsmStatus, getPsmStatus, lockTake, lockRelease, eventSend,
      PsmForbidden]

/-- Everything that a turn of the PSM thread can do. -/
theorem psmTurn_cases {state target : Calls} {outcome : (request : Call) → request.Answer}
    (keeps : PsmKeeps state.psm) (moved : state.psmTurn outcome = some target) :
    ∃ (request : Call) (rest : Code Unit) (after : Calls), ¬ PsmForbidden request ∧
      PsmKeeps rest ∧ state.respond request (outcome request) = some after ∧
      target = Calls.mark { after with psm := rest } request.acknowledges := by
  unfold Calls.psmTurn at moved
  split at moved
  · contradiction
  · rename_i request resume next
    rcases Option.map_eq_some_iff.mp moved with ⟨after, responds, equal⟩
    rcases Program.Always.turn _ _ (fun _ => psmKeeps_iteration) keeps next with ⟨fine, rest⟩
    exact ⟨request, _, after, fine, rest _ trivial, responds, equal.symm⟩

/-! ## Notifications -/

theorem foldl_effect_frame (effects : List Effect) (state : Calls) :
    (effects.foldl Calls.effect state).driver = state.driver ∧
      (effects.foldl Calls.effect state).callers = state.callers ∧
      (effects.foldl Calls.effect state).psm = state.psm ∧
      (effects.foldl Calls.effect state).outcomes = state.outcomes := by
  induction effects generalizing state with
  | nil => exact ⟨rfl, rfl, rfl, rfl⟩
  | cons effect rest ih =>
      rcases ih (state.effect effect) with ⟨driver, callers, psm, outcomes⟩
      rw [List.foldl_cons, driver, callers, psm, outcomes]
      cases effect <;> exact ⟨rfl, rfl, rfl, rfl⟩

/-- Flags of `nb_event` come from the effects. -/
theorem foldl_effect_pending (effects : List Effect) (state : Calls) (position : Fin 32)
    (held : (effects.foldl Calls.effect state).nbEvent.getLsbD position = true) :
    state.nbEvent.getLsbD position = true ∨
      ∃ set, .sendNbEvent set ∈ effects ∧ set.getLsbD position = true := by
  induction effects generalizing state with
  | nil => exact Or.inl held
  | cons effect rest ih =>
      rcases ih (state.effect effect) held with before | ⟨set, member, bit⟩
      · cases effect with
        | sendNbEvent set =>
            simp only [Calls.effect, rtEventSend, BitVec.getLsbD_or, Bool.or_eq_true] at before
            exact before.imp_right fun bit => ⟨set, List.mem_cons_self, bit⟩
        | sendNetError _ => exact Or.inl before
        | assertionFailed => exact Or.inl before
        | dataCallback _ _ _ => exact Or.inl before
      · exact Or.inr ⟨set, List.mem_cons_of_mem effect member, bit⟩

/-- The handler stands in an assertion that it has reached. -/
theorem foldl_effect_halted (effects : List Effect) (state : Calls) :
    (effects.foldl Calls.effect state).halted = (state.halted || halts effects) := by
  induction effects generalizing state with
  | nil => exact (Bool.or_false state.halted).symm
  | cons effect rest ih =>
      rw [List.foldl_cons, ih]
      cases effect <;> simp [Calls.effect, halts]

/-- The MQTT branches only call the data callback. -/
theorem branchBody_effects (key : Urc) (run : MqttRun) {effect : Effect}
    (foreign : ∀ topic mesg len, effect ≠ .dataCallback topic mesg len)
    (sent : effect ∈ (branchBody key run).effects) : effect ∈ run.effects := by
  cases key <;> simp only [branchBody, id, openBranch, subackBranch, pubackBranch,
    unsubackBranch, discBranch, pubrecBranch, pubcompBranch, publishBranch, pingrespBranch,
    toBranch] at sent <;> (repeat' split at sent) <;> simp_all

theorem mqttEventFunc_effects (event : Bytes) (device : MqttDevice) {effect : Effect}
    (foreign : ∀ topic mesg len, effect ≠ .dataCallback topic mesg len) :
    effect ∉ (mqttEventFunc event device).effects := by
  have keeps : ∀ (keys : List Urc) (run : MqttRun),
      effect ∈ (keys.foldl mqttBranch run).effects → effect ∈ run.effects := by
    intro keys
    induction keys with
    | nil => exact fun _ => id
    | cons key rest ih =>
        intro run sent
        have here := ih (mqttBranch run key) sent
        unfold mqttBranch at here
        split at here
        · exact here
        · split at here
          · have body := branchBody_effects key { run with entered := run.entered ++ [key] }
              foreign here
            exact body
          · exact here
  intro sent
  exact List.not_mem_nil (keeps mqttBranches { event, device } sent)

/-- They send no flags. -/
theorem mqttEventFunc_sends (event : Bytes) (device : MqttDevice) (set : EventSet) :
    .sendNbEvent set ∉ (mqttEventFunc event device).effects :=
  mqttEventFunc_effects event device fun _ _ _ => Effect.noConfusion

/-- They run into no assertion. -/
theorem mqttEventFunc_asserts (event : Bytes) (device : MqttDevice) :
    .assertionFailed ∉ (mqttEventFunc event device).effects :=
  mqttEventFunc_effects event device fun _ _ _ => Effect.noConfusion

/-- A notification closes an open request or leaves it alone. -/
theorem qsdkThreadEntry_rebootOpen (event : Bytes) (driver : Driver) :
    (qsdkThreadEntry event driver).driver.nbDeviceTable.rebootOpen = .noInit ∨
      (qsdkThreadEntry event driver).driver.nbDeviceTable.rebootOpen =
        driver.nbDeviceTable.rebootOpen := by
  unfold qsdkThreadEntry
  split
  · exact (nbRebootFunc_rebootOpen event driver).imp_right And.right
  · repeat' split
    all_goals exact Or.inr rfl

/-- Without a reboot by AT command under way, `nb_reboot_func` acknowledges a
reboot only for a pin reset. -/
theorem nbRebootFunc_sends {event : Bytes} {driver : Driver} {set : EventSet}
    (notAt : driver.nbDeviceTable.rebootOpen ≠ .rebootForAt)
    (sent : .sendNbEvent set ∈ (nbRebootFunc event driver).2) :
    set = eventExitPsmReboot ∨ set = eventReboot ∧ Found event resetPinCause := by
  rcases nbRebootFunc_effects event driver with ⟨exit, shape, effects⟩
  rw [effects, List.mem_append] at sent
  rcases sent with woken | sent
  · rcases shape with rfl | rfl
    · exact absurd woken List.not_mem_nil
    · rw [List.mem_singleton] at woken
      exact Or.inl (Effect.sendNbEvent.inj woken)
  · rcases rebootBranch_cases event driver with ⟨branch, answers⟩ | ⟨branch, _⟩
    · rw [branch, List.mem_singleton] at sent
      refine Or.inr ⟨Effect.sendNbEvent.inj sent, ?_⟩
      unfold Answers at answers
      split at answers
      · rename_i pin
        exact pin
      · exact absurd answers.2 notAt
    · rw [branch] at sent
      rcases qsdkNbRebootCallback_cases driver with ⟨callback, _⟩ | ⟨callback, _⟩ <;>
        rw [callback, List.mem_singleton] at sent <;> contradiction

/-- A set of one flag reports the acknowledgement whose flag it is. -/
theorem position_eq_of_bit {position : Fin 32} {acknowledgement : Acknowledgement}
    (bit : (flagAt position).getLsbD acknowledgement.position = true) :
    acknowledgement.position = position :=
  (getLsbD_flagAt_iff position acknowledgement.position).mp bit

theorem Acknowledgement.position_injective {first second : Acknowledgement}
    (same : first.position = second.position) : first = second := by
  cases first <;> cases second <;> first | rfl | exact absurd same (by decide)

/-- These positions report nothing that anybody awaits. -/
theorem Acknowledgement.position_ne (acknowledgement : Acknowledgement) :
    acknowledgement.position ≠ positionOf 3 ∧ acknowledgement.position ≠ positionOf 5 ∧
      acknowledgement.position ≠ positionOf 8 := by
  cases acknowledgement <;> decide

/-- The texts that are taken for an acknowledgement. -/
def Acknowledgement.Recognised (event : Bytes) : Acknowledgement → Prop
  | .pinReset => Found event resetPinCause
  | .ping => Found event (Urc.cmdPrefix .nping) ∧ ¬ Found event (Urc.cmdPrefix .reboot)
  | .enterRun => False

instance (event : Bytes) : DecidablePred (Acknowledgement.Recognised event)
  | .pinReset => inferInstanceAs (Decidable (Found event resetPinCause))
  | .ping =>
      inferInstanceAs (Decidable
        (Found event (Urc.cmdPrefix .nping) ∧ ¬ Found event (Urc.cmdPrefix .reboot)))
  | .enterRun => isFalse id

/-- The cause of a reset begins with the prefix of a reboot. -/
theorem found_reboot_of_pin {event : Bytes} (pin : Found event resetPinCause) :
    Found event (Urc.cmdPrefix .reboot) := by
  rw [found_iff_occurs] at pin ⊢
  have begins : Urc.cmdPrefix .reboot <+: resetPinCause := by decide
  exact begins.isInfix.trans pin

/-- A flag that reports an acknowledgement is sent only by a notification that is
taken for it. -/
theorem recognised_of_sends {event : Bytes} {driver : Driver} {set : EventSet}
    (notAt : driver.nbDeviceTable.rebootOpen ≠ .rebootForAt)
    (sent : .sendNbEvent set ∈ (qsdkThreadEntry event driver).effects)
    {acknowledgement : Acknowledgement}
    (bit : set.getLsbD acknowledgement.position = true) :
    acknowledgement.Recognised event := by
  rcases acknowledgement.position_ne with ⟨notEnterPsm, notExitReboot, notPingError⟩
  unfold qsdkThreadEntry at sent
  split at sent
  · rcases nbRebootFunc_sends notAt sent with rfl | ⟨rfl, pin⟩
    · exact absurd (position_eq_of_bit bit) notExitReboot
    · rw [@Acknowledgement.position_injective acknowledgement .pinReset (position_eq_of_bit bit)]
      exact pin
  · rename_i reboot
    split at sent
    · rename_i nping
      rw [List.mem_singleton] at sent
      cases sent
      rw [@Acknowledgement.position_injective acknowledgement .ping (position_eq_of_bit bit)]
      exact ⟨nping, reboot⟩
    · split at sent
      · rw [List.mem_singleton] at sent
        cases sent
        exact absurd (position_eq_of_bit bit) notPingError
      · split at sent
        · rw [List.mem_singleton] at sent
          cases sent
          exact absurd (position_eq_of_bit bit) notEnterPsm
        · exact absurd sent (mqttEventFunc_sends event driver.mqttDevice set)

/-- A notification that is taken for an acknowledgement and begins with its
prefix is one. -/
theorem acknowledges_of_own {event : Bytes} (driver : Driver) {acknowledgement : Acknowledgement}
    (recognised : acknowledgement.Recognised event) (own : acknowledgement.Own event) :
    acknowledges event driver = some acknowledgement := by
  unfold acknowledges qsdkThreadEntry
  cases acknowledgement with
  | pinReset =>
      rw [if_pos (found_reboot_of_pin recognised)]
      exact if_pos own
  | ping =>
      rw [if_neg recognised.2, if_pos recognised.1]
      exact if_pos own
  | enterRun => exact own.elim

/-! ## Callers along the moves -/

/-- A property of all callers behind an update of one of them. -/
theorem forall_update_callers {callers : Thread → Option Caller} {thread : Thread}
    {next : Option Caller} {good : Caller → Prop}
    (others : ∀ other caller, callers other = some caller → good caller)
    (here : ∀ caller, next = some caller → good caller) :
    ∀ other caller, Function.update callers thread next other = some caller → good caller := by
  intro other caller place
  by_cases same : other = thread
  · subst same
    rw [Function.update_self] at place
    exact here caller place
  · rw [Function.update_of_ne same] at place
    exact others other caller place

/-- A property of all callers behind a notice. -/
theorem forall_mark_callers {state : Calls} {acknowledgement : Option Acknowledgement}
    {good : Caller → Prop}
    (noticed : ∀ thread caller, state.callers thread = some caller →
      good (caller.notice acknowledgement)) :
    ∀ thread caller, (state.mark acknowledgement).callers thread = some caller → good caller := by
  intro thread caller place
  rcases Option.map_eq_some_iff.mp place with ⟨before, found, rfl⟩
  exact noticed thread before found

theorem remaining_eq_some {caller next : Caller} (remains : caller.remaining = some next) :
    next = caller := by
  unfold Caller.remaining at remains
  split at remains
  · contradiction
  · exact (Option.some.inj remains).symm

theorem behaves_answered {caller : Caller} {request : Call}
    {resume : request.Answer → Code Bool} (rest : caller.rest = .call request resume)
    (behaves : caller.job.Behaves caller.view caller.rest) {answer : request.Answer}
    (possible : Possible request answer) (table : NbDevice) :
    caller.job.Allows caller.view request ∧
      caller.job.Behaves (caller.view.next caller.job table request answer) (resume answer) := by
  rw [rest] at behaves
  exact ⟨behaves.1, behaves.2 answer _ ⟨possible, table, rfl⟩⟩

/-- Every function in progress behaves, and so does the PSM thread. -/
structure Calls.Steady (state : Calls) : Prop where
  behaves : ∀ thread caller, state.callers thread = some caller →
    caller.job.Behaves caller.view caller.rest
  psm : PsmKeeps state.psm

theorem urc_frame (state : Calls) (event : Bytes) :
    (state.urc event).driver = (qsdkThreadEntry event state.driver).driver ∧
      (state.urc event).psm = state.psm ∧ (state.urc event).outcomes = state.outcomes ∧
      (state.urc event).halted =
        (state.halted || halts (qsdkThreadEntry event state.driver).effects) ∧
      ∀ thread, (state.urc event).callers thread =
        (state.callers thread).map (Caller.notice (acknowledges event state.driver)) := by
  rcases foldl_effect_frame (qsdkThreadEntry event state.driver).effects
    { state with driver := (qsdkThreadEntry event state.driver).driver } with
    ⟨driver, callers, psm, outcomes⟩
  refine ⟨driver, psm, outcomes, foldl_effect_halted _ _, fun thread => ?_⟩
  rw [Calls.urc, Calls.mark, callers]

/-- A handler that has not run into an assertion handles a notification. -/
theorem urc_cases {state target : Calls} {event : Bytes}
    (moved : callsStep state (.urc event) = some target) :
    state.halted = false ∧ target = state.urc event := by
  simp only [callsStep] at moved
  split at moved
  · contradiction
  · rename_i awake
    exact ⟨Bool.not_eq_true _ ▸ awake, (Option.some.inj moved).symm⟩

/-- A thread without a call starts one. -/
theorem start_cases {state target : Calls} {thread : Thread} {job : Job}
    (moved : callsStep state (.start thread job) = some target) :
    state.callers thread = none ∧
      target = { state with
        callers := Function.update state.callers thread (some (Caller.start job)) } := by
  simp only [callsStep] at moved
  split at moved
  · contradiction
  · rename_i free
    exact ⟨free, (Option.some.inj moved).symm⟩

theorem steady_step {state target : Calls} {move : CallsMove} (steady : state.Steady)
    (moved : callsStep state move = some target) : target.Steady := by
  rcases steady with ⟨behaves, psm⟩
  cases move with
  | start thread job =>
      rcases start_cases moved with ⟨_, rfl⟩
      refine ⟨forall_update_callers behaves ?_, psm⟩
      rintro caller started
      cases started
      exact behaves_start job
  | turn thread outcome =>
      rcases turn_cases moved with ⟨caller, request, resume, after, place, rest, responds, rfl⟩
      have done := responded responds
      constructor
      · refine forall_update_callers behaves fun next remains => ?_
        rw [remaining_eq_some remains]
        exact (behaves_answered rest (behaves thread caller place) done.possible _).2
      · rw [Calls.proceed, done.psm]
        exact psm
  | psmTurn outcome =>
      rcases psmTurn_cases psm moved with ⟨request, rest, after, _, keeps, responds, rfl⟩
      have done := responded responds
      refine ⟨forall_mark_callers fun thread caller place => ?_, keeps⟩
      dsimp only at place
      rw [done.callers] at place
      exact behaves thread caller place
  | createNetError =>
      cases moved
      exact ⟨behaves, psm⟩
  | urc event =>
      rcases urc_cases moved with ⟨_, rfl⟩
      rcases urc_frame state event with ⟨_, samePsm, _, _, callers⟩
      constructor
      · intro thread caller place
        rw [callers] at place
        rcases Option.map_eq_some_iff.mp place with ⟨before, found, rfl⟩
        exact behaves thread before found
      · rw [samePsm]
        exact psm

theorem steady_start : Calls.Steady {} := by
  constructor
  · intro thread caller place
    contradiction
  · trivial

end BerPiNbiot.Modem
