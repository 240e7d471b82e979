import BerPiNbiot.Modem.Unsolicited

/-!
# Fresh acknowledgements

A flag of `nb_event` stays pending until somebody receives it.  The answer to a
call that has timed out, a second answer, or the end of a sleep for which nobody
waited is therefore still there when a later call waits for the same flag.

A call that finds its flag clear when it asks the module is satisfied only by
what happens afterwards.  There are two exceptions.  A ping whose receive times
out compares a variable that has never been assigned, and a line of another kind
that contains the text of an answer is taken for it.
-/

namespace BerPiNbiot.Modem

open BerPiNbiot.Kernel
open BerPiNbiot.Resumption
open BerPiNbiot.Text
open BerPiNbiot.Transition

/-- The flag that a function waits for is pending. -/
def Calls.Latched (state : Calls) (job : Job) : Prop :=
  ∃ awaited, awaited ∈ job.awaits ∧ state.nbEvent.getLsbD awaited.position = true

instance (state : Calls) (job : Job) : Decidable (state.Latched job) :=
  inferInstanceAs (Decidable (∃ awaited, awaited ∈ job.awaits ∧ _))

/-- The next call of a function does not ask while its flag is pending, and is
not the timeout of a ping whose unassigned `status` happens to be
`EVENT_PING_OK`. -/
def Caller.Unlatched (caller : Caller) (state : Calls)
    (outcome : (request : Call) → request.Answer) : Prop :=
  match caller.rest with
  | .ret _ => True
  | .call request _ =>
      (caller.job.asksBy request = true → ¬ state.Latched caller.job) ∧
        (caller.job.awaits = some .ping → request.expires (outcome request) = true →
          caller.view.stale ≠ eventPingOk)

instance (caller : Caller) (state : Calls) (outcome : (request : Call) → request.Answer) :
    Decidable (caller.Unlatched state outcome) :=
  match caller with
  | ⟨_, .ret _, _, _⟩ => isTrue trivial
  | ⟨job, .call request _, view, _⟩ =>
      inferInstanceAs (Decidable
        ((job.asksBy request = true → ¬ state.Latched job) ∧
          (job.awaits = some .ping → request.expires (outcome request) = true →
            view.stale ≠ eventPingOk)))

/-- A notification that is taken for the answer to a call in progress is one. -/
def Caller.Hears (caller : Caller) (event : Bytes) : Prop :=
  caller.view.asked = true →
    ∀ awaited ∈ caller.job.awaits, awaited.Recognised event → awaited.Own event

instance (caller : Caller) (event : Bytes) : Decidable (caller.Hears event) :=
  inferInstanceAs (Decidable (caller.view.asked = true →
    ∀ awaited ∈ caller.job.awaits, awaited.Recognised event → awaited.Own event))

/-- No function asks the module while its flag is pending, and while it waits no
line of another kind contains the text of its answer. -/
def Unlatched (state : Calls) : CallsMove → Prop
  | .start _ job => job = .enterPsm → ¬ state.Latched job
  | .turn thread outcome => ∀ caller ∈ state.callers thread, caller.Unlatched state outcome
  | .urc event => ∀ thread ∈ threads, ∀ caller ∈ state.callers thread, caller.Hears event
  | _ => True

instance (state : Calls) : DecidablePred (Unlatched state)
  | .start _ job => inferInstanceAs (Decidable (job = .enterPsm → ¬ state.Latched job))
  | .turn thread outcome =>
      inferInstanceAs (Decidable (∀ caller ∈ state.callers thread,
        caller.Unlatched state outcome))
  | .urc event =>
      inferInstanceAs (Decidable (∀ thread ∈ threads, ∀ caller ∈ state.callers thread,
        caller.Hears event))
  | .psmTurn _ | .createNetError => isTrue trivial

theorem unlatched_turn {state : Calls} {thread : Thread}
    {outcome : (request : Call) → request.Answer}
    (unlatched : Unlatched state (.turn thread outcome))
    {caller : Caller} (place : state.callers thread = some caller) {request : Call}
    {resume : request.Answer → Code Bool} (rest : caller.rest = .call request resume) :
    (caller.job.asksBy request = true → ¬ state.Latched caller.job) ∧
      (caller.job.awaits = some .ping → request.expires (outcome request) = true →
        caller.view.stale ≠ eventPingOk) := by
  have here := unlatched caller place
  rw [Caller.Unlatched, rest] at here
  exact here

/-! ## The invariant -/

/-- Whatever a call waits for is pending only if it has happened since the call
asked. -/
def Caller.Current (pending : EventSet) (caller : Caller) : Prop :=
  ∀ awaited, caller.job.awaits = some awaited → caller.view.asked = true →
    pending.getLsbD awaited.position = true → caller.acknowledged = true

/-- What holds along unlatched runs. -/
structure Calls.Fresh (state : Calls) : Prop where
  steady : state.Steady
  notAt : state.driver.nbDeviceTable.rebootOpen ≠ .rebootForAt
  current : ∀ thread caller, state.callers thread = some caller → caller.Current state.nbEvent
  outcomes : ∀ outcome ∈ state.outcomes, outcome.acknowledged = true

theorem current_of_noticed {caller : Caller} {pending after : EventSet}
    {acknowledgement : Option Acknowledgement} (current : caller.Current pending)
    (sent : ∀ awaited : Acknowledgement, caller.job.awaits = some awaited →
      caller.view.asked = true → after.getLsbD awaited.position = true →
        pending.getLsbD awaited.position = true ∨ acknowledgement = some awaited) :
    (caller.notice acknowledgement).Current after := by
  intro awaited awaits asked held
  have acknowledged : caller.acknowledged = true ∨ acknowledgement = some awaited :=
    (sent awaited awaits asked held).imp_left (current awaited awaits asked)
  rcases acknowledged with before | rfl
  · simp only [Caller.notice, before, Bool.true_or]
  · have same : caller.job.awaits = some awaited := awaits
    simp only [Caller.notice, same, Option.isSome_some, decide_true, Bool.and_self, Bool.or_true]

/-- The functions themselves send no flag that anybody waits for. -/
theorem not_sendsAt_of_makes {job : Job} {view : CallView} {request : Call}
    (makes : job.Makes view request) (awaited : Acknowledgement) :
    ¬ request.SendsAt awaited.position := by
  cases request with
  | eventSend object set =>
      rcases makes with ⟨rfl, rfl⟩
      intro sends
      cases awaited <;> contradiction
  | _ => exact id

/-- The PSM thread acknowledges what it sends. -/
theorem acknowledges_of_psm {request : Call} (fine : ¬ PsmForbidden request)
    {awaited : Acknowledgement} (sends : request.SendsAt awaited.position) :
    request.acknowledges = some awaited := by
  cases request with
  | eventSend object set =>
      rcases not_not.mp fine with ⟨rfl, rfl⟩
      cases awaited with
      | enterRun => rfl
      | pinReset => contradiction
      | ping => contradiction
  | _ => exact sends.elim

/-! ## What a successful call has received -/

/-- The call receives a set of flags. -/
def Call.Gets (set : EventSet) : (request : Call) → request.Answer → Prop
  | .eventRecv .., some received => received = set
  | _, _ => False

theorem asked_next (view : CallView) (job : Job) (table : NbDevice) (request : Call)
    (answer : request.Answer) :
    (view.next job table request answer).asked = (view.asked || job.asksBy request) := by
  cases request with
  | eventRecv object flag set timeout => cases answer <;> rfl
  | _ => rfl

theorem gets_of_received {view : CallView} {job : Job} {table : NbDevice} {request : Call}
    {answer : request.Answer} {set : EventSet} (before : view.received = none)
    (after : (view.next job table request answer).received = some set) :
    request.Gets set answer := by
  have unchanged : ∀ {value : Option EventSet}, value = view.received → value ≠ some set := by
    rintro _ rfl held
    rw [before] at held
    contradiction
  cases request with
  | eventRecv object flag requested timeout =>
      cases answer with
      | none => exact absurd after (unchanged rfl)
      | some received => exact Option.some.inj after
  | _ => exact absurd after (unchanged rfl)

/-- A function that has received what it waits for finds its flag pending. -/
theorem latched_of_gets {state after : Calls} {job : Job} {view : CallView} {request : Call}
    {answer : request.Answer} {set : EventSet} (allows : job.Allows view request)
    (responds : state.respond request answer = some after) (gets : request.Gets set answer)
    {awaited : Acknowledgement} (awaits : job.awaits = some awaited)
    (ping : awaited = .ping → set = eventPingOk) :
    view.asked = true ∧ state.nbEvent.getLsbD awaited.position = true := by
  cases request with
  | eventRecv object flag requested timeout =>
      rcases allows.makes with ⟨rfl, receives, asked⟩
      refine ⟨asked (by rw [awaits]; exact nofun), ?_⟩
      rcases respond_eventRecv responds with ⟨received, left, kernel, rfl, _⟩ | ⟨rfl, _, _⟩
      · have equal : received = set := gets
        subst equal
        have inside := (rtEventRecv_eq_some kernel).1
        have bit : received.getLsbD awaited.position = true →
            state.nbEvent.getLsbD awaited.position = true := by
          rw [inside, BitVec.getLsbD_and, Bool.and_eq_true]
          exact And.left
        apply bit
        cases job with
        | reboot | enterPsm =>
            rcases receives with ⟨rfl, rfl⟩
            cases awaits
            rw [inside, rtEventRecv_and kernel]
            decide
        | ping ip =>
            cases awaits
            rw [ping rfl]
            decide
        | initEnvironment | exitPsm => contradiction
      · exact gets.elim
  | _ => exact gets.elim

/-- A call that succeeds has received its flag, or it is a ping that has timed
out with a stale `status`. -/
theorem succeeds_cases {caller : Caller} {request : Call} {resume : request.Answer → Code Bool}
    {answer : request.Answer} {table : NbDevice}
    (allows : caller.job.Allows caller.view request)
    (behaves : caller.job.Behaves (caller.view.next caller.job table request answer)
      (resume answer))
    (succeeds : caller.job.succeeds request answer (resume answer) = true) :
    ∃ awaited, caller.job.awaits = some awaited ∧
      ((∃ set, request.Gets set answer ∧ (awaited = .ping → set = eventPingOk)) ∨
        awaited = .ping ∧ request.expires answer = true ∧ caller.view.stale = eventPingOk) := by
  rcases caller with ⟨job, rest, view, acknowledged⟩
  dsimp only at allows behaves succeeds ⊢
  cases job with
  | reboot =>
      refine ⟨.pinReset, rfl, Or.inl ?_⟩
      cases request with
      | eventRecv object flag requested timeout =>
          cases answer with
          | none => contradiction
          | some received => exact ⟨received, rfl, nofun⟩
      | _ => contradiction
  | ping ip =>
      refine ⟨.ping, rfl, ?_⟩
      cases later : resume answer with
      | call next resumeNext =>
          rw [later] at succeeds
          cases request <;> contradiction
      | ret value =>
          rw [later] at behaves succeeds
          have successful : value = true := by
            cases request <;> exact succeeds
          rcases behaves.ping rfl successful with received | ⟨expired, stale⟩
          · exact Or.inl ⟨eventPingOk, gets_of_received (allows.waiting (Or.inl rfl)) received,
              fun _ => rfl⟩
          · have expires := expired_next allows.running expired
            refine Or.inr ⟨rfl, expires, ?_⟩
            cases request with
            | eventRecv object flag requested timeout =>
                cases answer with
                | none => exact stale
                | some received => contradiction
            | _ => contradiction
  | enterPsm =>
      refine ⟨.enterRun, rfl, Or.inl ?_⟩
      cases later : resume answer with
      | call next resumeNext =>
          rw [later] at succeeds
          cases request <;> contradiction
      | ret value =>
          rw [later] at behaves
          rcases Option.ne_none_iff_exists'.mp (behaves.enterRun rfl) with ⟨set, received⟩
          exact ⟨set, gets_of_received (allows.waiting (Or.inr rfl)) received, nofun⟩
  | initEnvironment | exitPsm =>
      cases request <;> contradiction

/-! ## Steps -/

namespace Calls.Fresh

variable {state target : Calls}

/-- A call that succeeds has been acknowledged. -/
theorem acknowledged_of_succeeds (fresh : state.Fresh) {after : Calls} {thread : Thread}
    {caller : Caller} (place : state.callers thread = some caller) {request : Call}
    {resume : request.Answer → Code Bool} {answer : request.Answer} {table : NbDevice}
    (allows : caller.job.Allows caller.view request)
    (behaves : caller.job.Behaves (caller.view.next caller.job table request answer)
      (resume answer))
    (responds : state.respond request answer = some after)
    (stale : caller.job.awaits = some .ping → request.expires answer = true →
      caller.view.stale ≠ eventPingOk)
    (succeeds : caller.job.succeeds request answer (resume answer) = true) :
    caller.acknowledged = true := by
  rcases succeeds_cases allows behaves succeeds with
    ⟨awaited, awaits, ⟨set, gets, ping⟩ | ⟨rfl, expires, same⟩⟩
  · rcases latched_of_gets allows responds gets awaits ping with ⟨asked, held⟩
    exact fresh.current thread caller place awaited awaits asked held
  · exact absurd same (stale awaits expires)

/-- The caller itself behind its call. -/
theorem current_answered (fresh : state.Fresh) {thread : Thread} {caller : Caller}
    (place : state.callers thread = some caller) {request : Call} {answer : request.Answer}
    {rest : Code Bool} {pending : EventSet}
    (unlatched : caller.job.asksBy request = true → ¬ state.Latched caller.job)
    (kept : ∀ awaited : Acknowledgement, pending.getLsbD awaited.position = true →
      state.nbEvent.getLsbD awaited.position = true) :
    (caller.answered state.driver.nbDeviceTable request answer rest).Current pending := by
  intro awaited awaits asked held
  have before := kept awaited held
  by_cases asks : caller.job.asksBy request = true
  · exact absurd ⟨awaited, awaits, before⟩ (unlatched asks)
  · have quiet : caller.job.asksBy request = false := Bool.not_eq_true _ ▸ asks
    have earlier : caller.view.asked = true := by
      change (caller.view.next caller.job _ request answer).asked = true at asked
      rw [asked_next, quiet, Bool.or_false] at asked
      exact asked
    simp only [Caller.answered, quiet, Bool.not_false, Bool.and_true]
    exact fresh.current thread caller place awaited awaits earlier before

theorem turn (fresh : state.Fresh) {thread : Thread}
    {outcome : (request : Call) → request.Answer}
    (unlatched : Unlatched state (.turn thread outcome))
    (moved : callsStep state (.turn thread outcome) = some target) : target.Fresh := by
  have steady := steady_step fresh.steady moved
  rcases turn_cases moved with ⟨caller, request, resume, after, place, rest, responds, rfl⟩
  have done := responded responds
  rcases behaves_answered rest (fresh.steady.behaves thread caller place) done.possible
    state.driver.nbDeviceTable with ⟨allows, behaves⟩
  rcases unlatched_turn unlatched place rest with ⟨asking, stale⟩
  have kept : ∀ awaited : Acknowledgement, after.nbEvent.getLsbD awaited.position = true →
      state.nbEvent.getLsbD awaited.position = true := by
    intro awaited held
    exact (done.pending _ held).resolve_right (not_sendsAt_of_makes allows.makes awaited)
  refine ⟨steady, ?_, forall_update_callers ?_ ?_, ?_⟩
  · change after.driver.nbDeviceTable.rebootOpen ≠ .rebootForAt
    rw [done.table]
    cases request with
    | writeTable update => exact allows.makes.2 _
    | _ => exact fresh.notAt
  · intro other before found awaited awaits asked held
    exact fresh.current other before found awaited awaits asked (kept awaited held)
  · intro later remains
    rw [remaining_eq_some remains]
    exact fresh.current_answered place asking kept
  · intro result member
    simp only [Calls.proceed] at member
    split at member
    · rename_i succeeds
      rcases List.mem_append.mp member with earlier | now
      · exact fresh.outcomes result earlier
      · rw [List.mem_singleton] at now
        rw [now]
        exact fresh.acknowledged_of_succeeds place allows behaves responds stale succeeds
    · exact fresh.outcomes result member

theorem step (fresh : state.Fresh) {move : CallsMove} (unlatched : Unlatched state move)
    (moved : callsStep state move = some target) : target.Fresh := by
  cases move with
  | turn thread outcome => exact fresh.turn unlatched moved
  | start thread job =>
      have steady := steady_step fresh.steady moved
      rcases start_cases moved with ⟨_, rfl⟩
      refine ⟨steady, fresh.notAt, forall_update_callers fresh.current ?_, fresh.outcomes⟩
      rintro caller started awaited awaits asked held
      cases started
      have sleeping : job = .enterPsm := of_decide_eq_true asked
      exact absurd ⟨awaited, awaits, held⟩ (unlatched sleeping)
  | psmTurn outcome =>
      have steady := steady_step fresh.steady moved
      rcases psmTurn_cases fresh.steady.psm moved with
        ⟨request, rest, after, fine, _, responds, rfl⟩
      have done := responded responds
      refine ⟨steady, ?_, forall_mark_callers fun thread caller place => ?_, ?_⟩
      · change after.driver.nbDeviceTable.rebootOpen ≠ .rebootForAt
        rw [done.table]
        cases request with
        | writeTable update => exact absurd trivial fine
        | _ => exact fresh.notAt
      · dsimp only at place
        rw [done.callers] at place
        apply current_of_noticed (fresh.current thread caller place)
        intro awaited _ _ held
        exact (done.pending _ held).imp_right (acknowledges_of_psm fine)
      · change ∀ result ∈ after.outcomes, result.acknowledged = true
        rw [done.outcomes]
        exact fresh.outcomes
  | urc event =>
      have steady := steady_step fresh.steady moved
      rcases urc_cases moved with ⟨_, rfl⟩
      rcases urc_frame state event with ⟨driver, _, outcomes, _, callers⟩
      refine ⟨steady, ?_, fun thread caller place => ?_, ?_⟩
      · rw [driver]
        rcases qsdkThreadEntry_rebootOpen event state.driver with closed | same
        · rw [closed]
          exact RebootType.noConfusion
        · rw [same]
          exact fresh.notAt
      · rw [callers] at place
        rcases Option.map_eq_some_iff.mp place with ⟨before, found, rfl⟩
        have hears := unlatched thread (mem_threads thread) before found
        apply current_of_noticed (fresh.current thread before found)
        intro awaited awaits asked held
        rcases foldl_effect_pending _ _ _ held with earlier | ⟨set, sent, bit⟩
        · exact Or.inl earlier
        · have recognised := recognised_of_sends fresh.notAt sent bit
          exact Or.inr (acknowledges_of_own state.driver recognised
            (hears asked awaited awaits recognised))
      · rw [outcomes]
        exact fresh.outcomes
  | createNetError =>
      have steady := steady_step fresh.steady moved
      cases moved
      exact ⟨steady, fresh.notAt, fresh.current, fresh.outcomes⟩

end Calls.Fresh

theorem fresh_start : Calls.Fresh {} := by
  constructor
  · exact steady_start
  · exact RebootType.noConfusion
  · intro thread caller place
    contradiction
  · intro outcome member
    contradiction

/-- In every interleaving of callers, notifications, turns of the PSM thread and
timeouts in which no function asks the module while its flag is pending, no ping
times out with a stale `status`, and no line of another kind contains the text of
an answer that a call waits for, every call that gets past its wait has been
acknowledged since it asked. -/
theorem acknowledgements_fresh (run : List CallsMove) (final : Calls)
    (unlatched : Guarded callsStep Unlatched {} run)
    (executed : exec callsStep {} run = some final) :
    ∀ outcome ∈ final.outcomes, outcome.acknowledged = true := by
  have fresh : final.Fresh :=
    exec_invariant (fun _ _ _ holds allowed moved => holds.step allowed moved) fresh_start
      unlatched executed
  exact fresh.outcomes

theorem acknowledgedReboot_outcomes :
    (exec callsStep {} acknowledgedReboot).map Calls.outcomes = some [⟨.reboot, true⟩] := by
  decide +kernel

theorem acknowledgedReboot_fresh :
    ∃ final, exec callsStep {} acknowledgedReboot = some final ∧
      final.outcomes = [⟨.reboot, true⟩] ∧
      ∀ outcome ∈ final.outcomes, outcome.acknowledged = true := by
  rcases Option.map_eq_some_iff.mp acknowledgedReboot_outcomes with ⟨final, executed, outcomes⟩
  refine ⟨final, executed, outcomes, ?_⟩
  exact acknowledgements_fresh acknowledgedReboot final (by decide +kernel) executed

/-- The module answers a reboot after the wait for it has timed out; the next
reboot takes that answer for its own. -/
def lateReboot : List CallsMove :=
  rebootRun [] none ++ [.urc (resetPinCause ++ [13])] ++ rebootRun [] (some eventReboot)

theorem lateReboot_outcomes :
    (exec callsStep {} lateReboot).map Calls.outcomes = some [⟨.reboot, false⟩] := by
  decide +kernel

theorem lateReboot_stale :
    ¬ ∀ run final, exec callsStep {} run = some final →
      ∀ outcome ∈ final.outcomes, outcome.acknowledged = true := by
  intro always
  rcases Option.map_eq_some_iff.mp lateReboot_outcomes with ⟨final, executed, outcomes⟩
  have acknowledged := always lateReboot final executed ⟨.reboot, false⟩
  rw [outcomes] at acknowledged
  exact Bool.false_ne_true (acknowledged List.mem_cons_self)

end BerPiNbiot.Modem
