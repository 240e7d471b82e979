import BerPiNbiot.App.Notices

/-!
# Waking up

The PSM thread may receive any set of its flags, and a set with more than one
of them is dropped.  A turn is watched for the status before it, the state
behind it and the flags the thread has sent.  `EVENT_ENTER_RUN` leaves the
status at `exit_psm`, and only the branches of the other two flags lead away from
there, so that one of them is served between two wake-ups.
-/

namespace BerPiNbiot.App

open BerPiNbiot.Kernel
open BerPiNbiot.Modem
open BerPiNbiot.Resumption

/-! ## Turns with any received set -/

/-- The PSM thread's share of the state and what it has sent on `nb_event`. -/
structure PsmWatch where
  state : PsmState
  sent : List EventSet := []

/-- The answers to the PSM thread in a turn that receives a set of flags.  The
flag of a single event matters to `rt_event_recv` only. -/
def PsmServes (received : EventSet) (before : PsmState) :
    (request : Call) → request.Answer → PsmState → Prop
  | .eventRecv .., answer, after =>
      answer = some received ∧ after.nbiotPsmStatus = before.nbiotPsmStatus ∧
        Interferes .psm before.lock after.lock
  | request, answer, after => PsmResponds .enter before request answer after

/-- What a call sends on `nb_event`. -/
def sentBy : Call → List EventSet
  | .eventSend .nbEvent set => [set]
  | _ => []

/-- A call of the PSM thread moves its state and records what it sends. -/
def PsmWatches (received : EventSet) (before : PsmWatch) (request : Call)
    (answer : request.Answer) (after : PsmWatch) : Prop :=
  PsmServes received before.state request answer after.state ∧
    after.sent = before.sent ++ sentBy request

/-- A finished turn. -/
structure PsmTurn where
  received : EventSet
  before : NbStatus
  after : PsmState
  sent : List EventSet

/-- The PSM thread receives the sets one after the other. -/
def PsmTurns : List EventSet → PsmState → List PsmTurn → Prop
  | [], _, turns => turns = []
  | received :: rest, before, turns =>
      ∃ (after : PsmWatch) (later : List PsmTurn),
        Program.Runs (PsmWatches received) qsdkPsmIteration ⟨before, []⟩ () after ∧
          PsmTurns rest after.state later ∧
          turns = ⟨received, before.nbiotPsmStatus, after.state, after.sent⟩ :: later

/-! ## One turn -/

theorem psmResponds_of_serves {event : PsmEvent} {before after : PsmState} {request : Call}
    {answer : request.Answer} (serves : PsmServes event.flag before request answer after) :
    PsmResponds event before request answer after := by
  cases request <;> exact serves

/-- A run that is watched is a run. -/
theorem runs_of_watched {event : PsmEvent} {program : Code Unit} {before after : PsmWatch}
    (run : Program.Runs (PsmWatches event.flag) program before () after) :
    Program.Runs (PsmResponds event) program before.state () after.state :=
  Program.runs_map (fun _ _ _ _ watches => psmResponds_of_serves watches.1) run

/-- The call sends flags. -/
def Sends (request : Call) : Prop :=
  sentBy request ≠ []

/-- Code that sends nothing leaves no trace. -/
theorem sent_of_silent {received : EventSet} {program : Code Unit} {before after : PsmWatch}
    (silent : program.Always (fun _ _ => True) Sends fun _ => True)
    (run : Program.Runs (PsmWatches received) program before () after) :
    after.sent = before.sent := by
  induction program generalizing before with
  | ret value =>
      rcases run with ⟨_, rfl⟩
      rfl
  | call request resume ih =>
      rcases run with ⟨answer, middle, ⟨_, sent⟩, rest⟩
      rcases silent with ⟨quiet, later⟩
      rw [ih answer (later answer trivial) rest, sent, not_not.mp quiet, List.append_nil]

theorem silent_wakeUp : wakeUp.Always (fun _ _ => True) Sends fun _ => True := by
  simp [wakeUp, qsdkNbWaitConnect, atClientObjWaitConnect, atDeleteResp, atObjExecCmd, Sends,
    sentBy]

/-- What the PSM thread sends when it serves an event. -/
def psmSent (status : NbStatus) : PsmEvent → List EventSet
  | .exit => if status = .exitPsm then [] else [eventEnterRun]
  | _ => []

theorem count_psmSent_le (status : NbStatus) (event : PsmEvent) :
    (psmSent status event).count eventEnterRun ≤ 1 := by
  cases event with
  | enter => exact Nat.zero_le 1
  | exit =>
      rw [psmSent]
      split <;> decide
  | exitReboot => exact Nat.zero_le 1

theorem readPsmStatus_watched {event : PsmEvent} {before after : PsmWatch} {status : NbStatus}
    (run : Program.Runs (PsmWatches event.flag) readPsmStatus before status after) :
    status = before.state.nbiotPsmStatus ∧
      after.state.nbiotPsmStatus = before.state.nbiotPsmStatus ∧ after.sent = before.sent := by
  rcases run with ⟨_, _, ⟨⟨rfl, same, _⟩, sent⟩, rfl, rfl⟩
  exact ⟨rfl, same, by simp [sent, sentBy]⟩

/-- The end of the branch of `EVENT_EXIT_PSM`. -/
theorem markExit_sent {event : PsmEvent} {before after : PsmWatch}
    (run : Program.Runs (PsmWatches event.flag)
      (do
        if ← getPsmStatus then
          writePsmStatus .exitPsm
          eventSend .nbEvent eventEnterRun) before () after) :
    after.sent = before.sent ++ psmSent before.state.nbiotPsmStatus .exit := by
  simp only [getPsmStatus, Program.runs_bind, Program.runs_ret, Program.pure_eq_ret] at run
  rcases run with ⟨_, _, ⟨status, seen, seenRun, rfl, rfl⟩, run⟩
  rcases readPsmStatus_watched seenRun with ⟨rfl, _, seenSent⟩
  by_cases out : before.state.nbiotPsmStatus = .exitPsm
  · simp only [out, ne_eq, not_true_eq_false, decide_false, Bool.false_eq_true, if_false,
      Program.runs_ret, true_and] at run
    rw [run, seenSent, psmSent, if_pos out, List.append_nil]
  · simp only [out, ne_eq, not_false_eq_true, decide_true, if_true] at run
    obtain ⟨_, marked, ⟨_, markedSent⟩, _, last, ⟨_, lastSent⟩, _, rfl⟩ := run
    simp [lastSent, markedSent, seenSent, psmSent, out, sentBy]

theorem psmExit_sent {before after : PsmWatch}
    (run : Program.Runs (PsmWatches (PsmEvent.flag .exit)) psmExit before () after) :
    after.sent = before.sent ++ psmSent before.state.nbiotPsmStatus .exit := by
  rcases (Program.runs_bind _ _ _ _ _ _).mp run with ⟨status, seen, seenRun, run⟩
  rcases readPsmStatus_watched seenRun with ⟨rfl, seenStatus, seenSent⟩
  by_cases asleep : before.state.nbiotPsmStatus = .enterPsm
  · rw [if_pos asleep] at run
    rcases (Program.runs_bind _ _ _ _ _ _).mp run with ⟨_, freed, releaseRun, run⟩
    rcases (Program.runs_bind _ _ _ _ _ _).mp run with ⟨_, woken, wakeRun, run⟩
    have wokenView := release_wakeUp_view (runs_of_watched releaseRun) (runs_of_watched wakeRun)
    have wokenStatus : woken.state.nbiotPsmStatus = seen.state.nbiotPsmStatus :=
      congrArg Prod.fst wokenView
    rcases releaseRun with ⟨_, _, ⟨_, freedSent⟩, _, rfl⟩
    rw [markExit_sent run, wokenStatus, seenStatus, sent_of_silent silent_wakeUp wakeRun,
      freedSent, seenSent]
    simp [sentBy]
  · rw [if_neg asleep] at run
    rw [markExit_sent run, seenStatus, seenSent]

/-- What a turn does, whatever it receives. -/
theorem psmTurn_spec {received : EventSet} {before : PsmState} {after : PsmWatch}
    (run : Program.Runs (PsmWatches received) qsdkPsmIteration ⟨before, []⟩ () after) :
    (∃ event : PsmEvent, received = event.flag ∧ after.state.view = psmNext before.view event ∧
      after.sent = psmSent before.nbiotPsmStatus event) ∨
    (∀ event : PsmEvent, received ≠ event.flag) ∧ after.state.view = before.view ∧
      after.sent = [] := by
  by_cases single : ∃ event : PsmEvent, received = event.flag
  · rcases single with ⟨event, rfl⟩
    refine Or.inl ⟨event, rfl, qsdkPsmIteration_view (runs_of_watched run), ?_⟩
    rcases run with ⟨_, got, ⟨⟨rfl, status, _⟩, sent⟩, run⟩
    have nothing : got.sent = [] := sent
    change Program.Runs _ (psmHandle event.flag) _ _ _ at run
    rw [psmHandle_flag] at run
    cases event with
    | enter =>
        rw [sent_of_silent (by simp [psmBranch, psmEnter, writePsmStatus, lockTake, Sends, sentBy])
          run, nothing]
        rfl
    | exit =>
        rw [psmExit_sent run, nothing, status]
        rfl
    | exitReboot =>
        have silent : psmExitReboot.Always (fun _ _ => True) Sends fun _ => True := by
          simp [psmExitReboot, wakeUp, qsdkNbWaitConnect, atClientObjWaitConnect, atDeleteResp,
            atObjExecCmd, writePsmStatus, lockRelease, readPsmStatus, Sends, sentBy]
        rw [sent_of_silent silent run, nothing]
        rfl
  · rw [not_exists] at single
    refine Or.inr ⟨single, ?_⟩
    rcases run with ⟨_, got, ⟨⟨rfl, status, _, lock⟩, sent⟩, run⟩
    change Program.Runs _ (psmHandle received) _ _ _ at run
    rw [psmHandle_of_ne single] at run
    rcases run with ⟨_, rfl⟩
    refine ⟨?_, sent⟩
    rw [PsmState.view, status, lock]
    rfl

/-! ## Runs -/

/-- The values that the PSM thread gives the status. -/
def SleepStatus (status : NbStatus) : Prop :=
  status = .enterPsm ∨ status = .exitPsm ∨ status = .psmRun

/-- The PSM thread owns the AT lock and keeps every other thread out. -/
def LockedOut (state : PsmState) : Prop :=
  state.lock.owner = some .psm ∧
    ∀ other, other ≠ Thread.psm → (rtMutexTake other state.lock).1 = false

/-- What holds between the turns. -/
def PsmSound (state : PsmState) : Prop :=
  SleepStatus state.nbiotPsmStatus ∧ (state.nbiotPsmStatus = .enterPsm → LockedOut state)

theorem lockedOut_of_view {state : PsmState} {hold : UInt8}
    (view : state.lock.view .psm = some hold) : LockedOut state := by
  have own : state.lock.owner = some .psm := by
    by_contra other
    rw [view_eq_none_iff.mpr other] at view
    contradiction
  refine ⟨own, fun other different => ?_⟩
  simp [rtMutexTake, own, Ne.symm different]

theorem sound_of_view_eq {before after : PsmState} (view : after.view = before.view)
    (sound : PsmSound before) : PsmSound after := by
  have status : after.nbiotPsmStatus = before.nbiotPsmStatus := congrArg Prod.fst view
  have lock : after.lock.view .psm = before.lock.view .psm := congrArg Prod.snd view
  rcases sound with ⟨kind, asleep⟩
  rw [PsmSound, status]
  refine ⟨kind, fun sleeps => ?_⟩
  have held : after.lock.view .psm = some before.lock.hold := by
    rw [lock, Mutex.view, if_pos (asleep sleeps).1]
  exact lockedOut_of_view held

theorem sound_of_served {event : PsmEvent} {before after : PsmState}
    (view : after.view = psmNext before.view event) : PsmSound after := by
  have status : after.nbiotPsmStatus = (psmNext before.view event).1 := congrArg Prod.fst view
  have lock : after.lock.view .psm = (psmNext before.view event).2 := congrArg Prod.snd view
  rw [PsmSound, status]
  cases event with
  | enter => exact ⟨Or.inl rfl, fun _ => lockedOut_of_view lock⟩
  | exit => exact ⟨Or.inr (Or.inl rfl), nofun⟩
  | exitReboot => exact ⟨Or.inr (Or.inr rfl), nofun⟩

/-- The turn serves a report of sleep or of a reboot. -/
def PsmTurn.LeavesRun (turn : PsmTurn) : Prop :=
  turn.received = eventEnterPsm ∨ turn.received = eventExitPsmReboot

/-- A turn wakes the module's users at most once, and only when it ends a sleep
or a reboot. -/
structure PsmTurn.Orderly (turn : PsmTurn) : Prop where
  sound : PsmSound turn.after
  once : turn.sent.count eventEnterRun ≤ 1
  wakes : eventEnterRun ∈ turn.sent →
    (turn.before = .enterPsm ∨ turn.before = .psmRun) ∧ turn.after.nbiotPsmStatus = .exitPsm
  stays : ¬ turn.LeavesRun → turn.before = .exitPsm → turn.after.nbiotPsmStatus = .exitPsm

theorem orderly_turn {received : EventSet} {before : PsmState} {after : PsmWatch}
    (sound : PsmSound before)
    (run : Program.Runs (PsmWatches received) qsdkPsmIteration ⟨before, []⟩ () after) :
    PsmTurn.Orderly ⟨received, before.nbiotPsmStatus, after.state, after.sent⟩ := by
  rcases psmTurn_spec run with ⟨event, rfl, view, sent⟩ | ⟨_, view, sent⟩
  · have status : after.state.nbiotPsmStatus = (psmNext before.view event).1 :=
      congrArg Prod.fst view
    refine ⟨sound_of_served view, ?_, ?_, ?_⟩
    · rw [sent]
      exact count_psmSent_le before.nbiotPsmStatus event
    · rw [sent]
      cases event with
      | exit =>
          rw [psmSent]
          split
          · exact nofun
          · rename_i moves
            intro _
            rcases sound.1 with enter | exit | run
            · exact ⟨Or.inl enter, status⟩
            · exact absurd exit moves
            · exact ⟨Or.inr run, status⟩
      | _ => exact nofun
    · intro other _
      cases event with
      | enter => exact absurd (Or.inl rfl) other
      | exit => exact status
      | exitReboot => exact absurd (Or.inr rfl) other
  · have status : after.state.nbiotPsmStatus = before.nbiotPsmStatus := congrArg Prod.fst view
    refine ⟨sound_of_view_eq view sound, ?_, ?_, ?_⟩
    · simp [sent]
    · rw [sent]
      exact nofun
    · intro _ out
      rw [status]
      exact out

/-- The turns of a run follow each other. -/
def Chained : NbStatus → List PsmTurn → Prop
  | _, [] => True
  | status, turn :: rest =>
      turn.before = status ∧ Chained turn.after.nbiotPsmStatus rest

theorem psmTurns_spec {sets : List EventSet} {before : PsmState} {turns : List PsmTurn}
    (sound : PsmSound before) (run : PsmTurns sets before turns) :
    (∀ turn ∈ turns, turn.Orderly) ∧ Chained before.nbiotPsmStatus turns := by
  induction sets generalizing before turns with
  | nil =>
      rw [show turns = [] from run]
      exact ⟨List.forall_mem_nil _, trivial⟩
  | cons received rest ih =>
      rcases run with ⟨after, later, turn, run, rfl⟩
      have orderly := orderly_turn sound turn
      rcases ih orderly.sound run with ⟨others, chained⟩
      exact ⟨List.forall_mem_cons.mpr ⟨orderly, others⟩, rfl, chained⟩

theorem Chained.of_append {status : NbStatus} {first : List PsmTurn} {turn : PsmTurn}
    {rest : List PsmTurn} (chained : Chained status (first ++ turn :: rest)) :
    Chained turn.after.nbiotPsmStatus rest := by
  induction first generalizing status with
  | nil => exact chained.2
  | cons other first ih => exact ih chained.2

/-- The status stays at `exit_psm` until a report leads away from it. -/
theorem before_eq_exit {between : List PsmTurn} {turn : PsmTurn} {rest : List PsmTurn}
    (orderly : ∀ other ∈ between, other.Orderly) (none : ∀ other ∈ between, ¬ other.LeavesRun)
    (chained : Chained .exitPsm (between ++ turn :: rest)) : turn.before = .exitPsm := by
  induction between with
  | nil => exact chained.1
  | cons other between ih =>
      rw [List.forall_mem_cons] at orderly none
      rcases chained with ⟨start, chained⟩
      rw [orderly.1.stays none.1 start] at chained
      exact ih orderly.2 none.2 chained

/-- Every sequence of sets can be received. -/
theorem exists_psmTurns (sets : List EventSet) (before : PsmState)
    (coherent : before.lock.Coherent .psm) : ∃ turns, PsmTurns sets before turns := by
  induction sets generalizing before with
  | nil => exact ⟨[], rfl⟩
  | cons received rest ih =>
      have answered : ∀ watch : PsmWatch, watch.state.lock.Coherent .psm → ∀ request : Call,
          ∃ (answer : request.Answer) (next : PsmWatch),
            PsmWatches received watch request answer next ∧ next.state.lock.Coherent .psm := by
        intro watch free request
        rcases exists_psmResponds .enter watch.state free request with
          ⟨answer, state, responds, stateFree⟩
        cases request with
        | eventRecv =>
            refine ⟨some received, ⟨watch.state, watch.sent ++ []⟩, ⟨⟨rfl, rfl, free, rfl⟩, rfl⟩,
              free⟩
        | _ => exact ⟨answer, ⟨state, _⟩, ⟨responds, rfl⟩, stateFree⟩
      rcases Program.exists_runs (PsmWatches received) answered qsdkPsmIteration ⟨before, []⟩
        coherent with ⟨_, after, turn, free⟩
      rcases ih after.state free with ⟨later, run⟩
      exact ⟨_, after, later, turn, run, rfl⟩

/-- For every sequence of sets received by the PSM thread, with any answers of
the modem and any use of the AT lock by the others: after every turn the status
is one of the three, the thread owns the lock and keeps the others out while it
is `enter_psm`, a turn sends `EVENT_ENTER_RUN` at most once and only on the way
from `enter_psm` or `psm_run` to `exit_psm`, and between two turns that send it
there is one that serves `EVENT_ENTER_PSM` or `EVENT_EXIT_PSM_REBOOT`. -/
theorem psm_locked_out_and_woken_once (sets : List EventSet) (turns : List PsmTurn)
    (run : PsmTurns sets {} turns) :
    (∀ turn ∈ turns, PsmSound turn.after ∧ turn.sent.count eventEnterRun ≤ 1 ∧
      (eventEnterRun ∈ turn.sent → (turn.before = .enterPsm ∨ turn.before = .psmRun) ∧
        turn.after.nbiotPsmStatus = .exitPsm)) ∧
    ∀ earlier first between second later,
      turns = earlier ++ first :: (between ++ second :: later) →
      eventEnterRun ∈ first.sent → eventEnterRun ∈ second.sent →
        ∃ turn ∈ between, turn.LeavesRun := by
  have start : PsmSound {} := ⟨Or.inr (Or.inl rfl), nofun⟩
  rcases psmTurns_spec start run with ⟨orderly, chained⟩
  constructor
  · intro turn member
    exact ⟨(orderly turn member).sound, (orderly turn member).once, (orderly turn member).wakes⟩
  · rintro earlier first between second later rfl firstWakes secondWakes
    rw [List.forall_mem_append, List.forall_mem_cons, List.forall_mem_append,
      List.forall_mem_cons] at orderly
    rcases orderly with ⟨_, firstOrderly, betweenOrderly, secondOrderly, _⟩
    by_contra none
    rw [not_exists] at none
    have quiet : ∀ other ∈ between, ¬ other.LeavesRun := fun other member leaves =>
      none other ⟨member, leaves⟩
    have rest := chained.of_append
    rw [(firstOrderly.wakes firstWakes).2] at rest
    have awake := before_eq_exit betweenOrderly quiet rest
    have moved := (secondOrderly.wakes secondWakes).1
    rw [awake] at moved
    rcases moved with enter | run
    · contradiction
    · contradiction

/-- Sleep, a wake-up, two flags at once, sleep and a reboot, and a wake-up. -/
def sleepingSets : List EventSet :=
  [eventEnterPsm, eventExitPsm, eventEnterPsm ||| eventExitPsm, eventEnterPsm, eventExitPsmReboot,
    eventExitPsm]

theorem sleepingSets_woken_once :
    ∃ turns, PsmTurns sleepingSets {} turns ∧
      ∀ turn ∈ turns, PsmSound turn.after ∧ turn.sent.count eventEnterRun ≤ 1 := by
  rcases exists_psmTurns sleepingSets {} ⟨fun _ => rfl, List.not_mem_nil⟩ with ⟨turns, run⟩
  refine ⟨turns, run, fun turn member => ?_⟩
  have orderly := (psm_locked_out_and_woken_once sleepingSets turns run).1 turn member
  exact ⟨orderly.1, orderly.2.1⟩

end BerPiNbiot.App
