import BerPiNbiot.App.Net
import BerPiNbiot.Modem.Psm
import BerPiNbiot.Transition.Core

/-!
# Pending notifications

The PSM thread and the network thread take all their pending flags out of the
event object at once and then compare the received set with single flags.  A
received set of two flags matches no branch: both are consumed and neither is
served.

A run here is any sequence of sends and of turns of the two receivers, so it
covers every timing of the sends against the receivers.
-/

namespace BerPiNbiot.App

open BerPiNbiot.Kernel
open BerPiNbiot.Modem
open BerPiNbiot.Resumption
open BerPiNbiot.Transition

/-! ## The branches of the PSM thread -/

/-- The branch of `EVENT_ENTER_PSM`. -/
def psmEnter : Code Unit := do
  writePsmStatus .enterPsm
  lockTake

/-- The branch of `EVENT_EXIT_PSM`. -/
def psmExit : Code Unit := do
  if (← readPsmStatus) = .enterPsm then
    lockRelease
    wakeUp
  if ← getPsmStatus then
    writePsmStatus .exitPsm
    eventSend .nbEvent eventEnterRun

/-- The branch of `EVENT_EXIT_PSM_REBOOT`. -/
def psmExitReboot : Code Unit := do
  writePsmStatus .psmRun
  lockRelease
  wakeUp
  if (← readPsmStatus) = .enterPsm then
    lockRelease
    wakeUp
  return ()

/-- The branch of the PSM thread that serves an event. -/
def psmBranch : PsmEvent → Code Unit
  | .enter => psmEnter
  | .exit => psmExit
  | .exitReboot => psmExitReboot

/-- A single flag is served by its branch. -/
theorem psmHandle_flag (event : PsmEvent) : psmHandle event.flag = psmBranch event := by
  cases event with
  | enter => rfl
  | exit => rfl
  | exitReboot => rfl

/-- Any other set is dropped. -/
theorem psmHandle_of_ne {status : EventSet} (other : ∀ event : PsmEvent, status ≠ event.flag) :
    psmHandle status = .ret () := by
  have enter := other .enter
  have exit := other .exit
  have exitReboot := other .exitReboot
  simp only [PsmEvent.flag] at enter exit exitReboot
  simp only [psmHandle, enter, exit, exitReboot, if_false, or_self]
  rfl

theorem psmBranch_ne_ret (event : PsmEvent) : psmBranch event ≠ .ret () := by
  cases event with
  | enter => exact nofun
  | exit => exact nofun
  | exitReboot => exact nofun

/-- The flag positions of the PSM thread. -/
def psmPosition : PsmEvent → Fin 32
  | .enter => positionOf 3
  | .exit => positionOf 4
  | .exitReboot => positionOf 5

/-- The events that the PSM thread waits for. -/
def psmEvents : List PsmEvent :=
  [.enter, .exit, .exitReboot]

theorem psmPosition_injective : Function.Injective psmPosition := by
  intro first second equal
  cases first <;> cases second <;> first | rfl | exact absurd equal (by decide)

theorem psmRequested_eq : psmRequested = flagsAt (psmEvents.map psmPosition) := by
  decide

theorem psmFlag_eq (event : PsmEvent) : event.flag = flagAt (psmPosition event) := by
  cases event <;> rfl

/-! ## The branches of the network thread -/

/-- A single flag received by the network thread. -/
inductive NetEvent
  | sendError
  | nbReboot
  deriving DecidableEq, Repr

/-- The bit of an event of `net_error`. -/
def netPosition : NetEvent → Fin 32
  | .nbReboot => positionOf 1
  | .sendError => positionOf 2

/-- The events that `net_entry` waits for. -/
def netEvents : List NetEvent :=
  [.sendError, .nbReboot]

/-- The turn of the wait loop that serves one event. -/
def netTurn (event : NetEvent) (reconCount : Nat) : Code NetLabel :=
  match event with
  | .sendError => dataUpSuspend >>= fun _ => netSendError >>= netFinish reconCount
  | .nbReboot => dataUpSuspend >>= fun _ => netNbReboot >>= netFinish reconCount

/-- The turn of the wait loop that serves nothing. -/
def netIdleTurn (reconCount : Nat) : Code NetLabel :=
  dataUpSuspend >>= fun _ => netFinish reconCount none

theorem netPosition_injective : Function.Injective netPosition := by
  intro first second equal
  cases first <;> cases second <;> first | rfl | exact absurd equal (by decide)

theorem netRequested_eq : netRequested = flagsAt (netEvents.map netPosition) := by
  decide

theorem netHandle_flag (event : NetEvent) :
    netHandle (flagAt (netPosition event)) = netTurn event := by
  cases event with
  | sendError => rfl
  | nbReboot => rfl

theorem netHandle_of_ne {status : EventSet}
    (other : ∀ event, status ≠ flagAt (netPosition event)) :
    netHandle status = netIdleTurn := by
  have send : status ≠ sendError := other .sendError
  have reboot : status ≠ nbReboot := other .nbReboot
  funext reconCount
  simp only [netHandle, send, reboot, if_false]
  rfl

/-- A serving turn goes on with another call than an idle one. -/
theorem netTurn_ne_idle (event : NetEvent) : netTurn event ≠ netIdleTurn := by
  intro equal
  have atZero := congrFun equal 0
  cases event with
  | sendError =>
      have tails := (Program.call.inj atZero).2
      have next := congrFun (eq_of_heq tails) ()
      exact nomatch next
  | nbReboot =>
      have tails := (Program.call.inj atZero).2
      have next := congrFun (eq_of_heq tails) ()
      exact nomatch next

/-- Every read of the table finds the module without network. -/
def ReadsUnattached : Unit → (request : Call) → request.Answer → Unit → Prop
  | _, .readTable, table, _ => table.netConnectOk = 0
  | _, _, _, _ => True

/-- Serving a reboot of a module without network leads to `net_recon`. -/
theorem netTurn_nbReboot_recon {reconCount : Nat} {label : NetLabel}
    (run : Program.Runs ReadsUnattached (netTurn .nbReboot reconCount) () label ()) :
    label = .netRecon 1 := by
  simp only [netTurn, netNbReboot, qsdkNbGetNetConnectStatus, readTable, dataUpSuspend,
    Program.runs_bind, Program.runs_call, Program.runs_ret, Program.pure_eq_ret] at run
  rcases run with ⟨_, _, _, _, _, ⟨_, _, ⟨table, _, ⟨_, _, unattached, rfl, _⟩, rfl, _⟩, jump⟩, run⟩
  have closed : table.netConnectOk = 0 := unattached
  simp only [closed, ne_eq, not_true_eq_false, decide_false, Bool.not_false, if_true,
    Program.runs_ret] at jump
  rw [jump.1] at run
  exact run.1

/-! ## Turns of the two receivers -/

/-- The pending flags of the two event objects. -/
structure Flags where
  nbEvent : EventSet := 0
  netError : EventSet := 0
  deriving DecidableEq, Repr

/-- A send to one of the objects or the receive that starts a turn. -/
inductive Notice
  | sendNb (set : EventSet)
  | sendNet (set : EventSet)
  | psmTurn
  | netTurn
  deriving DecidableEq, Repr

/-- The flags after a notice; a turn waits until its receive is satisfied. -/
def noticeStep : Step Flags Notice
  | flags, .sendNb set => some { flags with nbEvent := rtEventSend flags.nbEvent set }
  | flags, .sendNet set => some { flags with netError := rtEventSend flags.netError set }
  | flags, .psmTurn =>
      (rtEventRecv .or psmRequested flags.nbEvent).map fun result =>
        { flags with nbEvent := result.2 }
  | flags, .netTurn =>
      (rtEventRecv .or netRequested flags.netError).map fun result =>
        { flags with netError := result.2 }

/-- The PSM thread runs the branch of every flag in the received set. -/
def PsmServed (received : EventSet) : Prop :=
  ∀ event, received.getLsbD (psmPosition event) = true →
    psmHandle received = psmBranch event

/-- The network thread runs the branch of every flag in the received set, and a
reboot of a module without network takes it to `net_recon`. -/
def NetServed (received : EventSet) : Prop :=
  ∀ event, received.getLsbD (netPosition event) = true →
    netHandle received = netTurn event ∧
      (event = .nbReboot → ∀ reconCount label,
        Program.Runs ReadsUnattached (netHandle received reconCount) () label () →
          label = .netRecon 1)

/-- A turn serves all flags that it consumes. -/
def TurnServed (flags : Flags) : Notice → Prop
  | .psmTurn => ∀ received left,
      rtEventRecv .or psmRequested flags.nbEvent = some (received, left) → PsmServed received
  | .netTurn => ∀ received left,
      rtEventRecv .or netRequested flags.netError = some (received, left) → NetServed received
  | _ => True

/-- A turn finds at most one of its flags pending. -/
def OnePending (flags : Flags) : Notice → Prop
  | .psmTurn => (pendingAt flags.nbEvent (psmEvents.map psmPosition)).length ≤ 1
  | .netTurn => (pendingAt flags.netError (netEvents.map netPosition)).length ≤ 1
  | _ => True

theorem psmServed_iff {pending received left : EventSet}
    (result : rtEventRecv .or psmRequested pending = some (received, left)) :
    PsmServed received ↔ (pendingAt pending (psmEvents.map psmPosition)).length ≤ 1 := by
  rw [psmRequested_eq] at result
  refine served_iff psmPosition_injective (by decide) ?_ ?_ psmBranch_ne_ret result
  · intro event
    rw [← psmFlag_eq]
    exact psmHandle_flag event
  · intro set other
    exact psmHandle_of_ne fun event equal => other event (equal.trans (psmFlag_eq event))

theorem netServed_iff {pending received left : EventSet}
    (result : rtEventRecv .or netRequested pending = some (received, left)) :
    NetServed received ↔ (pendingAt pending (netEvents.map netPosition)).length ≤ 1 := by
  rw [netRequested_eq] at result
  have branches :
      (∀ event, received.getLsbD (netPosition event) = true →
        netHandle received = netTurn event) ↔
        (pendingAt pending (netEvents.map netPosition)).length ≤ 1 := by
    exact served_iff netPosition_injective (by decide) netHandle_flag
      (fun _ other => netHandle_of_ne other) netTurn_ne_idle result
  rw [← branches]
  constructor
  · exact fun served event consumed => (served event consumed).1
  · intro served event consumed
    constructor
    · exact served event consumed
    · rintro rfl reconCount label run
      rw [served .nbReboot consumed] at run
      exact netTurn_nbReboot_recon run

/-- A receiver waits only while none of its flags is pending. -/
theorem pendingAt_of_recv_none {pending : EventSet} {positions : List (Fin 32)}
    (waits : rtEventRecv .or (flagsAt positions) pending = none) :
    (pendingAt pending positions).length ≤ 1 := by
  have nothing : flagsAt (pendingAt pending positions) = flagsAt [] := by
    rw [← and_flagsAt]
    by_contra some_flag
    have received : pending &&& flagsAt positions ≠ 0 := some_flag
    simp only [rtEventRecv, received, ne_eq, not_false_eq_true, if_true] at waits
    contradiction
  have empty : pendingAt pending positions = [] := by
    rw [flagsAt_eq_iff] at nothing
    exact List.eq_nil_iff_forall_not_mem.mpr fun position member =>
      List.not_mem_nil ((nothing position).mp member)
  rw [empty]
  exact Nat.zero_le 1

/-- A turn serves what it receives if and only if one flag at most is pending, if
this holds whenever something is received. -/
theorem turn_served_iff {positions : List (Fin 32)} {pending : EventSet}
    {Served : EventSet → Prop}
    (receives : ∀ received left,
      rtEventRecv .or (flagsAt positions) pending = some (received, left) →
        (Served received ↔ (pendingAt pending positions).length ≤ 1)) :
    (∀ received left, rtEventRecv .or (flagsAt positions) pending = some (received, left) →
      Served received) ↔ (pendingAt pending positions).length ≤ 1 := by
  cases result : rtEventRecv .or (flagsAt positions) pending with
  | none =>
      apply iff_of_true
      · intro received left taken
        contradiction
      · exact pendingAt_of_recv_none result
  | some pair =>
      rcases pair with ⟨received, left⟩
      rw [← receives received left result]
      constructor
      · intro served
        exact served received left rfl
      · intro served other rest taken
        cases taken
        exact served

theorem turnServed_iff_onePending (flags : Flags) (notice : Notice) :
    TurnServed flags notice ↔ OnePending flags notice := by
  cases notice with
  | sendNb _ | sendNet _ => exact Iff.rfl
  | psmTurn =>
      rw [TurnServed, OnePending, psmRequested_eq]
      apply turn_served_iff
      intro received left result
      rw [← psmRequested_eq] at result
      exact psmServed_iff result
  | netTurn =>
      rw [TurnServed, OnePending, netRequested_eq]
      apply turn_served_iff
      intro received left result
      rw [← netRequested_eq] at result
      exact netServed_iff result

/-- In every run of sends and turns, all turns serve every flag they consume if
and only if every turn finds at most one of its flags pending. -/
theorem turns_served_iff_onePending (flags : Flags) (run : List Notice) :
    Guarded noticeStep TurnServed flags run ↔ Guarded noticeStep OnePending flags run :=
  guarded_congr turnServed_iff_onePending flags run

/-- A send error and a reboot that arrive during one turn are both consumed by
the next turn, which serves neither. -/
theorem sendError_nbReboot_dropped :
    exec noticeStep {} [.sendNet sendError, .sendNet nbReboot, .netTurn] = some {} ∧
    netHandle (sendError ||| nbReboot) = netIdleTurn ∧
    ¬ ∀ run, Guarded noticeStep TurnServed {} run := by
  have dropped : netHandle (sendError ||| nbReboot) = netIdleTurn := by
    apply netHandle_of_ne
    intro event
    cases event <;> decide
  refine ⟨by decide, dropped, fun always => ?_⟩
  have guarded := always [.sendNet sendError, .sendNet nbReboot, .netTurn]
  have served : NetServed (sendError ||| nbReboot) := guarded.2.2.1 _ 0 (by decide)
  have branch := (served .sendError (by decide)).1
  rw [dropped] at branch
  exact netTurn_ne_idle .sendError branch.symm

end BerPiNbiot.App
