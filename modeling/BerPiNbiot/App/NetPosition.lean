import BerPiNbiot.App.Outline
import BerPiNbiot.App.Recovery

/-!
# Who suspends the uploader, and when

Of all the threads only the network thread starts, suspends and resumes the
uploader.  It suspends it as the next call behind the receive of an event and
nowhere else, which is a property of what is left of its work.
-/

namespace BerPiNbiot.App.Recovery

open BerPiNbiot.Kernel
open BerPiNbiot.Modem
open BerPiNbiot.Resumption
open BerPiNbiot.Text

/-! ## The position of the network thread -/

/-- The answer is an event. -/
def receives : (request : AtCall) → request.Answer → Bool
  | .driver (.eventRecv .netError ..), some _ => true
  | _, _ => false

/-- The network thread suspends the uploader exactly when it has consumed an
event. -/
def NetAllows (consumed : Bool) (request : AtCall) : Prop :=
  consumed = true ↔ request = .driver .dataUpSuspend

/-- It has consumed an event behind every receive that returns one. -/
def NetMoves (_ : Bool) (request : AtCall) (answer : request.Answer) (after : Bool) : Prop :=
  after = receives request answer

/-- From a position on, the rest of the network thread suspends the uploader
behind its events and nowhere else. -/
abbrev Obeys {α : Type} (consumed : Bool) (rest : AtCode α) : Prop :=
  rest.Along NetAllows NetMoves (fun _ after => after = false) consumed

/-- The calls that the position depends on. -/
def Turns : Call → Prop
  | .dataUpSuspend | .eventRecv .netError .. => True
  | _ => False

theorem obeys_execCmd (cmd : Bytes) : Obeys false (execCmdTransaction cmd) := by
  simp [execCmdTransaction, driverCall, atWrite, takeRespNotice, NetAllows, NetMoves, receives]

theorem obeys_connectLoop (timeout count : Nat) : Obeys false (connectLoop timeout count) := by
  induction count with
  | zero => rfl
  | succ count ih =>
      simp [connectLoop, atWrite, takeRespNotice, NetAllows, NetMoves, receives]
      exact ih

theorem obeys_waitConnect (timeout : Nat) : Obeys false (waitConnectTransaction timeout) := by
  have loop := obeys_connectLoop timeout (timeout / 300 + 1)
  simp [waitConnectTransaction, driverCall, NetAllows, NetMoves, receives]
  apply loop.mono
  rintro connected _ rfl
  simp

/-- A call that the position does not depend on. -/
theorem obeys_transaction {request : Call} (other : ¬ Turns request) :
    Obeys false (transaction request) := by
  cases request with
  | execCmd cmd => exact obeys_execCmd cmd
  | waitConnect timeout => exact obeys_waitConnect timeout
  | dataUpSuspend => exact absurd trivial other
  | eventRecv object flag set timeout =>
      cases object with
      | netError => exact absurd trivial other
      | nbEvent => simp [transaction, driverCall, NetAllows, NetMoves, receives]
  | _ => simp [transaction, driverCall, NetAllows, NetMoves, receives]

/-- Code without such calls. -/
theorem obeys_transacted {α : Type} {code : Code α}
    (avoids : code.Always (fun _ _ => True) Turns fun _ => True) :
    Obeys false (transacted code) := by
  apply Program.Along.expand _ (Program.along_of_always false avoids)
  rintro _ request ⟨rfl, other⟩
  exact obeys_transaction other

theorem always_pollAck_turns (ticks : Nat) (waiting : MqttDevice → Bool) (count : Nat) :
    (pollAck ticks waiting count).Always (fun _ _ => True) Turns fun _ => True := by
  apply always_pollAck <;> simp [Turns]

/-- Only two of the calls of the network thread's outline are such. -/
theorem avoids_netCode {request : NetCall} (notSuspend : request ≠ .suspend)
    (notRecv : request ≠ .eventRecv) :
    (netCode request).Always (fun _ _ => True) Turns fun _ => True := by
  cases request with
  | quickConnect =>
      apply keepsPlain_quickConnect.weaken
      intro request turns
      cases request with
      | dataUpSuspend | eventRecv => exact trivial
      | _ => exact turns.elim
  | suspend => exact absurd rfl notSuspend
  | eventRecv => exact absurd rfl notRecv
  | topicInit => simp [netCode, qsdkMqttTopicInit, Turns]
  | reboot =>
      have waits : qsdkNbWaitConnect.Always (fun _ _ => True) Turns fun _ => True := by
        simp [qsdkNbWaitConnect, atClientObjWaitConnect, atDeleteResp, Turns]
      simp only [netCode, qsdkNbReboot, writeTable, resetPin, threadDelay, Modem.eventRecv,
        Program.call_bind, Program.ret_bind, Program.always_call, Turns, not_false_eq_true,
        true_and, forall_const]
      rintro (_ | set)
      · exact trivial
      · exact ⟨id, fun _ _ => ⟨id, fun _ _ => waits⟩⟩
  | delay | setPsmModeOff | config | openAckDis | setAckTimeout | «open» | unsub | sub
  | startup | resume | waitConnect | getConnectStatus | close | getNetConnectStatus =>
      simp [netCode, threadDelay, qsdkNbSetPsmModeOff, qsdkMqttConfig,
        qsdkMqttOpenAckDis, qsdkMqttSetAckTimeout, qsdkMqttOpen, qsdkMqttUnsub, qsdkMqttSub,
        dataUpStartup, dataUpResume, qsdkNbWaitConnect, qsdkMqttGetConnectStatus,
        qsdkMqttClose, qsdkNbGetNetConnectStatus, atObjExecCmd, atRespParseLineArgs,
        atClientObjWaitConnect, atDeleteResp, writeMqtt, topicRead, topicWrite, readTable,
        always_pollAck_turns, Turns]

/-- The calls of the outline that the position depends on. -/
def NetTurns (request : NetCall) : Prop :=
  request = .suspend ∨ request = .eventRecv

/-- Code whose outline has none of these calls. -/
theorem avoids_of_outline {α : Type} {outline : NetCode α}
    (avoids : outline.Always (fun _ _ => True) NetTurns fun _ => True) :
    (outline.expand netCode).Always (fun _ _ => True) Turns fun _ => True := by
  refine Program.Always.expand (fun request other => ?_) avoids
  rw [NetTurns, not_or] at other
  exact avoids_netCode other.1 other.2

theorem avoids_netFinish (reconCount : Nat) (label : Option NetLabel) :
    (netFinish reconCount label).Always (fun _ _ => True) Turns fun _ => True := by
  cases label with
  | none => simp [netFinish, dataUpResume, Turns]
  | some label => trivial

theorem avoids_netSendError :
    netSendError.Always (fun _ _ => True) Turns fun _ => True := by
  rw [← expand_outlineSendError]
  apply avoids_of_outline
  simp [outlineSendError, netCall, NetTurns]

theorem avoids_netNbReboot : netNbReboot.Always (fun _ _ => True) Turns fun _ => True := by
  rw [← expand_outlineNbReboot]
  apply avoids_of_outline
  simp [outlineNbReboot, netCall, NetTurns]

/-- Behind its receive the network thread suspends the uploader, and not again in
the same turn. -/
theorem obeys_netHandle (eventStatus : EventSet) (reconCount : Nat) :
    Obeys true (transacted (netHandle eventStatus reconCount)) := by
  refine ⟨by simp [NetAllows], ?_⟩
  rintro _ _ rfl
  apply obeys_transacted
  have finish (branch : Code (Option NetLabel))
      (avoids : branch.Always (fun _ _ => True) Turns fun _ => True) :
      (branch >>= netFinish reconCount).Always (fun _ _ => True) Turns fun _ => True := by
    rw [Program.always_bind]
    simp only [avoids_netFinish]
    exact avoids
  split
  · exact finish netSendError avoids_netSendError
  · split
    · exact finish netNbReboot avoids_netNbReboot
    · exact avoids_netFinish reconCount none

theorem obeys_netEntry (label : NetLabel) : Obeys false (transacted (netEntry label)) := by
  cases label with
  | netRecon reconCount =>
      apply obeys_transacted
      rw [netEntry, ← expand_outlineRecon]
      apply avoids_of_outline
      simp [outlineRecon, netCall, NetTurns]
  | mqttRecon reconCount =>
      apply obeys_transacted
      rw [netEntry, ← expand_outlineMqtt]
      apply avoids_of_outline
      simp [outlineMqtt, netCall, NetTurns]
  | waitLoop reconCount =>
      refine ⟨by simp [NetAllows], ?_⟩
      rintro (_ | eventStatus) _ rfl
      · rfl
      · exact obeys_netHandle eventStatus reconCount

/-! ## Who controls the uploader -/

/-- The same call with its transaction. -/
def AtControls : AtCall → Prop
  | .driver request => Controls request
  | _ => False

theorem leaves_connectLoop (timeout count : Nat) :
    (connectLoop timeout count).Always (fun _ _ => True) AtControls fun _ => True := by
  induction count with
  | zero => trivial
  | succ count ih => simp [connectLoop, atWrite, takeRespNotice, AtControls, ih]

/-- Code that leaves the uploader's thread alone does so in its transactions. -/
theorem leaves_transacted {α : Type} {code : Code α}
    (leaves : code.Always (fun _ _ => True) Controls fun _ => True) :
    (transacted code).Always (fun _ _ => True) AtControls fun _ => True := by
  refine Program.Always.expand (fun request fine => ?_) leaves
  cases request with
  | execCmd cmd =>
      simp [transaction, execCmdTransaction, driverCall, atWrite, takeRespNotice, AtControls,
        Controls]
  | waitConnect timeout =>
      simp [transaction, waitConnectTransaction, driverCall, AtControls, Controls,
        leaves_connectLoop]
  | _ => exact ⟨fine, fun _ _ => trivial⟩

/-- The uploader does not control itself. -/
theorem leaves_dataUpEntry (label : DataUpLabel) :
    (dataUpEntry label).Always (fun _ _ => True) Controls fun _ => True := by
  cases label with
  | entry => simp [dataUpEntry, rtMalloc, Controls]
  | loop =>
      simp [dataUpEntry, qsdkMqttGetConnect, readMqtt, getPsmStatus, readPsmStatus, qsdkNbExitPsm,
        eventSend, sendDataMailRecv, threadDelay, Controls]
  | stat =>
      have polls (ticks count : Nat) (waiting : MqttDevice → Bool) :
          (pollAck ticks waiting count).Always (fun _ _ => True) Controls fun _ => True := by
        apply always_pollAck <;> simp [Controls]
      simp [dataUpEntry, readSendData, qsdkMqttPubStream, rtMalloc, writeMqtt, atObjExecCmd, pubAck,
        eventSend, threadDelay, polls, Controls]

/-- What is left of a thread's work, by its position. -/
def Work.Fits (consumed : Bool) : Work → Prop
  | .net rest => Obeys consumed rest
  | .dataUp rest => consumed = false ∧ rest.Always (fun _ _ => True) AtControls fun _ => True
  | .function rest => consumed = false ∧ rest.Always (fun _ _ => True) AtControls fun _ => True

/-- The work of the network thread. -/
def Work.isNet : Work → Bool
  | .net _ => true
  | _ => false

/-- What a call of fitting work may be, and that the work behind it fits. -/
theorem Work.Fits.next {consumed : Bool} {work : Work} (fits : work.Fits consumed)
    {request : AtCall} {resume : request.Answer → Work}
    (next : work.next = some ⟨request, resume⟩) :
    NetAllows consumed request ∧ (work.isNet = false → ¬ AtControls request) ∧
      ∀ answer, (resume answer).isNet = work.isNet ∧
        (resume answer).Fits (work.isNet && receives request answer) := by
  have other {call : AtCall} (fine : ¬ AtControls call) : NetAllows false call :=
    ⟨Bool.noConfusion, fun same => absurd (same ▸ trivial) fine⟩
  cases work with
  | net rest =>
      rw [Work.next, Option.map_eq_some_iff] at next
      rcases next with ⟨⟨first, tail⟩, turned, equal⟩
      cases equal
      have along := Program.Along.turn (fun label before post => by
        rw [post]
        exact obeys_netEntry label) fits turned
      exact ⟨along.1, Bool.noConfusion, fun answer => ⟨rfl, along.2 answer _ rfl⟩⟩
  | dataUp rest =>
      rw [Work.next, Option.map_eq_some_iff] at next
      rcases next with ⟨⟨first, tail⟩, turned, equal⟩
      cases equal
      rcases fits with ⟨rfl, leaves⟩
      have always := Program.Always.turn _ _ (fun label => leaves_transacted
        (leaves_dataUpEntry label)) leaves turned
      exact ⟨other always.1, fun _ => always.1,
        fun answer => ⟨rfl, rfl, always.2 answer trivial⟩⟩
  | function rest =>
      rcases fits with ⟨rfl, leaves⟩
      cases rest with
      | ret value => contradiction
      | call first tail =>
          cases next
          exact ⟨other leaves.1, fun _ => leaves.1,
            fun answer => ⟨rfl, rfl, leaves.2 answer trivial⟩⟩

/-- Behind an event the next call is the suspension. -/
theorem Work.Fits.suspends {work : Work} (fits : work.Fits true) :
    ∃ resume, work.next = some ⟨.driver .dataUpSuspend, resume⟩ := by
  cases work with
  | net rest =>
      cases rest with
      | ret label => exact absurd fits Bool.noConfusion
      | call request resume =>
          have same : request = .driver .dataUpSuspend := fits.1.mp rfl
          subst same
          exact ⟨_, rfl⟩
  | dataUp rest => exact absurd fits.1 Bool.noConfusion
  | function rest => exact absurd fits.1 Bool.noConfusion

/-- Only the network thread runs `net_entry`, and every thread's work fits. -/
def State.Assigned (state : State) : Prop :=
  ∀ thread, (state.work thread).isNet = decide (thread = .net) ∧
    ∃ consumed, (state.work thread).Fits consumed

namespace State.Assigned

variable {state target : State}

theorem congr (assigned : state.Assigned) (work : target.work = state.work) : target.Assigned := by
  rw [State.Assigned, work]
  exact assigned

theorem setWork (assigned : state.Assigned) {thread : Thread} {work : Work}
    (kind : work.isNet = decide (thread = .net)) {consumed : Bool} (fits : work.Fits consumed) :
    (state.setWork thread work).Assigned := by
  intro other
  by_cases same : other = thread
  · subst same
    simp only [State.setWork, if_true]
    exact ⟨kind, consumed, fits⟩
  · simp only [State.setWork, if_neg same]
    exact assigned other

/-- What is known of the next call of a thread. -/
theorem next (assigned : state.Assigned) {thread : Thread} {request : AtCall}
    {resume : request.Answer → Work}
    (next : (state.work thread).next = some ⟨request, resume⟩) :
    (thread ≠ .net → ¬ AtControls request) ∧
      ∀ answer, (resume answer).isNet = decide (thread = .net) ∧
        (resume answer).Fits (decide (thread = .net) && receives request answer) := by
  rcases assigned thread with ⟨kind, consumed, fits⟩
  rcases fits.next next with ⟨_, leaves, behind⟩
  rw [kind] at leaves behind
  exact ⟨fun other => leaves (decide_eq_false other), behind⟩

theorem proceed (assigned : state.Assigned) {thread : Thread} {request : AtCall}
    {resume : request.Answer → Work}
    (next : (state.work thread).next = some ⟨request, resume⟩) (answer : request.Answer) :
    (state.setWork thread (resume answer)).Assigned :=
  assigned.setWork ((assigned.next next).2 answer).1 ((assigned.next next).2 answer).2

theorem pass (assigned : state.Assigned) (thread : Thread) : (state.pass thread).Assigned := by
  unfold State.pass
  split
  · rename_i resume next
    exact (assigned.proceed next ()).congr rfl
  · exact assigned

/-- Nobody but the network thread suspends the uploader. -/
theorem eq_net (assigned : state.Assigned) {thread : Thread} (suspends : Suspends state thread) :
    thread = .net := by
  rcases suspends with ⟨resume, next⟩
  by_contra other
  exact (assigned.next next).1 other trivial

end State.Assigned

end BerPiNbiot.App.Recovery
