import BerPiNbiot.App.Net
import BerPiNbiot.Modem.Psm
import BerPiNbiot.Transition.Core

/-!
# Lifetime of the response object

All AT commands share one response object.  `qsdk_nb_wait_connect` deletes it
when the module does not answer, and its callers go on: the attach procedure,
the recovery of the network thread and the PSM thread use it again.

The threads are interleaved call by call.  Every answer is arbitrary: the
outcomes of AT commands, and also what is read from the shared records, since
the notification handler may have changed them in between.
-/

namespace BerPiNbiot.App

open BerPiNbiot.Modem
open BerPiNbiot.Resumption
open BerPiNbiot.Text
open BerPiNbiot.Transition

/-! ## Threads over one response object -/

/-- What is left of a thread's current work. -/
inductive Task
  | idle
  | net (rest : Code NetLabel)
  | psm (rest : Code Unit)
  | function (rest : Code Bool)

/-- A call in front of the work that is left, and the work behind it.  The
loops of the two endless threads start over when a turn is finished. -/
def Task.next : Task → Option ((request : Call) × (request.Answer → Task))
  | .idle => none
  | .net rest =>
      (rest.turn netEntry).map fun call => ⟨call.1, fun answer => .net (call.2 answer)⟩
  | .psm rest =>
      (rest.turn fun _ => qsdkPsmIteration).map fun call =>
        ⟨call.1, fun answer => .psm (call.2 answer)⟩
  | .function (.ret _) => none
  | .function (.call request resume) => some ⟨request, fun answer => .function (resume answer)⟩

/-- The work is finished. -/
def Task.Done : Task → Prop
  | .idle | .function (.ret _) => True
  | _ => False

instance : DecidablePred Task.Done
  | .idle | .function (.ret _) => isTrue trivial
  | .net _ | .psm _ | .function (.call ..) => isFalse id

/-- Functions that other threads call on the modem. -/
inductive Entry
  | reboot
  | quickConnect
  | publish (mesg : Bytes)

/-- The function behind an entry. -/
def Entry.code : Entry → Code Bool
  | .reboot => qsdkNbReboot
  | .quickConnect => qsdkNbQuickConnect
  | .publish mesg => qsdkMqttPubStream mesg 1

/-- The response object and the threads. -/
structure Session where
  live : Bool
  task : Thread → Task

/-- After `at_create_resp`: the main thread is in `qsdk_init_environment` and
has started the PSM thread. -/
def Session.initial : Session where
  live := true
  task
    | .main => .function qsdkInitEnvironment
    | .psm => .psm qsdkPsmIteration
    | _ => .idle

/-- Let a thread go on with `task`. -/
def Session.continue (session : Session) (thread : Thread) (task : Task) : Session :=
  { session with task := fun other => if other = thread then task else session.task other }

/-- A move: the main thread starts the network thread, a thread enters a
function, or the next call of a thread is answered. -/
inductive Move
  | startNet
  | enter (thread : Thread) (entry : Entry)
  | answer (thread : Thread) (reply : (request : Call) → request.Answer)

/-- The moves of the interleaved threads. -/
def sessionStep : Step Session Move
  | session, .startNet =>
      if (session.task .main).Done ∧ (session.task .net).Done then
        some (session.continue .net (.net (netEntry (.netRecon 0))))
      else
        none
  | session, .enter thread entry =>
      if (session.task .main).Done ∧ (session.task thread).Done then
        some (session.continue thread (.function entry.code))
      else
        none
  | session, .answer thread reply =>
      match (session.task thread).next with
      | none => none
      | some ⟨request, resume⟩ =>
          let after := session.continue thread (resume (reply request))
          match request with
          | .deleteResp => some { after with live := false }
          | _ => some after

/-- The calls that receive `nb_resp`. -/
def UsesResp : Call → Prop
  | .execCmd _ | .respParse .. | .respParseByKw .. | .deleteResp => True
  | _ => False

/-- The next call of a thread receives the deleted response object. -/
def Misuse (session : Session) (thread : Thread) : Prop :=
  session.live = false ∧ ∃ request resume,
    (session.task thread).next = some ⟨request, resume⟩ ∧ UsesResp request

/-- `at_client_obj_wait_connect` returns `RT_EOK`. -/
def Answered : (request : Call) → request.Answer → Prop
  | .waitConnect _, connected => connected = true
  | _, _ => True

/-- A connection test that the move answers returns `RT_EOK`. -/
def Connected (session : Session) : Move → Prop
  | .answer thread reply =>
      ∀ request resume, (session.task thread).next = some ⟨request, resume⟩ →
        Answered request (reply request)
  | _ => True

/-! ## Code that keeps the response object -/

/-- The call deletes the response object. -/
def Deletes (request : Call) : Prop :=
  request = .deleteResp

/-- While its connection tests return `RT_EOK`, the program does not delete the
response object. -/
abbrev Keeps {α : Type} (code : Code α) : Prop :=
  code.Always Answered Deletes fun _ => True

section Primitives

variable (post : Unit → Prop)

/-- A single call other than the deletion and the connection test. -/
theorem always_single (request : Call) (post : request.Answer → Prop)
    (other : request ≠ .deleteResp) (free : ∀ answer, Answered request answer) :
    (Program.call request .ret : Code request.Answer).Always Answered Deletes post ↔
      ∀ answer, post answer := by
  simp [Deletes, other, free]

@[simp]
theorem always_atObjExecCmd (post : Bool → Prop) (cmd : Bytes) :
    (atObjExecCmd cmd).Always Answered Deletes post ↔ ∀ ok, post ok :=
  always_single (.execCmd cmd) post nofun fun _ => trivial

@[simp]
theorem always_eventRecv (post : Option Kernel.EventSet → Prop) (object : EventObject)
    (flag : Kernel.EventFlag) (set : Kernel.EventSet) (timeout : Option Nat) :
    (eventRecv object flag set timeout).Always Answered Deletes post ↔ ∀ result, post result :=
  always_single (.eventRecv object flag set timeout) post nofun fun _ => trivial

@[simp]
theorem always_threadDelay (ticks : Nat) :
    (threadDelay ticks).Always Answered Deletes post ↔ post () :=
  (always_single (.threadDelay ticks) post nofun fun _ => trivial).trans
    ⟨fun all => all (), fun holds _ => holds⟩

@[simp]
theorem always_resetPin (high : Bool) :
    (resetPin high).Always Answered Deletes post ↔ post () :=
  (always_single (.resetPin high) post nofun fun _ => trivial).trans
    ⟨fun all => all (), fun holds _ => holds⟩

@[simp]
theorem always_writeTable (update : NbDevice → NbDevice) :
    (writeTable update).Always Answered Deletes post ↔ post () :=
  (always_single (.writeTable update) post nofun fun _ => trivial).trans
    ⟨fun all => all (), fun holds _ => holds⟩

@[simp]
theorem always_writeMqtt (update : MqttDevice → MqttDevice) :
    (writeMqtt update).Always Answered Deletes post ↔ post () :=
  (always_single (.writeMqtt update) post nofun fun _ => trivial).trans
    ⟨fun all => all (), fun holds _ => holds⟩

@[simp]
theorem always_writePsmStatus (status : NbStatus) :
    (writePsmStatus status).Always Answered Deletes post ↔ post () :=
  (always_single (.writePsmStatus status) post nofun fun _ => trivial).trans
    ⟨fun all => all (), fun holds _ => holds⟩

@[simp]
theorem always_readTable (post : NbDevice → Prop) :
    readTable.Always Answered Deletes post ↔ ∀ table, post table :=
  always_single .readTable post nofun fun _ => trivial

@[simp]
theorem always_readPsmStatus (post : NbStatus → Prop) :
    readPsmStatus.Always Answered Deletes post ↔ ∀ status, post status :=
  always_single .readPsmStatus post nofun fun _ => trivial

end Primitives

theorem keeps_qsdkNbWaitConnect : Keeps qsdkNbWaitConnect := by
  simp [qsdkNbWaitConnect, atClientObjWaitConnect, Deletes, Answered]

/-! ### Attach procedure -/

theorem keeps_storeInt (field : Option Field) (update : Int → NbDevice → NbDevice) :
    Keeps (storeInt field update) := by
  unfold storeInt
  split <;> simp

theorem keeps_storeStr (field : Option Field) (update : Bytes → NbDevice → NbDevice) :
    Keeps (storeStr field update) := by
  unfold storeStr
  split <;> simp

theorem keeps_simLoop (count : Nat) : Keeps (simLoop count) := by
  induction count with
  | zero => simp [simLoop]
  | succ i ih =>
      simp [simLoop, qsdkNbSimCheck, atRespParseLineArgs, keeps_storeInt, ih, Deletes]

theorem keeps_imsiLoop (count : Nat) : Keeps (imsiLoop count) := by
  induction count with
  | zero => simp [imsiLoop]
  | succ i ih =>
      simp [imsiLoop, qsdkNbGetImsi, atRespParseLineArgs, keeps_storeStr, ih, Deletes]

theorem keeps_csqLoop (count : Nat) : Keeps (csqLoop count) := by
  induction count with
  | zero => simp [csqLoop]
  | succ i ih =>
      simp [csqLoop, qsdkNbGetCsq, atRespParseLineArgs, keeps_storeInt, ih, Deletes]

theorem keeps_netLoop (count : Nat) : Keeps (netLoop count) := by
  induction count with
  | zero => simp [netLoop]
  | succ i ih =>
      simp [netLoop, qsdkNbGetNetConnect, atRespParseLineArgsByKw, keeps_storeInt, ih, Deletes]

theorem keeps_qsdkNbGetTime : Keeps qsdkNbGetTime := by
  simp [qsdkNbGetTime, uninitialised, atRespParseLineArgs, Deletes]

theorem keeps_qsdkNbQuickConnect : Keeps qsdkNbQuickConnect := by
  simp [qsdkNbQuickConnect, attachNetwork, getPsmStatus, qsdkNbSetPsmModeOff, qsdkNbGetImei,
    atRespParseLineArgs, keeps_storeStr, keeps_simLoop, keeps_imsiLoop, keeps_csqLoop,
    keeps_netLoop, keeps_qsdkNbGetTime, Deletes]

theorem keeps_qsdkNbReboot : Keeps qsdkNbReboot := by
  simp only [qsdkNbReboot, Program.always_bind, always_writeTable, always_resetPin,
    always_threadDelay, always_eventRecv]
  intro result
  cases result with
  | none => trivial
  | some _ => simp [keeps_qsdkNbWaitConnect]

theorem keeps_qsdkInitEnvironment : Keeps qsdkInitEnvironment := by
  simp only [qsdkInitEnvironment, Program.always_bind, always_writeTable, always_writePsmStatus,
    always_resetPin, always_threadDelay, always_eventRecv]
  intro result
  cases result with
  | none => trivial
  | some _ => simp [keeps_qsdkNbWaitConnect]

/-! ### MQTT client -/

theorem keeps_qsdkMqttOpen : Keeps qsdkMqttOpen := by
  simp [qsdkMqttOpen, always_pollAck, Deletes]

theorem keeps_qsdkMqttClose : Keeps qsdkMqttClose := by
  simp [qsdkMqttClose, always_pollAck, Deletes]

theorem keeps_qsdkMqttSub (topic : Option Nat) : Keeps (qsdkMqttSub topic) := by
  simp [qsdkMqttSub, topicRead, topicWrite, always_pollAck, Deletes]

theorem keeps_qsdkMqttUnsub (topic : Option Nat) : Keeps (qsdkMqttUnsub topic) := by
  simp [qsdkMqttUnsub, topicRead, topicWrite, always_pollAck, Deletes]

theorem keeps_qsdkMqttPubStream (mesg : Bytes) (qos : Int) :
    Keeps (qsdkMqttPubStream mesg qos) := by
  simp [qsdkMqttPubStream, pubAck, rtMalloc, always_pollAck, Deletes]

/-! ### Endless threads -/

theorem keeps_netRecon (reconCount : Nat) : Keeps (netRecon reconCount) := by
  simp [netRecon, qsdkNbSetPsmModeOff, keeps_qsdkNbQuickConnect]

theorem keeps_mqttRecon (reconCount : Nat) : Keeps (mqttRecon reconCount) := by
  simp [mqttRecon, qsdkMqttTopicInit, qsdkMqttConfig, qsdkMqttOpenAckDis, qsdkMqttSetAckTimeout,
    dataUpStartup, dataUpResume, keeps_qsdkMqttOpen, keeps_qsdkMqttUnsub, keeps_qsdkMqttSub,
    Deletes]

theorem keeps_netFinish (reconCount : Nat) (jump : Option NetLabel) :
    Keeps (netFinish reconCount jump) := by
  cases jump with
  | none => simp [netFinish, dataUpResume, Deletes]
  | some label => simp [netFinish]

theorem keeps_netHandle (eventStatus : Kernel.EventSet) (reconCount : Nat) :
    Keeps (netHandle eventStatus reconCount) := by
  simp [netHandle, dataUpSuspend, netSendError, netNbReboot, qsdkNbGetNetConnectStatus,
    qsdkMqttGetConnectStatus, atRespParseLineArgs, keeps_netFinish, keeps_qsdkNbWaitConnect,
    keeps_qsdkNbReboot, keeps_qsdkNbQuickConnect, keeps_qsdkMqttOpen, keeps_qsdkMqttClose, Deletes]

theorem keeps_netEntry (label : NetLabel) : Keeps (netEntry label) := by
  cases label with
  | netRecon reconCount => exact keeps_netRecon reconCount
  | mqttRecon reconCount => exact keeps_mqttRecon reconCount
  | waitLoop reconCount =>
      simp only [netEntry, netWait, Program.always_bind, always_eventRecv]
      intro result
      cases result with
      | none => trivial
      | some eventStatus => exact keeps_netHandle eventStatus reconCount

theorem keeps_psmHandle (status : Kernel.EventSet) : Keeps (psmHandle status) := by
  simp [psmHandle, wakeUp, lockTake, lockRelease, getPsmStatus, eventSend,
    keeps_qsdkNbWaitConnect, Deletes]

theorem keeps_qsdkPsmIteration : Keeps qsdkPsmIteration := by
  simp only [qsdkPsmIteration, Program.always_bind, always_eventRecv]
  intro result
  cases result with
  | none => trivial
  | some status => exact keeps_psmHandle status

/-! ## Every thread keeps the response object -/

/-- The rest of a task keeps the response object. -/
def Task.Keeps : Task → Prop
  | .idle => True
  | .net rest => App.Keeps rest
  | .psm rest => App.Keeps rest
  | .function rest => App.Keeps rest

/-- The next call of such a task is no deletion, and an answer other than that of
a failed connection test leaves such a task. -/
theorem Task.Keeps.next {task : Task} (keeps : task.Keeps) {request : Call}
    {resume : request.Answer → Task} (next : task.next = some ⟨request, resume⟩) :
    request ≠ .deleteResp ∧ ∀ answer, Answered request answer → (resume answer).Keeps := by
  cases task with
  | idle => contradiction
  | net rest =>
      rw [Task.next, Option.map_eq_some_iff] at next
      rcases next with ⟨⟨first, tail⟩, turned, equal⟩
      cases equal
      have kept : App.Keeps rest := keeps
      exact Program.Always.turn Answered Deletes keeps_netEntry kept turned
  | psm rest =>
      rw [Task.next, Option.map_eq_some_iff] at next
      rcases next with ⟨⟨first, tail⟩, turned, equal⟩
      cases equal
      have kept : App.Keeps rest := keeps
      exact Program.Always.turn Answered Deletes (fun _ => keeps_qsdkPsmIteration) kept turned
  | function rest =>
      cases rest with
      | ret value => contradiction
      | call first rest =>
          cases next
          exact keeps

theorem keeps_entry (entry : Entry) : Keeps entry.code := by
  cases entry with
  | reboot => exact keeps_qsdkNbReboot
  | quickConnect => exact keeps_qsdkNbQuickConnect
  | publish mesg => exact keeps_qsdkMqttPubStream mesg 1

/-- The response object is there and no thread is about to delete it. -/
structure Session.Kept (session : Session) : Prop where
  live : session.live = true
  tasks : ∀ thread, (session.task thread).Keeps

theorem kept_initial : Session.initial.Kept where
  live := rfl
  tasks thread := by
    cases thread with
    | main => exact keeps_qsdkInitEnvironment
    | psm => exact keeps_qsdkPsmIteration
    | _ => trivial

theorem Session.Kept.continue {session : Session} (kept : session.Kept) {thread : Thread}
    {task : Task} (keeps : task.Keeps) : (session.continue thread task).Kept where
  live := kept.live
  tasks other := by
    simp only [Session.continue]
    split
    · exact keeps
    · exact kept.tasks other

/-- A move without a failed connection test keeps the response object. -/
theorem kept_step {session target : Session} {move : Move} (kept : session.Kept)
    (connected : Connected session move) (step : sessionStep session move = some target) :
    target.Kept := by
  cases move with
  | startNet =>
      simp only [sessionStep, Option.ite_none_right_eq_some, Option.some.injEq] at step
      rw [← step.2]
      exact kept.continue (keeps_netEntry (.netRecon 0))
  | enter thread entry =>
      simp only [sessionStep, Option.ite_none_right_eq_some, Option.some.injEq] at step
      rw [← step.2]
      exact kept.continue (keeps_entry entry)
  | answer thread reply =>
      rw [sessionStep] at step
      cases next : (session.task thread).next with
      | none =>
          rw [next] at step
          contradiction
      | some pair =>
          rcases pair with ⟨request, resume⟩
          rcases (kept.tasks thread).next next with ⟨other, rest⟩
          have answered := connected request resume next
          have continued : (session.continue thread (resume (reply request))).Kept :=
            kept.continue (rest _ answered)
          rw [next] at step
          cases request with
          | deleteResp => contradiction
          | _ =>
              cases step
              exact continued

/-- In every interleaving of initialisation, network thread, PSM thread, reboots
and attach procedures in which every connection test returns `RT_EOK`, no call
receives a deleted response object. -/
theorem resp_not_misused_of_connected (run : List Move) (session : Session)
    (connected : Guarded sessionStep Connected .initial run)
    (executed : exec sessionStep .initial run = some session) :
    ∀ thread, ¬ Misuse session thread := by
  have kept : session.Kept :=
    exec_invariant (fun _ _ _ kept connected step => kept_step kept connected step) kept_initial
      connected executed
  intro thread misuse
  have deleted := misuse.1
  rw [kept.live] at deleted
  contradiction

/-- A module that is silent during a connection test. -/
def silent (request : Call) : request.Answer :=
  match request with
  | .waitConnect _ => false
  | request => answering request

theorem answered_answering (request : Call) : Answered request (answering request) := by
  cases request <;> first | rfl | trivial

/-- Initialisation and the first command of the network thread. -/
def startUp : List Move :=
  List.replicate 9 (.answer .main answering) ++ [.startNet, .answer .net answering]

theorem startUp_not_misused :
    ∃ session, exec sessionStep .initial startUp = some session ∧
      ∀ thread, ¬ Misuse session thread := by
  refine ⟨_, rfl, resp_not_misused_of_connected startUp _ ?_ rfl⟩
  apply guarded_of_forall
  intro move member session
  have answers : ∃ thread, move = .startNet ∨ move = .answer thread answering := by
    simp only [startUp, List.mem_append, List.mem_replicate, List.mem_cons] at member
    rcases member with ⟨_, rfl⟩ | rfl | rfl | none
    · exact ⟨.main, Or.inr rfl⟩
    · exact ⟨.main, Or.inl rfl⟩
    · exact ⟨.net, Or.inr rfl⟩
    · contradiction
  rcases answers with ⟨thread, rfl | rfl⟩
  · trivial
  · intro request resume _
    exact answered_answering request

/-- The module acknowledges the reset but does not answer the connection test:
the network thread sends its first command with the deleted response object. -/
theorem silentStart_misused :
    ∃ session,
      exec sessionStep .initial (List.replicate 8 (.answer .main answering) ++
        [.answer .main silent, .answer .main answering, .startNet]) = some session ∧
      Misuse session .net :=
  ⟨_, rfl, rfl, _, _, rfl, trivial⟩

end BerPiNbiot.App
