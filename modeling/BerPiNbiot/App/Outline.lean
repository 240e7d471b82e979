import BerPiNbiot.App.Net
import BerPiNbiot.Modem.Transaction
import BerPiNbiot.Resumption.Typestate

/-!
# The network thread by its calls

`net_entry` read at the level of its own text: one call for each function it
calls, answered by what the function returns.  Expanding the calls to the code of
these functions gives back the thread, so what holds for every outcome of the
calls holds of the thread.
-/

namespace BerPiNbiot.App

open BerPiNbiot.Kernel
open BerPiNbiot.Modem
open BerPiNbiot.Resumption
open BerPiNbiot.Text

/-- The functions that `net_entry` calls. -/
inductive NetCall
  | quickConnect
  | setPsmModeOff
  | delay (ticks : Nat)
  | topicInit
  | config
  | openAckDis
  | setAckTimeout
  | open
  | unsub (topic : Option Nat)
  | sub (topic : Option Nat)
  | startup
  | resume
  | suspend
  | eventRecv
  | waitConnect
  | reboot
  | getConnectStatus
  | close
  | getNetConnectStatus
  deriving DecidableEq, Repr

/-- What the functions return; `true` stands for `RT_EOK`. -/
abbrev NetCall.Answer : NetCall → Type
  | .delay _ | .startup | .resume | .suspend => Unit
  | .topicInit => Option Nat
  | .eventRecv => Option EventSet
  | .getConnectStatus => Int
  | _ => Bool

/-- The signature of the network thread. -/
abbrev netCalls : Signature where
  Call := NetCall
  Answer := NetCall.Answer

/-- Code that calls these functions. -/
abbrev NetCode := Program netCalls

/-- One call. -/
def netCall (request : NetCall) : NetCode request.Answer :=
  .call request .ret

/-- The code of a function. -/
def netCode : (request : NetCall) → Code request.Answer
  | .quickConnect => qsdkNbQuickConnect
  | .setPsmModeOff => qsdkNbSetPsmModeOff
  | .delay ticks => threadDelay ticks
  | .topicInit => qsdkMqttTopicInit (ascii "rb_sub") 2 0 0 0
  | .config => qsdkMqttConfig
  | .openAckDis => qsdkMqttOpenAckDis
  | .setAckTimeout => qsdkMqttSetAckTimeout 20
  | .open => qsdkMqttOpen
  | .unsub topic => qsdkMqttUnsub topic
  | .sub topic => qsdkMqttSub topic
  | .startup => dataUpStartup
  | .resume => dataUpResume
  | .suspend => dataUpSuspend
  | .eventRecv => Modem.eventRecv .netError .or netRequested none
  | .waitConnect => qsdkNbWaitConnect
  | .reboot => qsdkNbReboot
  | .getConnectStatus => qsdkMqttGetConnectStatus
  | .close => qsdkMqttClose
  | .getNetConnectStatus => qsdkNbGetNetConnectStatus

/-! ## The outline -/

/-- From `net_recon` to the next label. -/
def outlineRecon (reconCount : Nat) : NetCode NetLabel := do
  if ← netCall .quickConnect then
    let _ ← netCall .setPsmModeOff
    return .mqttRecon reconCount
  else
    return .netRecon reconCount

/-- From `mqtt_recon` to the wait loop. -/
def outlineMqtt (reconCount : Nat) : NetCode NetLabel := do
  netCall (.delay 100)
  let nbTest ← netCall .topicInit
  netCall (.delay 100)
  let _ ← netCall .config
  netCall (.delay 100)
  let _ ← netCall .openAckDis
  netCall (.delay 100)
  let _ ← netCall .setAckTimeout
  netCall (.delay 100)
  let _ ← netCall .open
  netCall (.delay 100)
  let _ ← netCall (.unsub nbTest)
  netCall (.delay 500)
  let _ ← netCall (.sub nbTest)
  netCall (.delay 500)
  if reconCount = 0 then
    netCall .startup
    return .waitLoop reconCount
  else
    netCall .resume
    return .waitLoop 0

/-- The branch of `EVENT_SEND_ERROR`. -/
def outlineSendError : NetCode (Option NetLabel) := do
  if !(← netCall .waitConnect) then
    let _ ← netCall .reboot
    return some (.netRecon 1)
  if !(← netCall .quickConnect) then
    let _ ← netCall .reboot
    return some (.netRecon 1)
  if (← netCall .getConnectStatus) ≠ 0 then
    if !(← netCall .open) then
      let _ ← netCall .close
      return some (.mqttRecon 1)
  return none

/-- The branch of `EVENT_NB_REBOOT`. -/
def outlineNbReboot : NetCode (Option NetLabel) := do
  if !(← netCall .getNetConnectStatus) then
    return some (.netRecon 1)
  return none

/-- The end of a turn. -/
def outlineFinish (reconCount : Nat) : Option NetLabel → NetCode NetLabel
  | some label => return label
  | none => do
      netCall .resume
      return .waitLoop reconCount

/-- What the wait loop does with a received set. -/
def outlineHandle (eventStatus : EventSet) (reconCount : Nat) : NetCode NetLabel := do
  netCall .suspend
  if eventStatus = sendError then
    outlineFinish reconCount (← outlineSendError)
  else if eventStatus = nbReboot then
    outlineFinish reconCount (← outlineNbReboot)
  else
    outlineFinish reconCount none

/-- One turn of the wait loop. -/
def outlineWait (reconCount : Nat) : NetCode NetLabel := do
  match ← netCall .eventRecv with
  | none => return .waitLoop reconCount
  | some eventStatus => outlineHandle eventStatus reconCount

/-- `net_entry`, from one label to the next. -/
def netOutline : NetLabel → NetCode NetLabel
  | .netRecon reconCount => outlineRecon reconCount
  | .mqttRecon reconCount => outlineMqtt reconCount
  | .waitLoop reconCount => outlineWait reconCount

/-! ## The outline expands to the thread -/

theorem expand_outlineRecon (reconCount : Nat) :
    (outlineRecon reconCount).expand netCode = netRecon reconCount := by
  simp [outlineRecon, netRecon, netCall, netCode]

theorem expand_outlineMqtt (reconCount : Nat) :
    (outlineMqtt reconCount).expand netCode = mqttRecon reconCount := by
  simp [outlineMqtt, mqttRecon, netCall, netCode]

theorem expand_outlineSendError : outlineSendError.expand netCode = netSendError := by
  simp [outlineSendError, netSendError, netCall, netCode]

theorem expand_outlineNbReboot : outlineNbReboot.expand netCode = netNbReboot := by
  simp [outlineNbReboot, netNbReboot, netCall, netCode]

theorem expand_outlineFinish (reconCount : Nat) (label : Option NetLabel) :
    (outlineFinish reconCount label).expand netCode = netFinish reconCount label := by
  cases label with
  | none => simp [outlineFinish, netFinish, netCall, netCode]
  | some label => rfl

theorem expand_outlineHandle (eventStatus : EventSet) (reconCount : Nat) :
    (outlineHandle eventStatus reconCount).expand netCode = netHandle eventStatus reconCount := by
  simp [outlineHandle, netHandle, netCall, netCode, expand_outlineSendError,
    expand_outlineNbReboot, expand_outlineFinish]

theorem expand_outlineWait (reconCount : Nat) :
    (outlineWait reconCount).expand netCode = netWait reconCount := by
  simp only [outlineWait, netWait, netCall, netCode, Program.call_bind, Program.ret_bind,
    Program.expand_call]
  congr 1
  funext received
  cases received with
  | none => rfl
  | some eventStatus => exact expand_outlineHandle eventStatus reconCount

/-- The thread is its outline with the called functions put in. -/
theorem expand_netOutline (label : NetLabel) :
    (netOutline label).expand netCode = netEntry label := by
  cases label with
  | netRecon reconCount => exact expand_outlineRecon reconCount
  | mqttRecon reconCount => exact expand_outlineMqtt reconCount
  | waitLoop reconCount => exact expand_outlineWait reconCount

/-! ## What the functions touch -/

/-- What a function writes to `mqtt_device`, at its entry. -/
def NetCall.writes : NetCall → MqttDevice → MqttDevice
  | .config => fun _ => {}
  | .sub _ => fun device => { device with subackStatus := 0x80 }
  | .unsub _ => fun device => { device with unsubackStatus := 0 }
  | _ => id

/-- The call takes or releases the AT lock itself, or writes something else to
`mqtt_device`. -/
def Strays (update : MqttDevice → MqttDevice) : Call → Prop
  | .writeMqtt other => other ≠ update
  | .lockTake | .lockRelease => True
  | _ => False

/-- The code leaves the AT lock to its transactions, and whatever it writes to
`mqtt_device` is the update. -/
abbrev KeepsTo (update : MqttDevice → MqttDevice) {α : Type} (code : Code α) : Prop :=
  code.Always (fun _ _ => True) (Strays update) fun _ => True

/-- The call is none of those that the attach procedure is made of. -/
def Special : Call → Prop
  | .execCmd _ | .respParse .. | .respParseByKw .. | .threadDelay _ | .readTable
  | .writeTable _ | .readPsmStatus | .rtcSetTime _ | .uninitialised => False
  | _ => True

/-- The code makes no other calls than the attach procedure. -/
abbrev KeepsPlain {α : Type} (code : Code α) : Prop :=
  code.Always (fun _ _ => True) Special fun _ => True

theorem keepsPlain_storeInt (field : Option Field) (change : Int → NbDevice → NbDevice) :
    KeepsPlain (storeInt field change) := by
  unfold storeInt
  split <;> simp [writeTable, Special]

theorem keepsPlain_storeStr (field : Option Field) (change : Bytes → NbDevice → NbDevice) :
    KeepsPlain (storeStr field change) := by
  unfold storeStr
  split <;> simp [writeTable, Special]

theorem keepsPlain_simLoop (count : Nat) : KeepsPlain (simLoop count) := by
  induction count with
  | zero => simp [simLoop]
  | succ count ih =>
      simp [simLoop, qsdkNbSimCheck, atObjExecCmd, atRespParseLineArgs, threadDelay, readTable,
        keepsPlain_storeInt, Special, ih]

theorem keepsPlain_imsiLoop (count : Nat) : KeepsPlain (imsiLoop count) := by
  induction count with
  | zero => simp [imsiLoop]
  | succ count ih =>
      simp [imsiLoop, qsdkNbGetImsi, atObjExecCmd, atRespParseLineArgs, threadDelay,
        keepsPlain_storeStr, Special, ih]

theorem keepsPlain_csqLoop (count : Nat) : KeepsPlain (csqLoop count) := by
  induction count with
  | zero => simp [csqLoop]
  | succ count ih =>
      simp [csqLoop, qsdkNbGetCsq, atObjExecCmd, atRespParseLineArgs, threadDelay, readTable,
        keepsPlain_storeInt, Special, ih]

theorem keepsPlain_netLoop (count : Nat) : KeepsPlain (netLoop count) := by
  induction count with
  | zero => simp [netLoop]
  | succ count ih =>
      simp [netLoop, qsdkNbGetNetConnect, atObjExecCmd, atRespParseLineArgsByKw, threadDelay,
        readTable, keepsPlain_storeInt, Special, ih]

/-- The attach procedure. -/
theorem keepsPlain_quickConnect : KeepsPlain qsdkNbQuickConnect := by
  simp [qsdkNbQuickConnect, attachNetwork, getPsmStatus, readPsmStatus, qsdkNbSetPsmModeOff,
    qsdkNbGetImei, qsdkNbGetTime, atObjExecCmd, atRespParseLineArgs, threadDelay, uninitialised,
    keepsPlain_simLoop, keepsPlain_imsiLoop, keepsPlain_csqLoop, keepsPlain_netLoop,
    keepsPlain_storeStr, Special]

/-- Calls of the attach procedure neither touch the AT lock nor `mqtt_device`. -/
theorem special_of_strays {update : MqttDevice → MqttDevice} (request : Call)
    (strays : Strays update request) : Special request := by
  cases request with
  | writeMqtt | lockTake | lockRelease => exact trivial
  | _ => exact strays.elim

theorem keepsTo_pollAck (update : MqttDevice → MqttDevice) (ticks : Nat)
    (waiting : MqttDevice → Bool) (count : Nat) : KeepsTo update (pollAck ticks waiting count) := by
  apply always_pollAck
  · simp [Strays]
  · simp [Strays]

/-- The functions write `mqtt_device` as said and leave the AT lock alone. -/
theorem keepsTo_netCode (request : NetCall) : KeepsTo request.writes (netCode request) := by
  cases request with
  | quickConnect => exact keepsPlain_quickConnect.weaken special_of_strays
  | eventRecv => simp [netCode, Modem.eventRecv, Strays]
  | topicInit => simp [netCode, qsdkMqttTopicInit, Strays]
  | reboot =>
      have waits : KeepsTo (NetCall.writes .reboot) qsdkNbWaitConnect := by
        simp [qsdkNbWaitConnect, atClientObjWaitConnect, atDeleteResp, Strays]
      simp only [netCode, qsdkNbReboot, writeTable, resetPin, threadDelay, Modem.eventRecv,
        Program.call_bind, Program.ret_bind, Program.always_call, Strays, not_false_eq_true,
        true_and, forall_const]
      rintro (_ | set)
      · exact trivial
      · exact ⟨id, fun _ _ => ⟨id, fun _ _ => waits⟩⟩
  | delay | setPsmModeOff | config | openAckDis | setAckTimeout | «open» | unsub | sub
  | startup | resume | suspend | waitConnect | getConnectStatus | close
  | getNetConnectStatus =>
      simp [netCode, NetCall.writes, threadDelay, qsdkNbSetPsmModeOff, qsdkMqttConfig,
        qsdkMqttOpenAckDis, qsdkMqttSetAckTimeout, qsdkMqttOpen, qsdkMqttUnsub, qsdkMqttSub,
        dataUpStartup, dataUpResume, dataUpSuspend, qsdkNbWaitConnect, qsdkMqttGetConnectStatus,
        qsdkMqttClose, qsdkNbGetNetConnectStatus, atObjExecCmd, atRespParseLineArgs,
        atClientObjWaitConnect, atDeleteResp, writeMqtt, topicRead, topicWrite, readTable,
        keepsTo_pollAck, Strays]

/-- The network thread leaves the AT lock to its transactions. -/
theorem avoids_netEntry (label : NetLabel) :
    (netEntry label).Always (fun _ _ => True) UsesLock fun _ => True := by
  rw [← expand_netOutline]
  apply Program.always_expand
  intro request
  apply (keepsTo_netCode request).weaken
  rintro _ (rfl | rfl)
  · exact trivial
  · exact trivial

end BerPiNbiot.App
