import BerPiNbiot.Modem.Connect
import BerPiNbiot.Modem.Mqtt

/-!
# The network thread

`net_entry` connects the module and the MQTT client, starts the uploader and
then waits for errors.  Its jumps are labels: a segment of the thread runs from
one label to the next and carries `recon_count` along.
-/

namespace BerPiNbiot.App

open BerPiNbiot.Kernel
open BerPiNbiot.Modem
open BerPiNbiot.Resumption
open BerPiNbiot.Text

/-- The labels of `net_entry`, with the value of `recon_count` there. -/
inductive NetLabel
  | netRecon (reconCount : Nat)
  | mqttRecon (reconCount : Nat)
  | waitLoop (reconCount : Nat)
  deriving DecidableEq, Repr

/-- `rt_thread_startup(data_up_thread_id)` -/
def dataUpStartup : Code Unit :=
  .call .dataUpStartup .ret

/-- `rt_thread_suspend(data_up_thread_id)` -/
def dataUpSuspend : Code Unit :=
  .call .dataUpSuspend .ret

/-- `rt_thread_resume(data_up_thread_id)` -/
def dataUpResume : Code Unit :=
  .call .dataUpResume .ret

/-- From `net_recon` to the next label. -/
def netRecon (reconCount : Nat) : Code NetLabel := do
  if ← qsdkNbQuickConnect then
    let _ ← qsdkNbSetPsmModeOff
    return .mqttRecon reconCount
  else
    return .netRecon reconCount

/-- From `mqtt_recon` to the wait loop; failures are only logged. -/
def mqttRecon (reconCount : Nat) : Code NetLabel := do
  threadDelay 100
  let nbTest ← qsdkMqttTopicInit (ascii "rb_sub") 2 0 0 0
  threadDelay 100
  let _ ← qsdkMqttConfig
  threadDelay 100
  let _ ← qsdkMqttOpenAckDis
  threadDelay 100
  let _ ← qsdkMqttSetAckTimeout 20
  threadDelay 100
  let _ ← qsdkMqttOpen
  threadDelay 100
  let _ ← qsdkMqttUnsub nbTest
  threadDelay 500
  let _ ← qsdkMqttSub nbTest
  threadDelay 500
  if reconCount = 0 then
    dataUpStartup
    return .waitLoop reconCount
  else
    dataUpResume
    return .waitLoop 0

/-- The flags that the network thread waits for. -/
def netRequested : EventSet :=
  sendError ||| nbReboot

/-- The branch of `EVENT_SEND_ERROR`; the result is the label jumped to, if
any. -/
def netSendError : Code (Option NetLabel) := do
  if !(← qsdkNbWaitConnect) then
    let _ ← qsdkNbReboot
    return some (.netRecon 1)
  if !(← qsdkNbQuickConnect) then
    let _ ← qsdkNbReboot
    return some (.netRecon 1)
  if (← qsdkMqttGetConnectStatus) ≠ 0 then
    if !(← qsdkMqttOpen) then
      let _ ← qsdkMqttClose
      return some (.mqttRecon 1)
  return none

/-- The branch of `EVENT_NB_REBOOT`. -/
def netNbReboot : Code (Option NetLabel) := do
  if !(← qsdkNbGetNetConnectStatus) then
    return some (.netRecon 1)
  return none

/-- The end of a turn: jump, or resume the uploader and wait again. -/
def netFinish (reconCount : Nat) : Option NetLabel → Code NetLabel
  | some label => return label
  | none => do
      dataUpResume
      return .waitLoop reconCount

/-- What the wait loop does with a received set. -/
def netHandle (eventStatus : EventSet) (reconCount : Nat) : Code NetLabel := do
  dataUpSuspend
  if eventStatus = sendError then
    netFinish reconCount (← netSendError)
  else if eventStatus = nbReboot then
    netFinish reconCount (← netNbReboot)
  else
    netFinish reconCount none

/-- One turn of the wait loop. -/
def netWait (reconCount : Nat) : Code NetLabel := do
  match ← eventRecv .netError .or netRequested none with
  | none => return .waitLoop reconCount
  | some eventStatus => netHandle eventStatus reconCount

/-- `net_entry`, from one label to the next. -/
def netEntry : NetLabel → Code NetLabel
  | .netRecon reconCount => netRecon reconCount
  | .mqttRecon reconCount => mqttRecon reconCount
  | .waitLoop reconCount => netWait reconCount

/-! ## A working module -/

/-- The line that is answered to the query behind a format. -/
def answerLine (expr : Bytes) : Bytes :=
  if expr = ascii "+CFUN:%d" then ascii "+CFUN:1"
  else if expr = ascii "%s\r\n" then ascii "460111174590523"
  else if expr = ascii "+CGSN:%s" then ascii "+CGSN:863703030000000"
  else if expr = ascii "+CSQ:%d\r\n" then ascii "+CSQ:20,0"
  else if expr = ascii "+CEREG:%d,%d" then ascii "+CEREG:0,1"
  else if expr = ascii "+MQTTSTAT:%d" then ascii "+MQTTSTAT:0"
  else ascii "+CCLK:20/11/10,02:30:00+32"

/-- The answers to driver code while the module and the server do what they are
asked for. -/
def answering : (request : Call) → request.Answer
  | .execCmd _ | .waitConnect _ | .malloc _ | .sendDataMailRecv => true
  | .respParse _ expr | .respParseByKw _ expr => sscanf (answerLine expr) expr
  | .eventRecv _ _ set _ => some set
  | .readTable => { simState := 1, csq := 20, netConnectOk := 1 }
  | .readMqtt => { connectStatus := 1, unsubackStatus := 1, pubackStatus := 1 }
  | .topicInit _ => some 0
  | .topicRead _ => { topic := ascii "rb_sub", qos := 2, userStatus := 1 }
  | .readPsmStatus => .exitPsm
  | .readSendData => ascii "\x7b\"lux\":25\x7d"
  | .uninitialised => fun _ => 0
  | .deleteResp | .lockTake | .lockRelease | .eventSend .. | .threadDelay _ | .resetPin _
  | .writeTable _ | .writePsmStatus _ | .writeMqtt _ | .topicWrite .. | .rtcSetTime _
  | .dataUpStartup | .dataUpSuspend | .dataUpResume => ()

end BerPiNbiot.App
