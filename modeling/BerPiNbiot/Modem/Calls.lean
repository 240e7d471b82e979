import BerPiNbiot.Modem.Device
import BerPiNbiot.Resumption.Core
import BerPiNbiot.Text.Scan

/-!
# What driver code calls

The functions of the modem driver and the application threads are programs over
one signature of calls: AT commands on `nb_client` with the shared response
object `nb_resp`, the AT lock, the kernel services, and single accesses to the
global records.  Between two calls a program only computes with its locals, so
the calls are the points at which threads can interleave.

Each primitive is a program under the name of the function it stands for.
-/

namespace BerPiNbiot.Modem

open BerPiNbiot.Kernel
open BerPiNbiot.Resumption
open BerPiNbiot.Text

/-- The threads that use the modem. -/
inductive Thread
  | qsdk
  | psm
  | net
  | dataUp
  | shell
  | main
  deriving DecidableEq, Repr

/-- All threads. -/
def threads : List Thread :=
  [.qsdk, .psm, .net, .dataUp, .shell, .main]

theorem mem_threads (thread : Thread) : thread ∈ threads := by
  cases thread <;> decide

/-- The two event objects. -/
inductive EventObject
  | nbEvent
  | netError
  deriving DecidableEq, Repr

/-- An entry of `mqtt_stream_table`. -/
structure MqttStream where
  topic : Bytes := []
  qos : Int := 0
  retain : Int := 0
  dup : Int := 0
  mesgType : Int := 0
  subackStatus : Int := 0
  userStatus : Int := 0
  deriving DecidableEq, Repr

/-- The arguments of `qsdk_rtc_set_time_callback`. -/
structure CivilTime where
  year : Int
  month : Int
  day : Int
  hour : Int
  min : Int
  sec : Int
  week : Int
  deriving DecidableEq, Repr

/-- The calls of driver code. -/
inductive Call
  | execCmd (cmd : Bytes)
  | waitConnect (timeout : Nat)
  | deleteResp
  | respParse (line : Nat) (expr : Bytes)
  | respParseByKw (keyword expr : Bytes)
  | lockTake
  | lockRelease
  | eventRecv (object : EventObject) (flag : EventFlag) (set : EventSet) (timeout : Option Nat)
  | eventSend (object : EventObject) (set : EventSet)
  | threadDelay (ticks : Nat)
  | resetPin (high : Bool)
  | readTable
  | writeTable (update : NbDevice → NbDevice)
  | readPsmStatus
  | writePsmStatus (status : NbStatus)
  | readMqtt
  | writeMqtt (update : MqttDevice → MqttDevice)
  | topicInit (stream : MqttStream)
  | topicRead (slot : Option Nat)
  | topicWrite (slot : Option Nat) (subackStatus : Int)
  | rtcSetTime (time : CivilTime)
  | uninitialised
  | malloc (size : Nat)
  | sendDataMailRecv
  | readSendData
  | dataUpStartup
  | dataUpSuspend
  | dataUpResume

/-- The answers of the calls; `true` stands for `RT_EOK`. -/
abbrev Call.Answer : Call → Type
  | .execCmd _ | .waitConnect _ | .malloc _ | .sendDataMailRecv => Bool
  | .readSendData => Bytes
  | .respParse .. | .respParseByKw .. => List Field
  | .eventRecv .. => Option EventSet
  | .readTable => NbDevice
  | .readPsmStatus => NbStatus
  | .readMqtt => MqttDevice
  | .topicInit _ => Option Nat
  | .topicRead _ => MqttStream
  | .uninitialised => Fin 6 → Int
  | _ => Unit

theorem Call.nonempty_answer (request : Call) : Nonempty request.Answer := by
  cases request with
  | readTable | readMqtt | topicRead _ => exact ⟨{}⟩
  | readPsmStatus => exact ⟨.exitPsm⟩
  | readSendData | respParse _ _ | respParseByKw _ _ => exact ⟨[]⟩
  | uninitialised => exact ⟨fun _ => 0⟩
  | topicInit _ | eventRecv => exact ⟨none⟩
  | execCmd _ | waitConnect _ | malloc _ | sendDataMailRecv => exact ⟨true⟩
  | _ => exact ⟨()⟩

/-- The signature of driver code. -/
abbrev driverCalls : Signature where
  Call := Call
  Answer := Call.Answer

/-- Driver code with a result. -/
abbrev Code := Program driverCalls

/-! ## Primitives -/

/-- `at_obj_exec_cmd(nb_client, nb_resp, cmd) == RT_EOK` -/
def atObjExecCmd (cmd : Bytes) : Code Bool :=
  .call (.execCmd cmd) .ret

/-- `at_client_obj_wait_connect(nb_client, timeout) == RT_EOK` -/
def atClientObjWaitConnect (timeout : Nat) : Code Bool :=
  .call (.waitConnect timeout) .ret

/-- `at_delete_resp(nb_resp)` -/
def atDeleteResp : Code Unit :=
  .call .deleteResp .ret

/-- `at_resp_parse_line_args(nb_resp, line, expr, ...)`: the assigned fields. -/
def atRespParseLineArgs (line : Nat) (expr : Bytes) : Code (List Field) :=
  .call (.respParse line expr) .ret

/-- `at_resp_parse_line_args_by_kw(nb_resp, keyword, expr, ...)` -/
def atRespParseLineArgsByKw (keyword expr : Bytes) : Code (List Field) :=
  .call (.respParseByKw keyword expr) .ret

/-- `rt_mutex_take(nb_client->lock, RT_WAITING_FOREVER)` -/
def lockTake : Code Unit :=
  .call .lockTake .ret

/-- `rt_mutex_release(nb_client->lock)` -/
def lockRelease : Code Unit :=
  .call .lockRelease .ret

/-- `rt_event_recv` with `RT_EVENT_FLAG_CLEAR`; no timeout is
`RT_WAITING_FOREVER`, no set an error. -/
def eventRecv (object : EventObject) (flag : EventFlag) (set : EventSet)
    (timeout : Option Nat) : Code (Option EventSet) :=
  .call (.eventRecv object flag set timeout) .ret

/-- `rt_event_send` -/
def eventSend (object : EventObject) (set : EventSet) : Code Unit :=
  .call (.eventSend object set) .ret

/-- `rt_thread_delay` -/
def threadDelay (ticks : Nat) : Code Unit :=
  .call (.threadDelay ticks) .ret

/-- `rt_pin_write(QSDK_RESET_PIN, ...)` -/
def resetPin (high : Bool) : Code Unit :=
  .call (.resetPin high) .ret

/-- A read of `nb_device_table` -/
def readTable : Code NbDevice :=
  .call .readTable .ret

/-- An assignment to `nb_device_table` -/
def writeTable (update : NbDevice → NbDevice) : Code Unit :=
  .call (.writeTable update) .ret

/-- A read of `nbiot_psm_status` -/
def readPsmStatus : Code NbStatus :=
  .call .readPsmStatus .ret

/-- An assignment to `nbiot_psm_status` -/
def writePsmStatus (status : NbStatus) : Code Unit :=
  .call (.writePsmStatus status) .ret

/-- A read of `mqtt_device` -/
def readMqtt : Code MqttDevice :=
  .call .readMqtt .ret

/-- An assignment to `mqtt_device` -/
def writeMqtt (update : MqttDevice → MqttDevice) : Code Unit :=
  .call (.writeMqtt update) .ret

/-- The values that uninitialised locals happen to have. -/
def uninitialised : Code (Fin 6 → Int) :=
  .call .uninitialised .ret

/-- `qsdk_mqtt_topic_init`: the slot of `mqtt_stream_table` that was filled. -/
def qsdkMqttTopicInit (topic : Bytes) (qos retain dup mesgType : Int) : Code (Option Nat) :=
  .call (.topicInit { topic, qos, retain, dup, mesgType, userStatus := 1 }) .ret

/-- A read through a topic pointer -/
def topicRead (slot : Option Nat) : Code MqttStream :=
  .call (.topicRead slot) .ret

/-- An assignment to `topic->suback_ststus` -/
def topicWrite (slot : Option Nat) (subackStatus : Int) : Code Unit :=
  .call (.topicWrite slot subackStatus) .ret

/-- `rt_malloc(size) != RT_NULL` -/
def rtMalloc (size : Nat) : Code Bool :=
  .call (.malloc size) .ret

/-- `qsdk_nb_get_psm_status() == RT_EOK` as code. -/
def getPsmStatus : Code Bool := do
  let status ← readPsmStatus
  return decide (status ≠ .exitPsm)

end BerPiNbiot.Modem
