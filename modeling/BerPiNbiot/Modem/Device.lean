import BerPiNbiot.Kernel.Event
import BerPiNbiot.Text.Decimal

/-!
# Driver state of the NB-IoT modem

The global variables that the modem driver (`rb_nb.c`, `nb_mqtt.c`) keeps
between notifications: the attach table `nb_device_table`, the MQTT record
`mqtt_device` and the power-saving status `nbiot_psm_status`.  C `int` fields
are integers; the pointers into the receive buffer that `mqtt_device` keeps are
the texts they point to, `none` for a null pointer.

Flags sent to the two event objects and calls of the application's data
callback leave the driver, so they are effects and not part of its state.
-/

namespace BerPiNbiot.Modem

open BerPiNbiot.Kernel
open BerPiNbiot.Text

/-! ## Flags of `nb_event` and `net_error` -/

/-- `EVENT_REBOOT`: a requested reboot is acknowledged. -/
def eventReboot : EventSet := flagAt (positionOf 1)

/-- `EVENT_ENTER_PSM`: the module has gone to sleep. -/
def eventEnterPsm : EventSet := flagAt (positionOf 3)

/-- `EVENT_EXIT_PSM`: a thread wakes the module. -/
def eventExitPsm : EventSet := flagAt (positionOf 4)

/-- `EVENT_EXIT_PSM_REBOOT`: a reboot has ended the sleep. -/
def eventExitPsmReboot : EventSet := flagAt (positionOf 5)

/-- `EVENT_ENTER_RUN`: the module is awake again. -/
def eventEnterRun : EventSet := flagAt (positionOf 6)

/-- `EVENT_PING_OK` -/
def eventPingOk : EventSet := flagAt (positionOf 7)

/-- `EVENT_PING_ERROR` -/
def eventPingError : EventSet := flagAt (positionOf 8)

/-- `NB_REBOOT` in the callback module, `EVENT_NB_REBOOT` in the application. -/
def nbReboot : EventSet := flagAt (positionOf 1)

/-- `SEND_ERROR` in the callback module, `EVENT_SEND_ERROR` in the application. -/
def sendError : EventSet := flagAt (positionOf 2)

/-! ## Global records -/

/-- `enum nb_reboot_type`; the zeroed fields read as `noInit`. -/
inductive RebootType
  | noInit
  | initSuccess
  | rebootByPin
  | rebootByAt
  | rebootByFota
  | rebootByOther
  | rebootForPin
  | rebootForAt
  | rebootForFota
  | rebootClose
  deriving DecidableEq, Repr

/-- `enum qsdk_nb_status_type`, the values of `nbiot_psm_status`. -/
inductive NbStatus
  | moduleInitOk
  | reboot
  | fota
  | enterPsm
  | exitPsm
  | psmRun
  deriving DecidableEq, Repr

/-- `struct nb_device`. -/
structure NbDevice where
  simState : Int := 0
  deviceOk : Int := 0
  rebootOpen : RebootType := .noInit
  fotaOpen : Int := 0
  rebootType : RebootType := .noInit
  netConnectOk : Int := 0
  error : Int := 0
  csq : Int := 0
  imsi : Bytes := []
  imei : Bytes := []
  ip : Bytes := []
  deriving DecidableEq, Repr

/-- `MQTT_DEVICE`. -/
structure MqttDevice where
  subackTopic : Option Bytes := none
  pubackTopic : Option Bytes := none
  pubMesg : Option Bytes := none
  connectStatus : Int := 0
  errorType : Int := 0
  subackStatus : Int := 0
  unsubackStatus : Int := 0
  pubackStatus : Int := 0
  pubackOpen : Int := 0
  pubMesgLen : Int := 0
  pubrecStatus : Int := 0
  pubcompStatus : Int := 0
  packid : Int := 0
  deriving DecidableEq, Repr

/-- The globals that handling a notification reads and writes. -/
structure Driver where
  nbDeviceTable : NbDevice := {}
  mqttDevice : MqttDevice := {}
  nbiotPsmStatus : NbStatus := .moduleInitOk
  /-- `net_error` is not null: `main` has created it, which it does behind the
  initialisation of the driver -/
  netErrorCreated : Bool := false
  deriving DecidableEq, Repr

/-- What handling a notification does outside the driver's globals. -/
inductive Effect
  /-- `rt_event_send(nb_event, set)` -/
  | sendNbEvent (set : EventSet)
  /-- `rt_event_send(net_error, set)` -/
  | sendNetError (set : EventSet)
  /-- `RT_ASSERT(event != RT_NULL)` of `rt_event_send`, which does not return -/
  | assertionFailed
  /-- `qsdk_mqtt_data_callback(topic, mesg, mesg_len)` -/
  | dataCallback (topic mesg : Option Bytes) (mesgLen : Int)
  deriving DecidableEq, Repr

/-! ## Reboot notifications -/

/-- `qsdk_nb_clear_environment` -/
def qsdkNbClearEnvironment (driver : Driver) : Driver :=
  { driver with nbDeviceTable := {} }

/-- `qsdk_nb_get_psm_status() == RT_EOK` -/
def qsdkNbGetPsmStatus (driver : Driver) : Bool :=
  driver.nbiotPsmStatus ≠ .exitPsm

/-- `qsdk_nb_reboot_callback` -/
def qsdkNbRebootCallback (driver : Driver) : List Effect :=
  if driver.netErrorCreated then [.sendNetError nbReboot] else [.assertionFailed]

/-- One cause of `nb_reboot_func`: acknowledge a reboot the driver asked for,
report any other one.  The recorded type is wiped again by the caller. -/
def rebootCause (requested : RebootType) (cause : RebootType) (driver : Driver) :
    Driver × List Effect :=
  if driver.nbDeviceTable.rebootOpen = requested then
    (driver, [.sendNbEvent eventReboot])
  else
    ({ driver with nbDeviceTable := { driver.nbDeviceTable with rebootType := cause } },
      qsdkNbRebootCallback driver)

/-- The thread stands in a failed assertion. -/
def halts (effects : List Effect) : Bool :=
  decide (.assertionFailed ∈ effects)

/-- The three branches of `nb_reboot_func`. -/
def rebootBranch (data : Bytes) (driver : Driver) : Driver × List Effect :=
  if Found data (ascii "REBOOT_CAUSE_SECURITY_RESET_PIN") then
    rebootCause .rebootForPin .rebootByPin driver
  else if Found data (ascii "REBOOT_CAUSE_APPLICATION_AT") then
    rebootCause .rebootForAt .rebootByAt driver
  else
    ({ driver with
        nbDeviceTable := { driver.nbDeviceTable with rebootType := .rebootByOther } },
      qsdkNbRebootCallback driver)

/-- `nb_reboot_func`; behind a failed assertion the table is not cleared. -/
def nbRebootFunc (data : Bytes) (driver : Driver) : Driver × List Effect :=
  let exitEffects : List Effect :=
    if qsdkNbGetPsmStatus driver then [.sendNbEvent eventExitPsmReboot] else []
  let (marked, effects) := rebootBranch data driver
  (if halts effects then marked else qsdkNbClearEnvironment marked, exitEffects ++ effects)

end BerPiNbiot.Modem
