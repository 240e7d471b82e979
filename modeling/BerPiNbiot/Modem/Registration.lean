import BerPiNbiot.Modem.Query

/-!
# The cached registration status

`qsdk_nb_get_net_connect` asks for the registration status, keeps it in
`net_connect_ok` and succeeds for the values 1 and 5.
`qsdk_nb_get_net_connect_status`, which `net_entry` uses behind a reboot, takes
every value but 0 for a registration.
-/

namespace BerPiNbiot.Modem

open BerPiNbiot.Resumption
open BerPiNbiot.Text

/-- What happens to `nb_device_table` between two looks at the cached status. -/
inductive NetItem
  /-- `qsdk_nb_get_net_connect`, whose command is answered by `reply` -/
  | getNetConnect (reply : Reply)
  /-- `qsdk_nb_clear_environment` -/
  | clearEnvironment
  /-- a `REBOOT_` notification -/
  | rebooted (data : Bytes)
  /-- `qsdk_nb_reboot` drives the pin -/
  | rebootRequest
  /-- `qsdk_nb_reboot` has seen the notification -/
  | rebootAcknowledge

/-- A module that answers with one reply. -/
def answering (reply : Reply) : NbModule where
  reply _ _ := reply
  locals _ := 0

/-- `qsdk_nb_get_net_connect` on a table: its result and the new table. -/
def netConnect (reply : Reply) (table : NbDevice) : Bool × NbDevice :=
  let result := qsdkNbGetNetConnect.run (answering reply).handle { table }
  (result.1, result.2.table)

/-- `qsdk_nb_get_net_connect_status` on a table. -/
def netConnectStatus (table : NbDevice) : Bool :=
  (qsdkNbGetNetConnectStatus.run (answering .error).handle { table }).1

/-- The driver behind an item. -/
def NetItem.apply (driver : Driver) : NetItem → Driver
  | .getNetConnect reply =>
      { driver with nbDeviceTable := (netConnect reply driver.nbDeviceTable).2 }
  | .clearEnvironment => qsdkNbClearEnvironment driver
  | .rebooted data => (nbRebootFunc data driver).1
  | .rebootRequest => { driver with nbDeviceTable := rebootRequested }
  | .rebootAcknowledge =>
      { driver with nbDeviceTable := rebootAcknowledged driver.nbDeviceTable }

/-- The driver behind a run. -/
def netAfter (driver : Driver) (items : List NetItem) : Driver :=
  items.foldl NetItem.apply driver

/-- The status in the response lines; the cached one where they hold none. -/
def reportedStatus (table : NbDevice) (lines : List Bytes) : Int :=
  assignInt table.netConnectOk (Query.fields .getNetConnect lines)[1]?

theorem netConnect_ok (table : NbDevice) (lines : List Bytes) :
    netConnect (.ok lines) table =
      (decide (reportedStatus table lines = 1 ∨ reportedStatus table lines = 5),
        { table with netConnectOk := reportedStatus table lines }) := by
  simp only [netConnect, run_getNetConnect]
  rfl

theorem netConnectStatus_eq (table : NbDevice) :
    netConnectStatus table = decide (table.netConnectOk ≠ 0) :=
  rfl

/-- Behind every run that ends with a successful `AT+CEREG?`, the cached status
says what the query said if and only if the status is 0, 1 or 5. -/
theorem netConnectStatus_agrees_iff (driver : Driver) (items : List NetItem)
    (lines : List Bytes) :
    let before := (netAfter driver items).nbDeviceTable
    let after := (netAfter driver (items ++ [.getNetConnect (.ok lines)])).nbDeviceTable
    (netConnectStatus after = true ↔ (netConnect (.ok lines) before).1 = true) ↔
      reportedStatus before lines = 0 ∨ reportedStatus before lines = 1 ∨
        reportedStatus before lines = 5 := by
  intro before after
  have last : after = (netConnect (.ok lines) before).2 := by
    change (netAfter driver (items ++ [.getNetConnect (.ok lines)])).nbDeviceTable = _
    rw [netAfter, List.foldl_append]
    rfl
  rw [last, netConnectStatus_eq, netConnect_ok]
  simp only [decide_eq_true_eq]
  omega

/-- A module that is searching for a network counts as registered. -/
theorem searching_disagrees :
    let lines := [[], ascii "+CEREG:0,2\r", ascii "OK\r"]
    (netConnect (.ok lines) {}).1 = false ∧
      netConnectStatus (netAfter {} [.getNetConnect (.ok lines)]).nbDeviceTable = true := by
  decide +kernel

end BerPiNbiot.Modem
