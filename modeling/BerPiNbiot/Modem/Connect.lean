import BerPiNbiot.Modem.Calls

/-!
# Bringing the modem up

Reset, connection test and attach procedure of `rb_nb.c`.  A function returns
`true` for `RT_EOK`.  The bounded loops of `qsdk_nb_quick_connect` count down
before they look at the result, so the program carries the counter that is left
and the caller tests it against zero as the source does.
-/

namespace BerPiNbiot.Modem

open BerPiNbiot.Kernel
open BerPiNbiot.Resumption
open BerPiNbiot.Text

/-- `qsdk_nb_wait_connect`; a failure deletes the shared response object. -/
def qsdkNbWaitConnect : Code Bool := do
  if ← atClientObjWaitConnect 2000 then
    return true
  else
    atDeleteResp
    return false

/-- The table as `qsdk_nb_reboot` and `qsdk_init_environment` prepare it. -/
def rebootRequested : NbDevice :=
  { rebootOpen := .rebootForPin, rebootType := .noInit, netConnectOk := 0 }

/-- The acknowledgement of a requested reboot. -/
def rebootAcknowledged (table : NbDevice) : NbDevice :=
  { table with rebootType := .noInit, rebootOpen := .noInit }

/-- `qsdk_nb_reboot` -/
def qsdkNbReboot : Code Bool := do
  writeTable fun _ => rebootRequested
  resetPin true
  threadDelay 2000
  resetPin false
  threadDelay 1000
  match ← eventRecv .nbEvent .and eventReboot (some 20000) with
  | none => return false
  | some _ =>
      threadDelay 1000
      writeTable rebootAcknowledged
      qsdkNbWaitConnect

/-! ## Queries -/

/-- Store a `%d` field that was assigned through a pointer into the table. -/
def storeInt (field : Option Field) (update : Int → NbDevice → NbDevice) : Code Unit :=
  match field with
  | some (.int value) => writeTable (update value)
  | _ => return ()

/-- Store a `%s` field that was assigned through a pointer into the table. -/
def storeStr (field : Option Field) (update : Bytes → NbDevice → NbDevice) : Code Unit :=
  match field with
  | some (.str text) => writeTable (update text)
  | _ => return ()

/-- `qsdk_nb_sim_check` -/
def qsdkNbSimCheck : Code Bool := do
  if ← atObjExecCmd (ascii "AT+CFUN?") then
    let fields ← atRespParseLineArgs 2 (ascii "+CFUN:%d")
    storeInt fields[0]? fun value table => { table with simState := value }
    return true
  else
    return false

/-- `qsdk_nb_get_imsi() != RT_NULL` -/
def qsdkNbGetImsi : Code Bool := do
  if ← atObjExecCmd (ascii "AT+CIMI") then
    let fields ← atRespParseLineArgs 2 (ascii "%s\r\n")
    storeStr fields[0]? fun text table => { table with imsi := text }
    return true
  else
    return false

/-- `qsdk_nb_get_imei() != RT_NULL` -/
def qsdkNbGetImei : Code Bool := do
  if ← atObjExecCmd (ascii "AT+CGSN=1") then
    let fields ← atRespParseLineArgs 2 (ascii "+CGSN:%s")
    storeStr fields[0]? fun text table => { table with imei := text }
    return true
  else
    return false

/-- `qsdk_nb_get_csq` -/
def qsdkNbGetCsq : Code Int := do
  if ← atObjExecCmd (ascii "AT+CSQ") then
    let fields ← atRespParseLineArgs 2 (ascii "+CSQ:%d\r\n")
    storeInt fields[0]? fun value table => { table with csq := value }
    let table ← readTable
    return table.csq
  else
    return -1

/-- `qsdk_nb_get_net_connect` -/
def qsdkNbGetNetConnect : Code Bool := do
  if ← atObjExecCmd (ascii "AT+CEREG?") then
    let fields ← atRespParseLineArgsByKw (ascii "+CEREG:") (ascii "+CEREG:%d,%d")
    storeInt fields[1]? fun value table => { table with netConnectOk := value }
    let table ← readTable
    return decide (table.netConnectOk = 1 ∨ table.netConnectOk = 5)
  else
    return false

/-- `qsdk_nb_get_net_connect_status() == RT_EOK` -/
def qsdkNbGetNetConnectStatus : Code Bool := do
  let table ← readTable
  return decide (table.netConnectOk ≠ 0)

/-- `qsdk_nb_set_psm_mode(0, RT_NULL, RT_NULL)` -/
def qsdkNbSetPsmModeOff : Code Bool :=
  atObjExecCmd (ascii "AT+CPSMS=0")

/-! ## Network time -/

/-- The last day of the month that `qsdk_nb_set_rtc_time` computes. -/
def lastDay (year month : Int) : Int :=
  if (year.tmod 4 = 0 ∧ year.tmod 100 ≠ 0) ∨ year.tmod 400 = 0 then 29
  else if month ∈ [1, 3, 5, 7, 8, 10, 12] then 31
  else if month ∈ [4, 6, 9, 11] then 30
  else 28

/-- `qsdk_nb_set_rtc_time`: the arguments of the callback. -/
def qsdkNbSetRtcTime (year month day hour min sec : Int) : CivilTime :=
  let hour := hour + 8
  let last := lastDay year month
  let (year, month, day, hour) :=
    if hour > 24 then
      let (month, day) := if day + 1 > last then (month + 1, day + 1 - last) else (month, day + 1)
      let (year, month) := if month > 12 then (year + 1, month - 12) else (year, month)
      (year, month, day, hour - 24)
    else
      (year, month, day, hour)
  let week := (day + 2 * month + (3 * (month + 1)).tdiv 5 + year + year.tdiv 4 -
    year.tdiv 100 + year.tdiv 400).tmod 7 + 1
  { year := year + 2000, month, day, hour, min, sec, week }

/-- `qsdk_nb_get_time` -/
def qsdkNbGetTime : Code Bool := do
  -- The locals are not initialised and keep their content where a field is missing.
  let stale ← uninitialised
  if ← atObjExecCmd (ascii "AT+CCLK?") then
    let fields ← atRespParseLineArgs 2 (ascii "+CCLK:%d/%d/%d,%d:%d:%d+")
    let value (index : Fin 6) : Int := assignInt (stale index) fields[index.val]?
    .call (.rtcSetTime (qsdkNbSetRtcTime (value 0) (value 1) (value 2) (value 3) (value 4)
      (value 5))) .ret
    return true
  else
    return false

/-! ## Attach procedure -/

/-- The loop on `AT+CFUN?`; the result is the counter that is left. -/
def simLoop : Nat → Code Nat
  | 0 => return 0
  | i + 1 => do
      if !(← qsdkNbSimCheck) then
        threadDelay 500
      let table ← readTable
      if table.simState ≠ 1 then
        threadDelay 1000
      let table ← readTable
      if table.simState = 0 ∧ 0 < i then
        simLoop i
      else
        return i

/-- The loop on `AT+CIMI`. -/
def imsiLoop : Nat → Code Nat
  | 0 => return 0
  | i + 1 => do
      if ← qsdkNbGetImsi then
        return i
      else
        threadDelay 500
        imsiLoop i

/-- The loop on `AT+CSQ`. -/
def csqLoop : Nat → Code Nat
  | 0 => return 0
  | i + 1 => do
      let csq ← qsdkNbGetCsq
      if csq = -1 then
        threadDelay 500
        csqLoop i
      else
        let table ← readTable
        if table.csq ≠ 99 ∧ table.csq ≠ 0 then
          return i
        else
          threadDelay 3000
          csqLoop i

/-- The loop on `AT+CEREG?`. -/
def netLoop : Nat → Code Nat
  | 0 => return 0
  | i + 1 => do
      if ← qsdkNbGetNetConnect then
        return i
      else
        threadDelay 1000
        netLoop i

/-- `qsdk_nb_quick_connect` behind the SIM card: module number, signal and
network. -/
def attachNetwork : Code Bool := do
  if !(← qsdkNbGetImei) then
    return false
  let i ← csqLoop 15
  if i = 0 then
    return false
  threadDelay 100
  let i ← netLoop 40
  if i = 0 then
    return false
  threadDelay 2000
  let _ ← qsdkNbGetTime
  return true

/-- `qsdk_nb_quick_connect` -/
def qsdkNbQuickConnect : Code Bool := do
  if !(← atObjExecCmd (ascii "AT+NPSMR=1")) then
    return false
  if !(← getPsmStatus) then
    let _ ← qsdkNbSetPsmModeOff
  threadDelay 1000
  let i ← simLoop 5
  if i = 0 then
    return false
  threadDelay 1000
  let i ← imsiLoop 5
  if i = 0 then
    return false
  threadDelay 100
  attachNetwork

/-- `qsdk_init_environment` from the prepared table on; the objects it creates
first are part of the initial state. -/
def qsdkInitEnvironment : Code Bool := do
  writeTable fun _ => rebootRequested
  writePsmStatus .exitPsm
  resetPin true
  threadDelay 1000
  resetPin false
  match ← eventRecv .nbEvent .and eventReboot (some 20000) with
  | none => return false
  | some _ =>
      writeTable rebootAcknowledged
      threadDelay 1000
      qsdkNbWaitConnect

end BerPiNbiot.Modem
