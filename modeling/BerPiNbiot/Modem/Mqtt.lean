import BerPiNbiot.Modem.Calls

/-!
# MQTT client functions

The functions of `nb_mqtt.c` that send a command and wait for its
acknowledgement.  Waiting polls a field of `mqtt_device` that the notification
handler sets; the loop counts down before it looks, so it ends with a counter of
zero both when time is up and when the field changes at the last poll.
-/

namespace BerPiNbiot.Modem

open BerPiNbiot.Resumption
open BerPiNbiot.Text

/-- The body of an acknowledgement loop: `do count--, delay while count > 0 and
waiting`; the result is the counter that is left. -/
def pollAck (ticks : Nat) (waiting : MqttDevice → Bool) : Nat → Code Nat
  | 0 => return 0
  | count + 1 => do
      threadDelay ticks
      if count = 0 then
        return 0
      let device ← readMqtt
      if waiting device then
        pollAck ticks waiting count
      else
        return count

/-- The loop only delays and looks. -/
theorem always_pollAck {answers : (request : Call) → request.Answer → Prop} {bad : Call → Prop}
    (delays : ∀ ticks, ¬ bad (.threadDelay ticks)) (reads : ¬ bad .readMqtt) (ticks : Nat)
    (waiting : MqttDevice → Bool) (count : Nat) :
    (pollAck ticks waiting count).Always answers bad fun _ => True := by
  induction count with
  | zero => simp [pollAck]
  | succ count ih => simp [pollAck, threadDelay, readMqtt, delays, reads, ih]

/-- `qsdk_mqtt_config` -/
def qsdkMqttConfig : Code Bool := do
  writeMqtt fun _ => {}
  atObjExecCmd (ascii
    "AT+MQTTCFG=\"xx.xx.xxx\",1883,\"rbb987\",60,\"BearPi\",\"BearPi\",1")

/-- `qsdk_mqtt_open` -/
def qsdkMqttOpen : Code Bool := do
  if !(← atObjExecCmd (ascii "AT+MQTTOPEN=1,1,1,1,1,\"mywill\",\"001bye\"")) then
    return false
  let count ← pollAck 50 (fun device => device.connectStatus = 0) 50
  return decide (count ≠ 0)

/-- `qsdk_mqtt_get_connect_status` -/
def qsdkMqttGetConnectStatus : Code Int := do
  if !(← atObjExecCmd (ascii "AT+MQTTSTAT?")) then
    return -1
  let fields ← atRespParseLineArgs 2 (ascii "+MQTTSTAT:%d")
  return assignInt 0 fields[0]?

/-- `qsdk_mqtt_sub` -/
def qsdkMqttSub (topic : Option Nat) : Code Bool := do
  writeMqtt ({ · with subackStatus := 0x80 })
  let stream ← topicRead topic
  if !(← atObjExecCmd (ascii "AT+MQTTSUB=\"" ++ stream.topic ++ ascii "\"," ++
      printInt stream.qos ++ ascii ",0")) then
    return false
  let count ← pollAck 50 (fun device => device.subackStatus = 0x80) 50
  if count = 0 then
    return false
  topicWrite topic 1
  return true

/-- `qsdk_mqtt_unsub` -/
def qsdkMqttUnsub (topic : Option Nat) : Code Bool := do
  writeMqtt ({ · with unsubackStatus := 0 })
  let stream ← topicRead topic
  if !(← atObjExecCmd (ascii "AT+MQTTUNSUB=\"" ++ stream.topic ++ ascii "\"")) then
    return false
  let count ← pollAck 50 (fun device => device.unsubackStatus = 0) 50
  if count = 0 then
    return false
  topicWrite topic 0
  return true

/-- `qsdk_mqtt_close` -/
def qsdkMqttClose : Code Bool := do
  if !(← atObjExecCmd (ascii "AT+MQTTDISC")) then
    return false
  let count ← pollAck 50 (fun device => device.connectStatus = 1) 50
  return decide (count ≠ 0)

/-- `qsdk_mqtt_set_ack_timeout` -/
def qsdkMqttSetAckTimeout (timeout : Int) : Code Bool :=
  atObjExecCmd (ascii "AT+MQTTTO=" ++ printInt timeout)

/-- `qsdk_mqtt_open_ack_dis` -/
def qsdkMqttOpenAckDis : Code Bool :=
  atObjExecCmd (ascii "AT+MQTTPING=1")

/-- `qsdk_mqtt_get_connect() == RT_EOK` -/
def qsdkMqttGetConnect : Code Bool := do
  let device ← readMqtt
  return decide (device.connectStatus ≠ 0)

/-! ## Publishing -/

/-- The digit that `%X` prints for a nibble. -/
def hexDigit (nibble : UInt8) : UInt8 :=
  if nibble < 10 then 48 + nibble else 55 + nibble

/-- The text that `string_to_hex` stores, without its terminator. -/
def stringToHex (text : Bytes) : Bytes :=
  text.flatMap fun byte => [hexDigit (byte / 16), hexDigit (byte % 16)]

/-- The acknowledgement phases of `qsdk_mqtt_pub_stream`. -/
def pubAck (qos : Int) : Code Bool := do
  if qos = 1 then
    let count ← pollAck 100 (fun device => device.pubackStatus = 0) 50
    return decide (count ≠ 0)
  else if qos = 2 then
    let count ← pollAck 100 (fun device => device.pubrecStatus = 0) 50
    if count = 0 then
      return false
    let count ← pollAck 100 (fun device => device.pubcompStatus = 0) 50
    return decide (count ≠ 0)
  else
    return true

/-- `qsdk_mqtt_pub_stream` -/
def qsdkMqttPubStream (mesg : Bytes) (qos : Int) : Code Bool := do
  if !(← rtMalloc (mesg.length * 2)) then
    return false
  if mesg = [] then
    return false
  writeMqtt ({ · with pubackStatus := 0, pubcompStatus := 0, pubrecStatus := 0 })
  let str := stringToHex mesg
  if !(← atObjExecCmd (ascii "AT+MQTTPUB=\"rb_pub\"," ++ printInt qos ++ ascii ",0,0," ++
      decimal (str.length / 2) ++ ascii "," ++ str)) then
    return false
  pubAck qos

end BerPiNbiot.Modem
