import BerPiNbiot.App.Telemetry
import BerPiNbiot.Modem.Hex

/-!
# Room for the telemetry

The telemetry text is formatted without a bound into `NB_SendDataBuff` and, as a
publish command with two hex digits for every byte, into the send buffer of the AT
client.  Neither function checks the room; the bounds are those of the types of
the values.
-/

namespace BerPiNbiot.App.Telemetry

open BerPiNbiot.Modem
open BerPiNbiot.Resumption
open BerPiNbiot.Text

/-! ## The text -/

theorem length_printInt_le_of_range {value : Int} (range : intMin ≤ value ∧ value ≤ intMax) :
    (printInt value).length ≤ 11 := by
  apply length_printInt_le (by decide)
  rw [intMin, intMax] at range
  omega

theorem length_printPoint_le {whole tenths : Int} (range : intMin ≤ whole ∧ whole ≤ intMax)
    (digit : -9 ≤ tenths ∧ tenths ≤ 9) : (printPoint whole tenths).length ≤ 14 := by
  have front := length_printInt_le_of_range range
  have behind : (printInt tenths).length ≤ 2 := length_printInt_le (by decide) (by omega)
  rw [printPoint_eq, List.length_append, List.length_cons]
  omega

theorem length_printByte_le (byte : UInt8) : (printInt byte.toNat).length ≤ 3 := by
  have bound := byte.toNat_lt
  exact length_printNat_le (by decide) (by omega)

theorem length_formatData_le (values : Values) : (formatData values).length ≤ 152 := by
  have temperature :=
    length_printPoint_le values.temperature_range values.temperatureTenths_range
  have humidity := length_printPoint_le values.humidity_range values.humidityTenths_range
  have lux : (printInt values.luxValue.toNat).length ≤ 5 := by
    have bound := values.luxValue.toNat_lt
    exact length_printNat_le (by decide) (by omega)
  have csq := length_printInt_le_of_range values.csqPub_range
  have ppm := length_printByte_le values.ppm
  have ledflag := length_printByte_le values.ledflag
  have doorSta := length_printByte_le values.doorSta
  have imei := values.imeiInfo_length
  have literals : "\x7b\"temperature\":".length = 15 ∧ ",\"humidity\":".length = 12 ∧
      ",\"lux\":".length = 7 ∧ ",\"MQ2\":".length = 7 ∧ ",\"led_sta\":".length = 11 ∧
      ",\"csq_val\":".length = 11 ∧ ",\"imei\":".length = 8 ∧ ",\"door_sta\":".length = 12 ∧
      "\x7d".length = 1 := by
    decide
  simp only [formatData, List.length_append, length_ascii]
  omega

/-! ## The command -/

theorem length_pubCommand_le {mesg : Bytes} {qos : Int} (range : intMin ≤ qos ∧ qos ≤ intMax)
    (short : mesg.length < 1000) : (pubCommand mesg qos).length ≤ 2 * mesg.length + 40 := by
  have level := length_printInt_le_of_range range
  have hex := length_stringToHex mesg
  have half : (stringToHex mesg).length / 2 = mesg.length := by omega
  have field : (decimal mesg.length).length ≤ 3 := length_decimal_le (by decide) (by omega)
  have literals : "AT+MQTTPUB=\"rb_pub\",".length = 20 ∧ ",0,0,".length = 5 ∧
      ",".length = 1 := by
    decide
  simp only [pubCommand, List.length_append, length_ascii, half]
  omega

/-! ## The send buffer -/

/-- `AT_CMD_MAX_LEN` -/
def atCmdMaxLen : Nat := 1024

/-- The stores of `vsnprintf`, which keeps a place for the terminator, and its
result, the length of the whole text. -/
def vsnprintf (size : Nat) (text : Bytes) : List Store × Nat :=
  (sprintfAt 0 (text.take (size - 1)), text.length)

/-- What `at_vprintf` passes to `rt_device_write`, with what `send_buf` held
before. -/
def atVprintf (sendBuf : Memory) (text : Bytes) : Bytes :=
  let (stores, lastCmdLen) := vsnprintf atCmdMaxLen text
  (sendBuf.after stores).load 0 lastCmdLen

theorem atVprintf_of_fits {text : Bytes} (fits : text.length + 1 ≤ atCmdMaxLen)
    (sendBuf : Memory) : atVprintf sendBuf text = text := by
  have whole : text.take (atCmdMaxLen - 1) = text := List.take_of_length_le (by omega)
  simp only [atVprintf, vsnprintf, whole]
  exact (sendBuf.after_sprintfAt 0 text).1

/-- The telemetry text with its terminator fits into `NB_SendDataBuff[200]`, and
the only command that `qsdk_mqtt_pub_stream` executes for it fits into the send
buffer and is transmitted whole. -/
theorem telemetry_fits (values : Values) (qos : Int) (range : intMin ≤ qos ∧ qos ≤ intMax)
    (sendBuf : Memory) :
    (formatData values).length + 1 ≤ 200 ∧
      (pubCommand (formatData values) qos).length + 1 ≤ atCmdMaxLen ∧
      atVprintf sendBuf (pubCommand (formatData values) qos) =
        pubCommand (formatData values) qos ∧
      (qsdkMqttPubStream (formatData values) qos).Always (fun _ _ => True)
        (OtherCommand (formatData values) qos) fun _ => True := by
  have text := length_formatData_le values
  have command := length_pubCommand_le range (by omega : (formatData values).length < 1000)
  have fits : (pubCommand (formatData values) qos).length + 1 ≤ atCmdMaxLen := by
    rw [atCmdMaxLen]
    omega
  exact ⟨by omega, fits, atVprintf_of_fits fits sendBuf, always_pubCommand _ qos⟩

theorem longestInt_range : intMin ≤ intMin ∧ intMin ≤ intMax := by
  decide

theorem longestTenths_range : -9 ≤ (-9 : Int) ∧ (-9 : Int) ≤ 9 := by
  decide

theorem longestImei_noNul : 0 ∉ ascii "868474041234567" := by
  decide

theorem longestImei_length : (ascii "868474041234567").length ≤ 15 := by
  decide

/-- The longest text there is. -/
def longest : Values where
  temperature := intMin
  temperatureTenths := -9
  humidity := intMin
  humidityTenths := -9
  luxValue := 65535
  ppm := 255
  ledflag := 255
  csqPub := intMin
  imeiInfo := ascii "868474041234567"
  doorSta := 255
  temperature_range := longestInt_range
  temperatureTenths_range := longestTenths_range
  humidity_range := longestInt_range
  humidityTenths_range := longestTenths_range
  csqPub_range := longestInt_range
  imeiInfo_noNul := longestImei_noNul
  imeiInfo_length := longestImei_length

theorem longest_fits :
    (formatData longest).length + 1 ≤ 200 ∧
      (pubCommand (formatData longest) 1).length + 1 ≤ atCmdMaxLen := by
  have fits := telemetry_fits longest 1 (by decide) fun _ => 0
  exact ⟨fits.1, fits.2.1⟩

end BerPiNbiot.App.Telemetry
