import BerPiNbiot.App.Sensors
import BerPiNbiot.Text.Json
import Mathlib.Tactic.Ring

/-!
# The telemetry text

What `send_data_entry` formats into `NB_SendDataBuff`, as a text of the JSON
grammar.  The tenths of the temperature are printed with a sign of their own and
the imei is printed as bare text, so the text is well-formed only for some of the
readings.
-/

namespace BerPiNbiot.App.Telemetry

open BerPiNbiot.Text

/-! ## The text -/

/-- The arguments of `rt_sprintf`, within what their types and the fields of
`nb_device_table` can hold. -/
structure Values where
  temperature : Int
  temperatureTenths : Int
  humidity : Int
  humidityTenths : Int
  luxValue : UInt16
  ppm : UInt8
  ledflag : UInt8
  csqPub : Int
  imeiInfo : Bytes
  doorSta : UInt8
  temperature_range : intMin ≤ temperature ∧ temperature ≤ intMax
  temperatureTenths_range : -9 ≤ temperatureTenths ∧ temperatureTenths ≤ 9
  humidity_range : intMin ≤ humidity ∧ humidity ≤ intMax
  humidityTenths_range : -9 ≤ humidityTenths ∧ humidityTenths ≤ 9
  csqPub_range : intMin ≤ csqPub ∧ csqPub ≤ intMax
  imeiInfo_noNul : 0 ∉ imeiInfo
  imeiInfo_length : imeiInfo.length ≤ 15

/-- What `rt_sprintf` writes to `NB_SendDataBuff`. -/
def formatData (values : Values) : Bytes :=
  ascii "\x7b\"temperature\":" ++ printPoint values.temperature values.temperatureTenths ++
    ascii ",\"humidity\":" ++ printPoint values.humidity values.humidityTenths ++
    ascii ",\"lux\":" ++ printInt values.luxValue.toNat ++
    ascii ",\"MQ2\":" ++ printInt values.ppm.toNat ++
    ascii ",\"led_sta\":" ++ printInt values.ledflag.toNat ++
    ascii ",\"csq_val\":" ++ printInt values.csqPub ++
    ascii ",\"imei\":" ++ values.imeiInfo ++
    ascii ",\"door_sta\":" ++ printInt values.doorSta.toNat ++ ascii "\x7d"

/-- The globals that `send_data_entry` reads; the imei has been read from the
module or is empty. -/
structure Reading extends Sensors where
  ledflag : UInt8
  csqPub : Int
  imeiInfo : Bytes
  doorSta : UInt8
  csqPub_range : intMin ≤ csqPub ∧ csqPub ≤ intMax
  imeiInfo_isDigit : ∀ byte ∈ imeiInfo, isDigit byte = true
  imeiInfo_length : imeiInfo.length ≤ 15

/-- The arguments computed from the globals. -/
def Reading.values (reading : Reading) : Values where
  temperature := truncate reading.temperature
  temperatureTenths := (truncate (reading.temperature * 10)).tmod 10
  humidity := truncate reading.humidity
  humidityTenths := (truncate (reading.humidity * 10)).tmod 10
  luxValue := reading.luxValue
  ppm := reading.ppm
  ledflag := reading.ledflag
  csqPub := reading.csqPub
  imeiInfo := reading.imeiInfo
  doorSta := reading.doorSta
  temperature_range := by
    have low : -40 ≤ truncate reading.temperature :=
      le_truncate (by exact_mod_cast reading.temperature_ge)
    have high : truncate reading.temperature ≤ 125 :=
      truncate_le (by exact_mod_cast reading.temperature_le)
    rw [intMin, intMax]
    omega
  temperatureTenths_range := tmod_ten_bounds _
  humidity_range := by
    have low : 0 ≤ truncate reading.humidity := truncate_nonneg reading.humidity_nonneg
    have high : truncate reading.humidity ≤ 100 :=
      truncate_le (by exact_mod_cast reading.humidity_le)
    rw [intMin, intMax]
    omega
  humidityTenths_range := tmod_ten_bounds _
  csqPub_range := reading.csqPub_range
  imeiInfo_noNul := by
    intro member
    have digit := reading.imeiInfo_isDigit 0 member
    contradiction
  imeiInfo_length := reading.imeiInfo_length

/-- The text of the globals. -/
def sendData (reading : Reading) : Bytes :=
  formatData reading.values

/-- A reading truncated toward zero to one decimal. -/
def oneDecimal (x : ℚ) : ℚ :=
  truncate (x * 10) / 10

/-- The object that the text is to carry. -/
def Reading.members (reading : Reading) : List (Bytes × Json) :=
  [(ascii "temperature", .number (oneDecimal reading.temperature)),
    (ascii "humidity", .number (oneDecimal reading.humidity)),
    (ascii "lux", .number reading.luxValue.toNat),
    (ascii "MQ2", .number reading.ppm.toNat),
    (ascii "led_sta", .number reading.ledflag.toNat),
    (ascii "csq_val", .number reading.csqPub),
    (ascii "imei", .number (digitsValue 0 reading.imeiInfo)),
    (ascii "door_sta", .number reading.doorSta.toNat)]

/-- The text is a JSON object with the members of the reading. -/
def Carried (reading : Reading) : Prop :=
  readJson (sendData reading) = some (.object reading.members)

/-- The fields in front of the imei. -/
def Reading.measured (reading : Reading) : List Member :=
  [⟨ascii "humidity", printTenths reading.humidity, .number (oneDecimal reading.humidity)⟩,
    ⟨ascii "lux", printInt reading.luxValue.toNat, .number reading.luxValue.toNat⟩,
    ⟨ascii "MQ2", printInt reading.ppm.toNat, .number reading.ppm.toNat⟩,
    ⟨ascii "led_sta", printInt reading.ledflag.toNat, .number reading.ledflag.toNat⟩,
    ⟨ascii "csq_val", printInt reading.csqPub, .number reading.csqPub⟩]

/-- The field of the temperature. -/
def Reading.temperatureField (reading : Reading) : Member :=
  ⟨ascii "temperature", printTenths reading.temperature, .number (oneDecimal reading.temperature)⟩

/-- The field of the module's number. -/
def Reading.imeiField (reading : Reading) : Member :=
  ⟨ascii "imei", reading.imeiInfo, .number (digitsValue 0 reading.imeiInfo)⟩

/-- The field of the door. -/
def Reading.doorField (reading : Reading) : Member :=
  ⟨ascii "door_sta", printInt reading.doorSta.toNat, .number reading.doorSta.toNat⟩

/-- The fields of the text with their values. -/
def Reading.fields (reading : Reading) : List Member :=
  reading.temperatureField :: reading.measured ++ [reading.imeiField, reading.doorField]

theorem sendData_eq_objectText (reading : Reading) :
    sendData reading = objectText reading.fields := by
  have temperature :
      ascii "\x7b\"temperature\":" = 123 :: 34 :: (ascii "temperature" ++ [34, 58]) := rfl
  have humidity : ascii ",\"humidity\":" = 44 :: 34 :: (ascii "humidity" ++ [34, 58]) := rfl
  have lux : ascii ",\"lux\":" = 44 :: 34 :: (ascii "lux" ++ [34, 58]) := rfl
  have mq2 : ascii ",\"MQ2\":" = 44 :: 34 :: (ascii "MQ2" ++ [34, 58]) := rfl
  have ledSta : ascii ",\"led_sta\":" = 44 :: 34 :: (ascii "led_sta" ++ [34, 58]) := rfl
  have csqVal : ascii ",\"csq_val\":" = 44 :: 34 :: (ascii "csq_val" ++ [34, 58]) := rfl
  have imei : ascii ",\"imei\":" = 44 :: 34 :: (ascii "imei" ++ [34, 58]) := rfl
  have doorSta : ascii ",\"door_sta\":" = 44 :: 34 :: (ascii "door_sta" ++ [34, 58]) := rfl
  have brace : ascii "\x7d" = [125] := rfl
  simp only [sendData, formatData, Reading.values, printTenths, objectText, Reading.fields,
    Reading.temperatureField, Reading.measured, Reading.imeiField, Reading.doorField, membersText,
    temperature, humidity, lux, mq2, ledSta, csqVal, imei, doorSta, brace, List.append_assoc,
    List.cons_append, List.nil_append]

/-! ## The values -/

/-- The digits on both sides of the point are those of the reading. -/
theorem oneDecimal_eq {x : ℚ} {tenths : Nat} (same : (truncate (x * 10)).tmod 10 = tenths) :
    oneDecimal x =
      if truncate x < 0 then -((truncate x).natAbs + tenths / 10 : ℚ)
      else (truncate x).natAbs + tenths / 10 := by
  have parts := Int.tmod_add_mul_tdiv (truncate (x * 10)) 10
  have small := Int.tmod_lt_of_pos (truncate (x * 10)) (by decide : (0 : Int) < 10)
  rw [same] at parts small
  rw [← truncate_eq_tdiv] at parts
  have value : oneDecimal x = truncate x + tenths / 10 := by
    rw [oneDecimal, ← parts]
    push_cast
    ring
  rw [value, Nat.cast_natAbs]
  split <;> rename_i sign
  · -- the remainder has the sign of the reading, so it is zero
    have zero : (tenths : Int) ≤ 0 := by
      rw [← same]
      exact tmod_nonpos 10 (by omega)
    have none : tenths = 0 := by omega
    rw [abs_of_neg sign, none]
    push_cast
    ring
  · rw [abs_of_nonneg (not_lt.mp sign)]

/-- Without a sign behind the point, the reading is printed to one decimal. -/
theorem readsAs_printTenths {x : ℚ} (unsigned : UnsignedTenths x) :
    ReadsAs (printTenths x) (.number (oneDecimal x)) := by
  rcases Int.eq_ofNat_of_zero_le ((tmod_truncate_nonneg_iff x).mpr unsigned) with ⟨tenths, same⟩
  have small := Int.tmod_lt_of_pos (truncate (x * 10)) (by decide : (0 : Int) < 10)
  rw [printTenths, printPoint_eq, oneDecimal_eq same, same]
  exact readsAs_tenths (truncate x) (by omega)

theorem broken_printTenths {x : ℚ} (signed : ¬ UnsignedTenths x) : Broken (printTenths x) := by
  rw [printTenths, printPoint_eq]
  apply broken_signed_tenths
  rw [← tmod_truncate_nonneg_iff] at signed
  exact not_le.mp signed

theorem unsignedTenths_humidity (reading : Reading) : UnsignedTenths reading.humidity := by
  left
  linarith [reading.humidity_nonneg]

/-- Digits without a zero in front of others. -/
def PrintableImei (imei : Bytes) : Prop :=
  imei ≠ [] ∧ ∀ rest, imei = 48 :: rest → rest = []

theorem readsAs_imei {reading : Reading} (printable : PrintableImei reading.imeiInfo) :
    ReadsAs reading.imeiInfo (.number (digitsValue 0 reading.imeiInfo)) :=
  readsAs_numeral ⟨printable.1, reading.imeiInfo_isDigit, printable.2⟩

theorem broken_imei {reading : Reading} (unprintable : ¬ PrintableImei reading.imeiInfo) :
    Broken reading.imeiInfo := by
  by_cases empty : reading.imeiInfo = []
  · rw [empty]
    exact broken_nil
  · have leading : ∃ rest, reading.imeiInfo = 48 :: rest ∧ rest ≠ [] := by
      by_contra numeral
      apply unprintable
      refine ⟨empty, ?_⟩
      intro rest same
      by_contra nonempty
      exact numeral ⟨rest, same, nonempty⟩
    rcases leading with ⟨rest, same, nonempty⟩
    have digits := reading.imeiInfo_isDigit
    rw [same] at digits ⊢
    cases rest with
    | nil => contradiction
    | cons first more =>
        exact broken_leading_zero (digits first (List.mem_cons_of_mem 48 List.mem_cons_self))

/-! ## The object -/

theorem reads_printNat {name : Bytes} (plain : PlainName name) (value : Nat) :
    Member.Reads ⟨name, printInt value, .number value⟩ := by
  have read := readsAs_printInt value
  rw [Int.cast_natCast] at read
  exact ⟨plain, read⟩

theorem plainName_temperature : PlainName (ascii "temperature") := by decide

theorem plainName_imei : PlainName (ascii "imei") := by decide

theorem reads_temperatureField {reading : Reading} (unsigned : UnsignedTenths reading.temperature) :
    reading.temperatureField.Reads :=
  ⟨plainName_temperature, readsAs_printTenths unsigned⟩

theorem reads_measured (reading : Reading) : ∀ field ∈ reading.measured, field.Reads := by
  simp only [Reading.measured, List.forall_mem_cons]
  refine ⟨?_, ?_, ?_, ?_, ?_, ?_⟩
  · have plain : PlainName (ascii "humidity") := by decide
    exact ⟨plain, readsAs_printTenths (unsignedTenths_humidity reading)⟩
  · exact reads_printNat (by decide) _
  · exact reads_printNat (by decide) _
  · exact reads_printNat (by decide) _
  · have plain : PlainName (ascii "csq_val") := by decide
    exact ⟨plain, readsAs_printInt _⟩
  · intro field member
    contradiction

theorem reads_imeiField {reading : Reading} (printable : PrintableImei reading.imeiInfo) :
    reading.imeiField.Reads :=
  ⟨plainName_imei, readsAs_imei printable⟩

theorem reads_doorField (reading : Reading) : reading.doorField.Reads :=
  reads_printNat (by decide) _

theorem carried_of_printable {reading : Reading} (unsigned : UnsignedTenths reading.temperature)
    (printable : PrintableImei reading.imeiInfo) : Carried reading := by
  have reads : ∀ field ∈ reading.fields, field.Reads := by
    simp only [Reading.fields, List.forall_mem_append, List.forall_mem_cons]
    refine ⟨⟨reads_temperatureField unsigned, reads_measured reading⟩, reads_imeiField printable,
      reads_doorField reading, List.forall_mem_nil _⟩
  rw [Carried, sendData_eq_objectText]
  exact readJson_of_reads (List.cons_ne_nil _ _) reads

/-- A sign behind the point of the temperature spoils the whole text. -/
theorem readJson_of_signed {reading : Reading} (signed : ¬ UnsignedTenths reading.temperature) :
    readJson (sendData reading) = none := by
  rw [sendData_eq_objectText]
  exact @readJson_of_broken [] _ reading.temperatureField (List.forall_mem_nil _)
    plainName_temperature (broken_printTenths signed)

/-- An imei that is not a numeral does so too. -/
theorem readJson_of_unprintable {reading : Reading}
    (unsigned : UnsignedTenths reading.temperature)
    (unprintable : ¬ PrintableImei reading.imeiInfo) : readJson (sendData reading) = none := by
  rw [sendData_eq_objectText]
  apply @readJson_of_broken (reading.temperatureField :: reading.measured) _ reading.imeiField
  · rw [List.forall_mem_cons]
    exact ⟨reads_temperatureField unsigned, reads_measured reading⟩
  · exact plainName_imei
  · exact broken_imei unprintable

/-- The text is the JSON object of its readings exactly when the tenths of the
temperature are printed without a sign and the imei is a numeral. -/
theorem carried_iff (reading : Reading) :
    Carried reading ↔ UnsignedTenths reading.temperature ∧ PrintableImei reading.imeiInfo := by
  constructor
  · intro carried
    by_cases unsigned : UnsignedTenths reading.temperature
    · refine ⟨unsigned, ?_⟩
      by_contra unprintable
      rw [Carried, readJson_of_unprintable unsigned unprintable] at carried
      contradiction
    · rw [Carried, readJson_of_signed unsigned] at carried
      contradiction
  · rintro ⟨unsigned, printable⟩
    exact carried_of_printable unsigned printable

/-- A frosty day. -/
def frosty : Reading where
  temperature := -7 / 2
  humidity := 45
  luxValue := 320
  ppm := 12
  ledflag := 1
  csqPub := 25
  imeiInfo := ascii "868474041234567"
  doorSta := 0
  temperature_ge := by norm_num
  temperature_le := by norm_num
  humidity_nonneg := by norm_num
  humidity_le := by norm_num
  csqPub_range := by decide
  imeiInfo_isDigit := List.all_eq_true.mp (by decide)
  imeiInfo_length := by decide

/-- The temperature is printed as `-3.-5`, which is no number. -/
theorem not_carried_frosty :
    printTenths frosty.temperature = ascii "-3.-5" ∧ readJson (sendData frosty) = none ∧
      ¬ Carried frosty := by
  have whole : truncate frosty.temperature = -3 := by
    rw [frosty, truncate_of_neg (by norm_num), Int.ceil_eq_iff]
    norm_num
  have tenths : truncate (frosty.temperature * 10) = -35 := by
    rw [frosty, truncate_of_neg (by norm_num), Int.ceil_eq_iff]
    norm_num
  have signed : ¬ UnsignedTenths frosty.temperature := by
    rw [← tmod_truncate_nonneg_iff, tenths]
    decide
  have unread := readJson_of_signed signed
  refine ⟨?_, unread, ?_⟩
  · rw [printTenths, whole, tenths]
    rfl
  · rw [Carried, unread]
    exact (Option.some_ne_none _).symm

end BerPiNbiot.App.Telemetry
