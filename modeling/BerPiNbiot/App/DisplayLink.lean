import BerPiNbiot.App.Sensors
import BerPiNbiot.Text.Memory

/-!
# The frame for the display

`lpuart1_serial_thread` clears a buffer of 56 bytes, formats the readings of the
sensors into it without a bound and writes all of it but the last byte to the
UART.  The text around the numbers takes 42 bytes, which leaves 13 for the
numbers.
-/

namespace BerPiNbiot.App.Telemetry

open BerPiNbiot.Text

/-! ## The buffer -/

/-- What `rt_sprintf` writes to `UART_SendDataBuff`. -/
def uartText (sensors : Sensors) : Bytes :=
  ascii "\x7b\"temperature\":" ++ printTenths sensors.temperature ++
    ascii ",\"humidity\":" ++ printTenths sensors.humidity ++
    ascii ",\"lux\":" ++ printInt sensors.luxValue.toNat ++
    ascii ",\"ppm\":" ++ printInt sensors.ppm.toNat ++ ascii "\x7d"

/-- `sizeof(UART_SendDataBuff)` -/
def uartSendDataBuffSize : Nat := 56

/-- The stores of `rt_memset` and `rt_sprintf`. -/
def uartStores (sensors : Sensors) : List Store :=
  memsetAt 0 0 uartSendDataBuffSize ++ sprintfAt 0 (uartText sensors)

/-- What a turn of `lpuart1_serial_thread` writes to the UART. -/
def uartFrame (memory : Memory) (sensors : Sensors) : Bytes :=
  (memory.after (uartStores sensors)).load 0 (uartSendDataBuffSize - 1)

/-- The text fits with its terminator, and the frame is the whole text and zero
bytes. -/
def Complete (memory : Memory) (sensors : Sensors) : Prop :=
  (uartText sensors).length + 1 ≤ uartSendDataBuffSize ∧
    ∃ count, uartFrame memory sensors = uartText sensors ++ List.replicate count 0

/-- A text that fits is followed by the zeros of `rt_memset`. -/
theorem complete_iff_fits (memory : Memory) (sensors : Sensors) :
    Complete memory sensors ↔ (uartText sensors).length + 1 ≤ uartSendDataBuffSize := by
  constructor
  · exact fun complete => complete.1
  · intro fits
    exact ⟨fits, _, memory.load_sprintf_cleared fits⟩

/-! ## Widths -/

/-- The number of decimal digits of a number below 100000. -/
def digitCount (n : Nat) : Nat :=
  if n < 10 then 1 else if n < 100 then 2 else if n < 1000 then 3 else if n < 10000 then 4 else 5

theorem length_decimal {n : Nat} (bounded : n < 100000) : (decimal n).length = digitCount n := by
  have one := @length_decimal_le_iff n 1 (by decide)
  have two := @length_decimal_le_iff n 2 (by decide)
  have three := @length_decimal_le_iff n 3 (by decide)
  have four := @length_decimal_le_iff n 4 (by decide)
  have five := @length_decimal_le_iff n 5 (by decide)
  have positive := List.length_pos_iff.mpr (decimal_ne_nil n)
  unfold digitCount
  split_ifs <;> omega

theorem length_printInt {value : Int} (bounded : value.natAbs < 100000) :
    (printInt value).length = (if value < 0 then 1 else 0) + digitCount value.natAbs := by
  rw [← length_decimal bounded, printInt]
  split
  · rw [List.length_cons, Nat.add_comm]
  · rw [Nat.zero_add]

instance (x : ℚ) : Decidable (UnsignedTenths x) :=
  decidable_of_iff _ (tmod_truncate_nonneg_iff x)

/-- The width of a printed reading: sign and digits of the whole part, the point,
and one digit behind it, which has a sign of its own below zero. -/
def tenthsWidth (x : ℚ) : Nat :=
  (if x ≤ -1 then 1 else 0) + digitCount ⌊|x|⌋₊ + 1 + if UnsignedTenths x then 1 else 2

theorem truncate_neg_iff (x : ℚ) : truncate x < 0 ↔ x ≤ -1 := by
  by_cases negative : x < 0
  · have below : ⌈x⌉ < 0 ↔ ⌈x⌉ ≤ -1 := by omega
    rw [truncate_of_neg negative, below, Int.ceil_le]
    norm_num
  · have nonneg : 0 ≤ x := not_lt.mp negative
    have whole := truncate_nonneg nonneg
    constructor
    · intro below
      omega
    · intro below
      linarith

theorem natAbs_truncate (x : ℚ) : (truncate x).natAbs = ⌊|x|⌋₊ := by
  by_cases negative : x < 0
  · have floor : 0 ≤ ⌊-x⌋ := Int.floor_nonneg.mpr (by linarith)
    rw [truncate_of_neg negative, abs_of_neg negative, ← Int.floor_toNat]
    rw [Int.floor_neg] at floor ⊢
    omega
  · have nonneg : 0 ≤ x := not_lt.mp negative
    have floor : 0 ≤ ⌊x⌋ := Int.floor_nonneg.mpr nonneg
    rw [truncate_of_nonneg nonneg, abs_of_nonneg nonneg, ← Int.floor_toNat]
    omega

theorem length_printTenths {x : ℚ} (bounded : |x| < 100000) :
    (printTenths x).length = tenthsWidth x := by
  have small : (truncate x).natAbs < 100000 := by
    rw [natAbs_truncate, Nat.floor_lt (abs_nonneg x)]
    exact_mod_cast bounded
  have range := tmod_ten_bounds (truncate (x * 10))
  have digit : digitCount ((truncate (x * 10)).tmod 10).natAbs = 1 := if_pos (by omega)
  have front := length_printInt small
  have behind := @length_printInt ((truncate (x * 10)).tmod 10) (by omega)
  rw [digit] at behind
  rw [printTenths, printPoint_eq, List.length_append, List.length_cons, front, behind, tenthsWidth,
    natAbs_truncate]
  simp only [truncate_neg_iff, ← tmod_truncate_nonneg_iff]
  split_ifs <;> omega

/-! ## The frame -/

theorem length_uartText (sensors : Sensors) :
    (uartText sensors).length =
      42 + (tenthsWidth sensors.temperature + tenthsWidth sensors.humidity +
        digitCount sensors.luxValue.toNat + digitCount sensors.ppm.toNat) := by
  have temperature :
      (printTenths sensors.temperature).length = tenthsWidth sensors.temperature := by
    have low := sensors.temperature_ge
    have high := sensors.temperature_le
    exact length_printTenths (abs_lt.mpr ⟨by linarith, by linarith⟩)
  have humidity : (printTenths sensors.humidity).length = tenthsWidth sensors.humidity := by
    have low := sensors.humidity_nonneg
    have high := sensors.humidity_le
    exact length_printTenths (abs_lt.mpr ⟨by linarith, by linarith⟩)
  have lux : (printInt sensors.luxValue.toNat).length = digitCount sensors.luxValue.toNat := by
    have bound := sensors.luxValue.toNat_lt
    exact length_decimal (by omega)
  have ppm : (printInt sensors.ppm.toNat).length = digitCount sensors.ppm.toNat := by
    have bound := sensors.ppm.toNat_lt
    exact length_decimal (by omega)
  have literals : "\x7b\"temperature\":".length = 15 ∧ ",\"humidity\":".length = 12 ∧
      ",\"lux\":".length = 7 ∧ ",\"ppm\":".length = 7 ∧ "\x7d".length = 1 := by
    decide
  simp only [uartText, List.length_append, length_ascii, temperature, humidity, lux, ppm]
  omega

/-- The frame is complete exactly when the four numbers take at most 13 bytes. -/
theorem complete_iff (memory : Memory) (sensors : Sensors) :
    Complete memory sensors ↔
      tenthsWidth sensors.temperature + tenthsWidth sensors.humidity +
        digitCount sensors.luxValue.toNat + digitCount sensors.ppm.toNat ≤ 13 := by
  rw [complete_iff_fits, length_uartText, uartSendDataBuffSize]
  omega

/-- A bright room. -/
def brightRoom : Sensors where
  temperature := 51 / 2
  humidity := 60
  luxValue := 1200
  ppm := 50
  temperature_ge := by norm_num
  temperature_le := by norm_num
  humidity_nonneg := by norm_num
  humidity_le := by norm_num

/-- The closing brace is not transmitted. -/
theorem not_complete_brightRoom :
    uartText brightRoom =
        ascii "\x7b\"temperature\":25.5,\"humidity\":60.0,\"lux\":1200,\"ppm\":50\x7d" ∧
      (uartText brightRoom).length = 56 ∧ ¬ Complete (fun _ => 0) brightRoom := by
  have text : uartText brightRoom =
      ascii "\x7b\"temperature\":25.5,\"humidity\":60.0,\"lux\":1200,\"ppm\":50\x7d" := by
    have temperature : printTenths brightRoom.temperature = ascii "25.5" := by
      have whole : truncate brightRoom.temperature = 25 := by
        rw [brightRoom, truncate_of_nonneg (by norm_num), Int.floor_eq_iff]
        norm_num
      have tenths : truncate (brightRoom.temperature * 10) = 255 := by
        rw [brightRoom, truncate_of_nonneg (by norm_num), Int.floor_eq_iff]
        norm_num
      rw [printTenths, whole, tenths]
      rfl
    have humidity : printTenths brightRoom.humidity = ascii "60.0" := by
      have whole : truncate brightRoom.humidity = 60 := by
        rw [brightRoom, truncate_of_nonneg (by norm_num), Int.floor_eq_iff]
        norm_num
      have tenths : truncate (brightRoom.humidity * 10) = 600 := by
        rw [brightRoom, truncate_of_nonneg (by norm_num), Int.floor_eq_iff]
        norm_num
      rw [printTenths, whole, tenths]
      rfl
    rw [uartText, temperature, humidity]
    rfl
  have length : (uartText brightRoom).length = 56 := by
    rw [text]
    decide
  refine ⟨text, length, ?_⟩
  rw [complete_iff_fits, length, uartSendDataBuffSize]
  decide

end BerPiNbiot.App.Telemetry
