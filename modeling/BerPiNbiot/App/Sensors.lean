import BerPiNbiot.Text.Decimal
import Mathlib.Data.Rat.Floor
import Mathlib.Tactic.Linarith

/-!
# Readings of the sensors

Temperature and humidity are exact rationals in the range of the sensor.  The
application prints them as two integers with a point between them, the second of
which has a sign of its own.
-/

namespace BerPiNbiot.App.Telemetry

open BerPiNbiot.Text

/-! ## Truncation -/

/-- The conversion `(int) x`. -/
def truncate (x : ℚ) : Int :=
  if x < 0 then ⌈x⌉ else ⌊x⌋

theorem truncate_of_nonneg {x : ℚ} (nonneg : 0 ≤ x) : truncate x = ⌊x⌋ :=
  if_neg (not_lt.mpr nonneg)

theorem truncate_of_neg {x : ℚ} (negative : x < 0) : truncate x = ⌈x⌉ :=
  if_pos negative

theorem truncate_nonneg {x : ℚ} (nonneg : 0 ≤ x) : 0 ≤ truncate x := by
  rw [truncate_of_nonneg nonneg]
  exact Int.floor_nonneg.mpr nonneg

theorem truncate_nonpos {x : ℚ} (negative : x < 0) : truncate x ≤ 0 := by
  rw [truncate_of_neg negative]
  exact Int.ceil_le.mpr (by exact_mod_cast negative.le)

theorem le_truncate {low : Int} {x : ℚ} (above : (low : ℚ) ≤ x) : low ≤ truncate x := by
  rw [truncate]
  split
  · exact_mod_cast above.trans (Int.le_ceil x)
  · exact Int.le_floor.mpr above

theorem truncate_le {high : Int} {x : ℚ} (below : x ≤ high) : truncate x ≤ high := by
  rw [truncate]
  split
  · exact Int.ceil_le.mpr below
  · exact_mod_cast (Int.floor_le x).trans below

/-- The whole part of a reading is that of its tenths. -/
theorem truncate_eq_tdiv (x : ℚ) : truncate x = (truncate (x * 10)).tdiv 10 := by
  have floor : ∀ y : ℚ, ⌊y⌋ = ⌊y * 10⌋ / 10 := by
    intro y
    have scaled := Int.floor_div_natCast (y * 10) 10
    rwa [Nat.cast_ofNat, Nat.cast_ofNat, mul_div_cancel_right₀ y (by norm_num)] at scaled
  have ceil : ∀ y : ℚ, ⌈y⌉ = -⌊-y⌋ := by
    intro y
    rw [Int.floor_neg, neg_neg]
  by_cases negative : x < 0
  · have tenths : x * 10 < 0 := by linarith
    have positive : 0 ≤ ⌊-x * 10⌋ := Int.floor_nonneg.mpr (by linarith)
    rw [truncate_of_neg negative, truncate_of_neg tenths, ceil, ceil, Int.neg_tdiv, ← neg_mul,
      floor (-x), Int.tdiv_eq_ediv_of_nonneg positive]
  · have nonneg : 0 ≤ x := not_lt.mp negative
    have tenths : 0 ≤ x * 10 := by linarith
    rw [truncate_of_nonneg nonneg, truncate_of_nonneg tenths, floor x,
      Int.tdiv_eq_ediv_of_nonneg (Int.floor_nonneg.mpr tenths)]

theorem tmod_nonpos {a : Int} (b : Int) (nonpos : a ≤ 0) : a.tmod b ≤ 0 := by
  have opposite := Int.tmod_nonneg b (Int.neg_nonneg_of_nonpos nonpos)
  rw [Int.neg_tmod] at opposite
  omega

theorem tmod_ten_bounds (a : Int) : -9 ≤ a.tmod 10 ∧ a.tmod 10 ≤ 9 := by
  have small : (a.tmod 10).natAbs < 10 := by
    rw [Int.natAbs_tmod]
    exact Nat.mod_lt _ (by decide)
  omega

/-- Above minus a tenth, or less than a tenth below a whole number: what is
printed behind the point has no sign. -/
def UnsignedTenths (x : ℚ) : Prop :=
  -1 / 10 < x ∨ ∃ whole : Int, x ≤ whole ∧ whole < x + 1 / 10

theorem tmod_truncate_nonneg_iff (x : ℚ) :
    0 ≤ (truncate (x * 10)).tmod 10 ↔ UnsignedTenths x := by
  by_cases negative : x < 0
  · have tenths : x * 10 < 0 := by linarith
    have nonpos := truncate_nonpos tenths
    rw [truncate_of_neg tenths] at nonpos ⊢
    constructor
    · intro unsigned
      right
      have zero : ⌈x * 10⌉.tmod 10 = 0 := le_antisymm (tmod_nonpos 10 nonpos) unsigned
      rcases Int.dvd_of_tmod_eq_zero zero with ⟨whole, same⟩
      have above := Int.le_ceil (x * 10)
      have below := Int.ceil_lt_add_one (x * 10)
      rw [same] at above below
      push_cast at above below
      refine ⟨whole, ?_, ?_⟩
      · linarith
      · linarith
    · rintro (small | ⟨whole, above, below⟩)
      · have zero : ⌈x * 10⌉ = 0 :=
          Int.ceil_eq_iff.mpr ⟨by push_cast; linarith, by push_cast; linarith⟩
        rw [zero]
        decide
      · have same : ⌈x * 10⌉ = 10 * whole :=
          Int.ceil_eq_iff.mpr ⟨by push_cast; linarith, by push_cast; linarith⟩
        rw [same, Int.mul_tmod_right]
  · have nonneg : 0 ≤ x := not_lt.mp negative
    constructor
    · intro _
      left
      linarith
    · intro _
      exact Int.tmod_nonneg 10 (truncate_nonneg (by linarith))

/-! ## The readings -/

/-- The globals of the sensor threads. -/
structure Sensors where
  temperature : ℚ
  humidity : ℚ
  luxValue : UInt16
  ppm : UInt8
  temperature_ge : -40 ≤ temperature
  temperature_le : temperature ≤ 125
  humidity_nonneg : 0 ≤ humidity
  humidity_le : humidity ≤ 100

/-- The conversion `%d.%d`. -/
def printPoint (whole tenths : Int) : Bytes :=
  printInt whole ++ ascii "." ++ printInt tenths

/-- The conversion `%d.%d` of `(int) x` and `(int) (x * 10) % 10`. -/
def printTenths (x : ℚ) : Bytes :=
  printPoint (truncate x) ((truncate (x * 10)).tmod 10)

theorem printPoint_eq (whole tenths : Int) :
    printPoint whole tenths = printInt whole ++ 46 :: printInt tenths := by
  have point : ascii "." = [46] := rfl
  rw [printPoint, point, List.append_assoc]
  rfl

/-! ## Widths -/

theorem length_ascii (literal : String) : (ascii literal).length = literal.length := by
  rw [ascii, List.length_map, String.length_toList]

theorem length_printInt_le {value : Int} {k : Nat} (positive : 0 < k)
    (bounded : value.natAbs < 10 ^ k) : (printInt value).length ≤ k + 1 := by
  have digits := length_decimal_le positive bounded
  unfold printInt
  split
  · rw [List.length_cons]
    omega
  · omega

theorem length_printNat_le {value k : Nat} (positive : 0 < k) (bounded : value < 10 ^ k) :
    (printInt value).length ≤ k := by
  have digits := length_decimal_le positive bounded
  have print : printInt value = decimal value := rfl
  rw [print]
  exact digits

end BerPiNbiot.App.Telemetry
