import BerPiNbiot.Text.Search
import BerPiNbiot.Transition.Streak

/-!
# The gas alarm

`app_adc_thread_entry` converts a sample of the ADC to hundredths of a volt and
counts the samples at or above the threshold.  From the fifth one in a row on it
writes "Warn" to the LCD, below the threshold it writes "Safe".

The converted sample is stored in eight bits, so a sample from 3178 on is read as
256 less than it is.
-/

namespace BerPiNbiot.App.Gas

open BerPiNbiot.Text
open BerPiNbiot.Transition

/-- A sample of the 12-bit ADC with the threshold `set_adc` in force. -/
structure Sample where
  value : Nat
  setAdc : UInt8
  value_lt : value < 4096
  deriving DecidableEq

/-- The converted sample, `value * REFER_VOLTAGE / CONVERT_BITS`. -/
def Sample.concentration (sample : Sample) : Nat :=
  sample.value * 330 / 4096

/-- The globals of the thread and the text it last wrote to the LCD. -/
structure Alarm where
  ppm : UInt8 := 0
  ppmWarn : UInt8 := 0
  label : Option Bytes := none
  deriving DecidableEq

/-- The branches on the threshold. -/
def count (sample : Sample) (alarm : Alarm) : Alarm :=
  let alarm := { alarm with ppm := UInt8.ofNat sample.concentration }
  if alarm.ppm ≥ sample.setAdc then
    let ppmWarn := alarm.ppmWarn + 1
    { alarm with ppmWarn := if ppmWarn = 200 then 1 else ppmWarn }
  else
    { alarm with ppmWarn := 0, label := some (ascii "Safe") }

/-- A turn of `app_adc_thread_entry`. -/
def turn (alarm : Alarm) (sample : Sample) : Alarm :=
  let alarm := count sample alarm
  if alarm.ppmWarn ≥ 5 then { alarm with label := some (ascii "Warn") } else alarm

/-- The thread after a history of samples. -/
def after (history : List Sample) : Alarm :=
  history.foldl turn {}

/-! ## What the thread shows -/

/-- The concentration is at or above the threshold. -/
def Sample.high (sample : Sample) : Bool :=
  sample.setAdc.toNat ≤ sample.concentration

/-- The stored eight bits are at or above the threshold. -/
def Sample.counted (sample : Sample) : Bool :=
  sample.setAdc.toNat ≤ sample.concentration % 256

/-- The eight bits fall below a threshold that the concentration reaches. -/
def Sample.Misread (sample : Sample) : Prop :=
  256 ≤ sample.concentration ∧ sample.concentration - 256 < sample.setAdc.toNat

theorem Sample.concentration_lt (sample : Sample) : sample.concentration < 512 := by
  have bound := sample.value_lt
  unfold concentration
  omega

theorem Sample.high_of_counted (sample : Sample) (counted : sample.counted = true) :
    sample.high = true := by
  rw [Sample.counted, decide_eq_true_eq] at counted
  rw [high, decide_eq_true_eq]
  exact counted.trans (Nat.mod_le _ _)

theorem Sample.counted_iff_of_high {sample : Sample} (high : sample.high = true) :
    sample.counted = true ↔ ¬ sample.Misread := by
  have bound := sample.concentration_lt
  rw [Sample.high, decide_eq_true_eq] at high
  rw [counted, decide_eq_true_eq, Misread]
  omega

/-- The number of counted samples in a row decides what is shown. -/
structure Shown (counted : Nat) (alarm : Alarm) : Prop where
  ppmWarn : counted < 200 → alarm.ppmWarn.toNat = counted
  bounded : alarm.ppmWarn.toNat < 200
  warns : alarm.label = some (ascii "Warn") ↔ 5 ≤ counted

theorem shown_initial : Shown 0 {} := by
  refine ⟨fun _ => rfl, by decide, ?_⟩
  constructor
  · intro warns
    contradiction
  · intro long
    contradiction

theorem count_of_counted {sample : Sample} (counted : sample.counted = true) (alarm : Alarm) :
    count sample alarm = { alarm with
      ppm := UInt8.ofNat sample.concentration
      ppmWarn := if alarm.ppmWarn + 1 = 200 then 1 else alarm.ppmWarn + 1 } := by
  have reached : UInt8.ofNat sample.concentration ≥ sample.setAdc := by
    rw [Sample.counted, decide_eq_true_eq] at counted
    rw [ge_iff_le, UInt8.le_iff_toNat_le, UInt8.toNat_ofNat']
    exact counted
  simp only [count, if_pos reached]

theorem count_of_not_counted {sample : Sample} (missed : sample.counted = false) (alarm : Alarm) :
    count sample alarm = { alarm with
      ppm := UInt8.ofNat sample.concentration
      ppmWarn := 0
      label := some (ascii "Safe") } := by
  have below : ¬ UInt8.ofNat sample.concentration ≥ sample.setAdc := by
    rw [Sample.counted, decide_eq_false_iff_not] at missed
    rw [ge_iff_le, UInt8.le_iff_toNat_le, UInt8.toNat_ofNat']
    exact missed
  simp only [count, if_neg below]

theorem turn_of_not_counted {sample : Sample} (missed : sample.counted = false) (alarm : Alarm) :
    turn alarm sample = { alarm with
      ppm := UInt8.ofNat sample.concentration
      ppmWarn := 0
      label := some (ascii "Safe") } := by
  rw [turn, count_of_not_counted missed]
  rfl

/-- The counter goes back to one in place of 200. -/
theorem toNat_next {ppmWarn : UInt8} (bounded : ppmWarn.toNat < 200) :
    (if ppmWarn + 1 = 200 then 1 else ppmWarn + 1).toNat =
      if ppmWarn.toNat + 1 = 200 then 1 else ppmWarn.toNat + 1 := by
  have sum : (ppmWarn + 1).toNat = ppmWarn.toNat + 1 := by
    rw [UInt8.toNat_add, UInt8.toNat_one, Nat.mod_eq_of_lt (by omega)]
  have full : ppmWarn + 1 = 200 ↔ ppmWarn.toNat + 1 = 200 := by
    rw [← UInt8.toNat_inj, sum]
    rfl
  by_cases wraps : ppmWarn + 1 = 200
  · rw [if_pos wraps, if_pos (full.mp wraps)]
    rfl
  · rw [if_neg wraps, if_neg (mt full.mpr wraps), sum]

/-- A counted sample.  The counter goes back to one only in a row that is long
enough for its text to stay. -/
theorem shown_counted {counted : Nat} {alarm : Alarm} (shown : Shown counted alarm)
    {sample : Sample} (reached : sample.counted = true) :
    Shown (counted + 1) (turn alarm sample) := by
  rcases shown with ⟨ppmWarn, bounded, warns⟩
  have next := toNat_next bounded
  rw [turn, count_of_counted reached]
  generalize (if alarm.ppmWarn + 1 = 200 then 1 else alarm.ppmWarn + 1 : UInt8) = later at next ⊢
  have five : later ≥ 5 ↔ 5 ≤ later.toNat := UInt8.le_iff_toNat_le
  have exact : counted + 1 < 200 → later.toNat = counted + 1 := by
    intro short
    have before := ppmWarn (by omega)
    split at next <;> omega
  have small : later.toNat < 200 := by
    split at next <;> omega
  dsimp only
  by_cases high : later ≥ 5
  · rw [if_pos high]
    rw [five] at high
    refine ⟨exact, small, iff_of_true rfl ?_⟩
    by_contra short
    have same := exact (by omega)
    omega
  · rw [if_neg high]
    rw [five] at high
    refine ⟨exact, small, warns.trans ?_⟩
    constructor
    · intro long
      omega
    · intro long
      by_contra short
      have same := exact (by omega)
      omega

theorem shown_not_counted {sample : Sample} (missed : sample.counted = false) (alarm : Alarm) :
    Shown 0 (turn alarm sample) := by
  rw [turn_of_not_counted missed]
  refine ⟨fun _ => rfl, Nat.zero_lt_of_lt (by decide : 1 < 200), ?_⟩
  constructor
  · intro warns
    exact absurd (Option.some.inj warns) (by decide)
  · intro long
    contradiction

theorem after_concat (history : List Sample) (sample : Sample) :
    after (history ++ [sample]) = turn (after history) sample := by
  rw [after, after, List.foldl_append]
  rfl

/-- After every history the thread shows its streak of counted samples. -/
theorem shown_after (history : List Sample) :
    Shown (streak Sample.counted history).length (after history) := by
  induction history using List.reverseRecOn with
  | nil => exact shown_initial
  | append_singleton earlier sample ih =>
      rw [after_concat]
      cases reached : sample.counted with
      | true =>
          rw [streak_concat_of_pos reached, List.length_cons]
          exact shown_counted ih reached
      | false =>
          rw [streak_concat_of_neg reached, List.length_nil]
          exact shown_not_counted reached (after earlier)

/-! ## The alarm -/

/-- The label warns exactly in a row of at least five samples at or above the
threshold, and it reads "Safe" behind a sample below. -/
structure Right (history : List Sample) : Prop where
  warns : (after history).label = some (ascii "Warn") ↔ 5 ≤ (streak Sample.high history).length
  safe : ∀ earlier sample, history = earlier ++ [sample] → sample.high = false →
    (after history).label = some (ascii "Safe")
  bounded : (after history).ppmWarn.toNat ≤ 199

/-- No row of at least five samples at or above the threshold holds a misread one. -/
def Clear (samples : List Sample) : Prop :=
  ∀ history, history <+: samples → 5 ≤ (streak Sample.high history).length →
    ∀ sample ∈ streak Sample.high history, ¬ sample.Misread

theorem high_of_mem_streak {history : List Sample} {sample : Sample}
    (member : sample ∈ streak Sample.high history) : sample.high = true :=
  List.mem_takeWhile_imp member

/-- The label is right after a history exactly when both streaks are long or
neither is. -/
theorem right_iff (history : List Sample) :
    Right history ↔ (5 ≤ (streak Sample.high history).length →
      5 ≤ (streak Sample.counted history).length) := by
  have shown := shown_after history
  have shorter := length_streak_le Sample.high_of_counted history
  constructor
  · intro right long
    exact shown.warns.mp (right.warns.mpr long)
  · intro reaches
    refine ⟨?_, ?_, ?_⟩
    · rw [shown.warns]
      constructor
      · intro long
        omega
      · exact reaches
    · intro earlier sample same low
      have missed : sample.counted = false := by
        by_contra counted
        rw [Bool.not_eq_false] at counted
        rw [sample.high_of_counted counted] at low
        contradiction
      rw [same, after_concat, turn_of_not_counted missed]
    · have bounded := shown.bounded
      omega

theorem forall_right_iff (samples : List Sample) :
    (∀ history, history <+: samples → Right history) ↔ Clear samples := by
  have compare := @forall_streak_iff Sample Sample.counted Sample.high 5 (by decide)
    Sample.high_of_counted samples
  simp only [right_iff]
  rw [compare, Clear]
  constructor
  · intro counted history begins long sample member
    rw [← Sample.counted_iff_of_high (high_of_mem_streak member)]
    exact counted history begins long sample member
  · intro clear history begins long sample member
    rw [Sample.counted_iff_of_high (high_of_mem_streak member)]
    exact clear history begins long sample member

theorem high_of_le {lower higher : Sample} (same : lower.setAdc = higher.setAdc)
    (below : lower.value ≤ higher.value) (high : lower.high = true) : higher.high = true := by
  rw [Sample.high, decide_eq_true_eq, Sample.concentration] at high ⊢
  rw [← same]
  exact high.trans (Nat.div_le_div_right (Nat.mul_le_mul_right 330 below))

/-- After every sample of a sequence the label is right if and only if no row of
at least five samples at or above the threshold holds a sample that is misread.
Where this is so, a higher concentration does not turn the alarm off. -/
theorem right_iff_clear (samples : List Sample) :
    ((∀ history, history <+: samples → Right history) ↔ Clear samples) ∧
      ∀ (lower higher : Sample), lower.setAdc = higher.setAdc → lower.value ≤ higher.value →
        Clear (samples ++ [lower]) → Clear (samples ++ [higher]) →
        (after (samples ++ [lower])).label = some (ascii "Warn") →
        (after (samples ++ [higher])).label = some (ascii "Warn") := by
  refine ⟨forall_right_iff samples, ?_⟩
  intro lower higher same below lowerClear higherClear warns
  have right := (forall_right_iff _).mpr lowerClear _ (List.prefix_refl _)
  have rightHigher := (forall_right_iff _).mpr higherClear _ (List.prefix_refl _)
  have long := right.warns.mp warns
  have high : lower.high = true := by
    by_contra low
    rw [Bool.not_eq_true] at low
    rw [streak_concat_of_neg low, List.length_nil] at long
    omega
  rw [rightHigher.warns, streak_concat_of_pos (high_of_le same below high), List.length_cons]
  rw [streak_concat_of_pos high, List.length_cons] at long
  exact long

/-- Four samples above the threshold and a fifth at full scale. -/
def fullScale : List Sample :=
  let sample : Sample := { value := 1000, setAdc := 55, value_lt := by decide }
  [sample, sample, sample, sample, { value := 3178, setAdc := 55, value_lt := by decide }]

/-- The sample of 3178 is read as zero and turns the label to "Safe". -/
theorem fullScale_not_right :
    (after fullScale).label = some (ascii "Safe") ∧
      (streak Sample.high fullScale).length = 5 ∧ ¬ Right fullScale := by
  have safe : (after fullScale).label = some (ascii "Safe") := by
    decide
  have long : (streak Sample.high fullScale).length = 5 := by
    decide
  refine ⟨safe, long, ?_⟩
  intro right
  have warns := right.warns.mpr (by rw [long])
  rw [safe] at warns
  exact absurd (Option.some.inj warns) (by decide)

end BerPiNbiot.App.Gas
