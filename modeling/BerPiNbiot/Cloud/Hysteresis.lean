import BerPiNbiot.Cloud.Outputs

/-!
# The automatic lamp

In automatic mode the light sensor's thread counts dark samples up and bright
ones down.  The lamp is switched on while the counter is at least five and off by
a bright sample at zero, so from the last switching on there are five more bright
samples than dark ones before it goes off.

The counter goes from 199 back to one.  A run in which no dark sample comes at 199
keeps the distance.
-/

namespace BerPiNbiot.Cloud

open BerPiNbiot.Text
open BerPiNbiot.Transition

/-! ## Turns of the thread -/

/-- The globals of the light sensor's thread with the board. -/
abbrev Watch := Light × Board

/-- A turn of the thread with its effects on the board. -/
def lightStep (watch : Watch) (sample : Option Int) : Watch :=
  let (light, actions) := lightTurn sample watch.1 watch.2
  (light, actions.foldl Board.act watch.2)

theorem outputStep_sample (cJsonParse : Bytes → Option CJson) (state : Outputs)
    (sample : Option Int) :
    outputStep cJsonParse state (.sample sample) =
      some { state with
        light := (lightStep (state.light, state.board) sample).1
        board := (lightStep (state.light, state.board) sample).2 } :=
  rfl

/-- `lux_value <= set_lux` after the sensor has been read. -/
def Watch.dark (watch : Watch) (sample : Option Int) : Bool :=
  (lightRead sample watch.1).luxValue ≤ watch.2.setLux

/-- The counter. -/
def Watch.warn (watch : Watch) : Nat :=
  watch.1.warnLux.toNat

/-- The counter behind a sample; below zero it stays. -/
def warnNext (dark : Bool) (warn : Nat) : Nat :=
  if dark then if warn + 1 ≥ 200 then 1 else warn + 1 else warn - 1

/-- The lamp behind a sample, given the counter in front of it and behind it. -/
def lampNext (dark : Bool) (before after : Nat) (lamp : Level) : Level :=
  if 5 ≤ after then .high else if dark = false ∧ before = 0 then .low else lamp

/-- What a turn in automatic mode does. -/
structure Turned (watch : Watch) (dark : Bool) (target : Watch) : Prop where
  warn : target.warn = warnNext dark watch.warn
  lamp : target.2.led3 = lampNext dark watch.warn target.warn watch.2.led3
  autoFlag : target.2.autoFlag = watch.2.autoFlag
  setLux : target.2.setLux = watch.2.setLux

/-- The second half of a turn. -/
theorem lightSwitch_effect (light : Light) (board : Board) :
    ((lightSwitch light).foldl Board.act board).led3 =
        (if 5 ≤ light.warnLux.toNat then .high else board.led3) ∧
      ((lightSwitch light).foldl Board.act board).autoFlag = board.autoFlag ∧
      ((lightSwitch light).foldl Board.act board).setLux = board.setLux := by
  have five : light.warnLux ≥ 5 ↔ 5 ≤ light.warnLux.toNat := UInt8.le_iff_toNat_le
  by_cases enough : light.warnLux ≥ 5
  · rw [lightSwitch, if_pos enough, if_pos (five.mp enough)]
    exact ⟨rfl, rfl, rfl⟩
  · rw [lightSwitch, if_neg enough, if_neg (mt five.mpr enough)]
    exact ⟨rfl, rfl, rfl⟩

theorem toNat_warnLux_dark {warnLux : UInt8} (bounded : warnLux.toNat < 200) :
    (if warnLux + 1 ≥ 200 then 1 else warnLux + 1).toNat = warnNext true warnLux.toNat := by
  have sum : (warnLux + 1).toNat = warnLux.toNat + 1 := by
    rw [UInt8.toNat_add, UInt8.toNat_one, Nat.mod_eq_of_lt (by omega)]
  have full : warnLux + 1 ≥ 200 ↔ warnLux.toNat + 1 ≥ 200 := by
    rw [ge_iff_le, UInt8.le_iff_toNat_le, sum]
    rfl
  rw [warnNext, if_pos rfl]
  by_cases wraps : warnLux + 1 ≥ 200
  · rw [if_pos wraps, if_pos (full.mp wraps)]
    rfl
  · rw [if_neg wraps, if_neg (mt full.mpr wraps), sum]

/-- The first half of a turn. -/
theorem lightCount_effect {light : Light} (bounded : light.warnLux.toNat < 200) (setLux : UInt16)
    (board : Board) :
    (lightCount light setLux).1.warnLux.toNat =
        warnNext (light.luxValue ≤ setLux) light.warnLux.toNat ∧
      ((lightCount light setLux).2.foldl Board.act board).led3 =
        (if decide (light.luxValue ≤ setLux) = false ∧ light.warnLux.toNat = 0 then .low
          else board.led3) ∧
      ((lightCount light setLux).2.foldl Board.act board).autoFlag = board.autoFlag ∧
      ((lightCount light setLux).2.foldl Board.act board).setLux = board.setLux := by
  by_cases dark : light.luxValue ≤ setLux
  · simp only [lightCount, if_pos dark, decide_eq_true dark]
    refine ⟨toNat_warnLux_dark bounded, ?_, rfl, rfl⟩
    rw [if_neg]
    · rfl
    · rintro ⟨bright, _⟩
      contradiction
  · simp only [lightCount, if_neg dark, decide_eq_false dark]
    have zero : light.warnLux = 0 ↔ light.warnLux.toNat = 0 := by
      rw [← UInt8.toNat_inj]
      rfl
    by_cases empty : light.warnLux = 0
    · rw [if_pos empty, if_pos ⟨trivial, zero.mp empty⟩]
      refine ⟨?_, rfl, rfl, rfl⟩
      rw [empty]
      rfl
    · have positive : light.warnLux.toNat ≠ 0 := mt zero.mpr empty
      rw [if_neg empty, if_neg fun both => positive both.2]
      refine ⟨?_, rfl, rfl, rfl⟩
      rw [warnNext, if_neg Bool.false_ne_true]
      exact UInt8.toNat_sub_of_le _ _ (by
        rw [UInt8.le_iff_toNat_le, UInt8.toNat_one]
        omega)

theorem turned_lightStep {watch : Watch} (automatic : watch.2.autoFlag = 1)
    (bounded : watch.warn < 200) (sample : Option Int) :
    Turned watch (watch.dark sample) (lightStep watch sample) := by
  rcases watch with ⟨light, board⟩
  have same : (lightRead sample light).warnLux = light.warnLux := by
    cases sample <;> rfl
  have small : (lightRead sample light).warnLux.toNat < 200 := by
    rw [same]
    exact bounded
  rcases lightCount_effect small board.setLux board with ⟨warn, lamp, autoFlag, setLux⟩
  rcases lightSwitch_effect (lightCount (lightRead sample light) board.setLux).1
    ((lightCount (lightRead sample light) board.setLux).2.foldl Board.act board) with
    ⟨switched, switchedAuto, switchedLux⟩
  rw [same] at warn lamp
  simp only [lightStep, lightTurn, if_pos automatic, List.foldl_append]
  refine ⟨warn, ?_, switchedAuto.trans autoFlag, switchedLux.trans setLux⟩
  rw [switched, lamp]
  rfl

/-! ## Runs -/

/-- The thread behind a row of samples, from its start with the given board. -/
def watchAfter (board : Board) (samples : List (Option Int)) : Watch :=
  samples.foldl lightStep ({}, board)

theorem watchAfter_concat (board : Board) (samples : List (Option Int)) (sample : Option Int) :
    watchAfter board (samples ++ [sample]) = lightStep (watchAfter board samples) sample := by
  rw [watchAfter, watchAfter, List.foldl_append]
  rfl

/-- Which samples of a row are dark. -/
def darks (watch : Watch) : List (Option Int) → List Bool
  | [] => []
  | sample :: rest => watch.dark sample :: darks (lightStep watch sample) rest

theorem darks_concat (watch : Watch) (samples : List (Option Int)) (sample : Option Int) :
    darks watch (samples ++ [sample]) =
      darks watch samples ++ [(samples.foldl lightStep watch).dark sample] := by
  induction samples generalizing watch with
  | nil => rfl
  | cons first rest ih =>
      rw [List.cons_append, darks, ih, darks, List.cons_append]
      rfl

/-- The last turn behind which the counter is at least five lies between the two
parts of the row. -/
structure LastWarning (board : Board) (earlier later : List (Option Int)) : Prop where
  turned : earlier ≠ []
  warned : 5 ≤ (watchAfter board earlier).warn
  last : ∀ first, first <+: later → first ≠ [] → (watchAfter board (earlier ++ first)).warn < 5

/-- What holds behind every row of samples in which the counter does not go back
to one. -/
structure Balanced (board : Board) (samples : List (Option Int)) : Prop where
  automatic : (watchAfter board samples).2.autoFlag = 1
  bounded : (watchAfter board samples).warn < 200
  on : (watchAfter board samples).2.led3 = .high → ∃ earlier later, samples = earlier ++ later ∧
    LastWarning board earlier later ∧
    (darks (watchAfter board earlier) later).count true + 5 ≤
      (watchAfter board samples).warn + (darks (watchAfter board earlier) later).count false

theorem balanced_start {board : Board} (automatic : board.autoFlag = 1)
    (started : board.StartedUp) : Balanced board [] := by
  have empty : (watchAfter board []).warn = 0 := rfl
  refine ⟨automatic, by omega, ?_⟩
  intro on
  have off : (watchAfter board []).2.led3 = .low := started.led3
  rw [off] at on
  contradiction

/-- A dark sample comes when the counter is at 199. -/
def Watch.Wraps (watch : Watch) (sample : Option Int) : Prop :=
  watch.dark sample = true ∧ watch.warn = 199

instance (watch : Watch) (sample : Option Int) : Decidable (watch.Wraps sample) :=
  inferInstanceAs (Decidable (_ ∧ _))

theorem LastWarning.concat {board : Board} {earlier later : List (Option Int)}
    (lastWarning : LastWarning board earlier later) {sample : Option Int}
    (below : (watchAfter board (earlier ++ (later ++ [sample]))).warn < 5) :
    LastWarning board earlier (later ++ [sample]) := by
  refine ⟨lastWarning.turned, lastWarning.warned, ?_⟩
  intro first begins nonempty
  rcases List.prefix_concat_iff.mp begins with whole | shorter
  · rw [whole]
    exact below
  · exact lastWarning.last first shorter nonempty

/-- The tally of a row grows with the next sample. -/
theorem darks_split (board : Board) (earlier later : List (Option Int)) (sample : Option Int) :
    darks (watchAfter board earlier) (later ++ [sample]) =
      darks (watchAfter board earlier) later ++
        [(watchAfter board (earlier ++ later)).dark sample] := by
  rw [darks_concat, watchAfter, watchAfter, List.foldl_append]

theorem Balanced.concat {board : Board} {samples : List (Option Int)}
    (balanced : Balanced board samples) {sample : Option Int}
    (stays : ¬ (watchAfter board samples).Wraps sample) :
    Balanced board (samples ++ [sample]) := by
  rcases balanced with ⟨automatic, bounded, on⟩
  rcases turned_lightStep automatic bounded sample with ⟨warn, lamp, autoFlag, _⟩
  rw [← watchAfter_concat] at warn lamp autoFlag
  refine ⟨autoFlag.trans automatic, ?_, ?_⟩
  · rw [warn, warnNext]
    split_ifs <;> omega
  · intro lit
    by_cases enough : 5 ≤ (watchAfter board (samples ++ [sample])).warn
    · -- the warning is renewed by this very turn
      refine ⟨samples ++ [sample], [], (List.append_nil _).symm, ⟨by simp, enough, ?_⟩, ?_⟩
      · intro first begins nonempty
        exact absurd (List.prefix_nil.mp begins) nonempty
      · exact enough
    · rw [lamp, lampNext, if_neg enough] at lit
      split at lit
      · contradiction
      · rename_i notOff
        rcases on lit with ⟨earlier, later, same, lastWarning, tally⟩
        subst same
        rw [List.append_assoc] at enough warn ⊢
        refine ⟨earlier, later ++ [sample], rfl, lastWarning.concat (by omega), ?_⟩
        rw [darks_split, List.count_append, List.count_append, warn]
        cases dark : (watchAfter board (earlier ++ later)).dark sample with
        | true =>
            have below : (watchAfter board (earlier ++ later)).warn ≠ 199 :=
              fun full => stays ⟨dark, full⟩
            have counted : [true].count true = 1 ∧ [true].count false = 0 := ⟨rfl, rfl⟩
            rw [warnNext, if_pos rfl, if_neg (by omega), counted.1, counted.2]
            omega
        | false =>
            have positive : (watchAfter board (earlier ++ later)).warn ≠ 0 :=
              fun zero => notOff ⟨dark, zero⟩
            have counted : [false].count true = 0 ∧ [false].count false = 1 := ⟨rfl, rfl⟩
            rw [warnNext, if_neg Bool.false_ne_true, counted.1, counted.2]
            omega

theorem balanced_of_stays {board : Board} (automatic : board.autoFlag = 1)
    (started : board.StartedUp) {samples : List (Option Int)}
    (stays : ∀ earlier sample, earlier ++ [sample] <+: samples →
      ¬ (watchAfter board earlier).Wraps sample) : Balanced board samples := by
  induction samples using List.reverseRecOn with
  | nil => exact balanced_start automatic started
  | append_singleton earlier sample ih =>
      apply Balanced.concat
      · apply ih
        intro first next begins
        exact stays first next (begins.trans (List.prefix_append earlier [sample]))
      · exact stays earlier sample (List.prefix_refl _)

/-- In every run in which no dark sample comes at 199, the lamp goes off only when
there have been five more bright than dark samples since the last turn behind which
the counter was at least five, it goes on only in such a turn, and the counter
stays below 200. -/
theorem lamp_keeps_distance (board : Board) (automatic : board.autoFlag = 1)
    (started : board.StartedUp) (samples : List (Option Int)) (sample : Option Int)
    (stays : ∀ earlier next, earlier ++ [next] <+: samples ++ [sample] →
      ¬ (watchAfter board earlier).Wraps next) :
    ((watchAfter board samples).2.led3 = .high →
      (watchAfter board (samples ++ [sample])).2.led3 = .low →
      ∃ earlier later, samples = earlier ++ later ∧
        LastWarning board earlier (later ++ [sample]) ∧
        (darks (watchAfter board earlier) (later ++ [sample])).count true + 5 ≤
          (darks (watchAfter board earlier) (later ++ [sample])).count false) ∧
    ((watchAfter board samples).2.led3 = .low →
      (watchAfter board (samples ++ [sample])).2.led3 = .high →
      5 ≤ (watchAfter board (samples ++ [sample])).warn) ∧
    (watchAfter board (samples ++ [sample])).warn ≤ 199 := by
  have balanced : Balanced board samples := by
    apply balanced_of_stays automatic started
    intro earlier next begins
    exact stays earlier next (begins.trans (List.prefix_append samples [sample]))
  have next := balanced.concat (stays samples sample (List.prefix_refl _))
  rcases turned_lightStep balanced.automatic balanced.bounded sample with ⟨warn, lamp, _, _⟩
  rw [← watchAfter_concat] at warn lamp
  refine ⟨?_, ?_, ?_⟩
  · intro lit off
    rw [lamp, lampNext] at off
    split at off
    · contradiction
    · rename_i low
      split at off
      · rename_i bright
        rcases balanced.on lit with ⟨earlier, later, same, lastWarning, tally⟩
        subst same
        rw [List.append_assoc] at low
        refine ⟨earlier, later, rfl, lastWarning.concat (by omega), ?_⟩
        have counted : [false].count true = 0 ∧ [false].count false = 1 := ⟨rfl, rfl⟩
        rw [darks_split, List.count_append, List.count_append, bright.1, counted.1, counted.2]
        omega
      · rw [lit] at off
        contradiction
  · intro off lit
    by_contra low
    rw [lamp, lampNext, if_neg low] at lit
    split at lit
    · contradiction
    · rw [off] at lit
      contradiction
  · have bounded := next.bounded
    omega

/-- A dusk and a dawn. -/
def duskAndDawn : List (Option Int) :=
  List.replicate 5 (some 0) ++ List.replicate 5 (some 5000)

theorem duskAndDawn_keeps_distance :
    (watchAfter {} duskAndDawn).2.led3 = .high ∧
      (watchAfter {} (duskAndDawn ++ [some 5000])).2.led3 = .low ∧
      (watchAfter {} (duskAndDawn ++ [some 5000])).warn ≤ 199 := by
  refine ⟨by decide +kernel, by decide +kernel, ?_⟩
  apply (lamp_keeps_distance {} rfl ⟨rfl, rfl, rfl, rfl⟩ duskAndDawn (some 5000) ?_).2.2
  intro earlier next begins
  have short : earlier.length < 11 := by
    have length := begins.length_le
    rw [List.length_append] at length
    exact length
  have same : earlier = (duskAndDawn ++ [some 5000]).take earlier.length :=
    List.prefix_iff_eq_take.mp ((List.prefix_append earlier [next]).trans begins)
  have low : ∀ k < 11, (watchAfter {} ((duskAndDawn ++ [some 5000]).take k)).warn ≠ 199 := by
    decide +kernel
  rintro ⟨_, full⟩
  rw [same] at full
  exact low _ short full

/-- Two hundred dark samples and a bright one. -/
def longNight : List (Option Int) :=
  List.replicate 200 (some 0) ++ [some 5000]

/-- The second bright sample switches the lamp off: the last turn behind which the
counter was at least five was the one before the last dark sample. -/
theorem longNight_goes_off :
    (watchAfter {} longNight).2.led3 = .high ∧
      (watchAfter {} (longNight ++ [some 5000])).2.led3 = .low ∧
      ¬ ∃ earlier later, longNight = earlier ++ later ∧
        LastWarning {} earlier (later ++ [some 5000]) ∧
        (darks (watchAfter {} earlier) (later ++ [some 5000])).count true + 5 ≤
          (darks (watchAfter {} earlier) (later ++ [some 5000])).count false := by
  refine ⟨by decide +kernel, by decide +kernel, ?_⟩
  rintro ⟨earlier, later, same, lastWarning, tally⟩
  have front : earlier = longNight.take earlier.length := by
    rw [same, List.take_left]
  have back : later = longNight.drop earlier.length := by
    rw [same, List.drop_left]
  have length : earlier.length ≤ 201 := by
    rw [front, List.length_take]
    exact Nat.min_le_right _ _
  have peak : (watchAfter {} (longNight.take 199)).warn = 199 := by
    decide +kernel
  have behind : ∀ k < 202, 200 ≤ k → (watchAfter {} (longNight.take k)).warn < 5 := by
    decide +kernel
  by_cases before : earlier.length < 199
  · -- the peak is behind the part that is said to hold the last warning
    have joined : earlier ++ later.take (199 - earlier.length) = longNight.take 199 := by
      have whole : earlier.take 199 = earlier := List.take_of_length_le (by omega)
      rw [same, List.take_append, whole]
    have nonempty : later.take (199 - earlier.length) ≠ [] := by
      intro empty
      rw [empty, List.append_nil] at joined
      have short := congrArg List.length joined
      have long : (longNight.take 199).length = 199 := rfl
      omega
    have low := lastWarning.last _
      ((List.take_prefix _ later).trans (List.prefix_append later _)) nonempty
    rw [joined, peak] at low
    omega
  · by_cases after : 200 ≤ earlier.length
    · have warned := lastWarning.warned
      have low := behind earlier.length (by omega) after
      rw [← front] at low
      omega
    · have exact : earlier.length = 199 := by omega
      rw [front, back, exact] at tally
      exact absurd tally (by decide +kernel)

end BerPiNbiot.Cloud
