import BerPiNbiot.Modem.MqttEvent

/-!
# Lines with missing fields

The branches for SUBACK and PUBLISH take their fields with a row of `strtok`
calls and hand some of them on without looking: a missing field reaches `atoi`,
or the data callback, as a null pointer.  Runs of commas count as one delimiter,
so what matters is the number of non-empty fields behind the first colon.

The result is exact and covers lines that reach one of these branches because
their body contains its prefix.  The branch for TO is safe: its field contains at
least the closing carriage return.
-/

namespace BerPiNbiot.Modem

open BerPiNbiot.Text

/-- No null token reached `atoi` and no null message the data callback. -/
def MqttRun.Survives (run : MqttRun) : Prop :=
  run.fault = false ∧ ∀ topic mesgLen, .dataCallback topic none mesgLen ∉ run.effects

/-- The number of comma-separated fields behind the prefix of a line. -/
def UrcLine.fields (line : UrcLine) : Nat :=
  tokensLeft comma (some (line.body ++ cmdSuffix))

/-- The line has the fields that are used by the branch it reaches. -/
def UrcLine.Fed (line : UrcLine) (device : MqttDevice) : Prop :=
  if Found line.text (Urc.cmdPrefix .mqttSuback) then 2 ≤ line.fields
  else if Found line.text (Urc.cmdPrefix .mqttPublish) then
    6 ≤ line.fields ∧ (device.pubackOpen = 0 → 7 ≤ line.fields)
  else True

instance (line : UrcLine) (device : MqttDevice) : Decidable (line.Fed device) :=
  inferInstanceAs (Decidable (if Found line.text (Urc.cmdPrefix .mqttSuback) then _ else _))

/-! ## The tokenising branches -/

/-- A field behind `count` others is missing. -/
theorem field_eq_none_iff (line : UrcLine) (count : Nat) :
    (strtok comma (behindTokens comma count (some (line.body ++ cmdSuffix)))).1 = none ↔
      line.fields ≤ count :=
  strtok_behindTokens_eq_none_iff comma count _

/-- A run that has stopped at a null token. -/
theorem not_survives_of_fault {run : MqttRun} (fault : run.fault = true) : ¬ run.Survives := by
  rintro ⟨clean, _⟩
  rw [fault] at clean
  contradiction

theorem survives_subackBranch {line : UrcLine} (mqtt : line.urc ∈ mqttBranches)
    {device : MqttDevice} {run : MqttRun}
    (same : SameInput { event := line.text, device } run) :
    (subackBranch run).Survives ↔ 2 ≤ line.fields := by
  rcases same with ⟨event, fault, effects, _⟩
  have second := field_eq_none_iff line 1
  simp only [behindTokens] at second
  unfold subackBranch
  rw [event]
  simp only [strtok_text line mqtt]
  split
  · rename_i missing
    have few := second.mp missing
    apply iff_of_false
    · exact not_survives_of_fault rfl
    · omega
  · rename_i code present
    apply iff_of_true
    · refine ⟨fault, fun topic mesgLen member => ?_⟩
      rw [effects] at member
      contradiction
    · by_contra few
      rw [second.mpr (by omega)] at present
      contradiction

/-- The data callback is given a message when there are seven fields. -/
theorem survives_publishBranch {line : UrcLine} (mqtt : line.urc ∈ mqttBranches)
    {device : MqttDevice} {run : MqttRun}
    (same : SameInput { event := line.text, device } run) :
    (publishBranch run).Survives ↔
      6 ≤ line.fields ∧ (device.pubackOpen = 0 → 7 ≤ line.fields) := by
  rcases same with ⟨event, fault, effects, opened⟩
  have fourth := field_eq_none_iff line 3
  have sixth := field_eq_none_iff line 5
  have seventh := field_eq_none_iff line 6
  simp only [behindTokens] at fourth sixth seventh
  unfold publishBranch
  rw [event]
  simp only [strtok_text line mqtt]
  split
  · rename_i missing
    have few := fourth.mp missing
    apply iff_of_false
    · exact not_survives_of_fault rfl
    · omega
  · split
    · rename_i missing
      have few := sixth.mp missing
      apply iff_of_false
      · exact not_survives_of_fault rfl
      · omega
    · rename_i mesgLen present
      have enough : 6 ≤ line.fields := by
        by_contra few
        rw [sixth.mpr (by omega)] at present
        contradiction
      simp only [MqttRun.Survives, fault, effects, opened, enough, true_and]
      by_cases callback : device.pubackOpen = 0
      · rw [if_pos callback]
        simp only [List.nil_append, List.mem_singleton, Effect.dataCallback.injEq, callback,
          true_implies]
        constructor
        · intro given
          by_contra few
          exact given _ _ ⟨rfl, (seventh.mpr (by omega)).symm, rfl⟩
        · rintro seven topic length ⟨_, missing, _⟩
          have few := seventh.mp missing.symm
          omega
      · simp [callback]

/-- The field of TO holds at least the carriage return. -/
theorem survives_toBranch {line : UrcLine} (mqtt : line.urc ∈ mqttBranches)
    {device : MqttDevice} {run : MqttRun}
    (same : SameInput { event := line.text, device } run) : (toBranch run).Survives := by
  rcases same with ⟨event, fault, effects, _⟩
  have quiet : ∀ topic mesgLen, .dataCallback topic none mesgLen ∉ run.effects := by
    intro topic mesgLen
    rw [effects]
    exact List.not_mem_nil
  unfold toBranch
  rw [event]
  simp only [strtok_text line mqtt]
  split
  · rename_i missing
    have closing : (13 : UInt8) ∈ line.body ++ cmdSuffix :=
      List.mem_append_right line.body (List.mem_singleton_self 13)
    rw [(strtok_tokens colon _).1] at missing
    exact absurd missing (tokensLeft_ne_zero colon closing (by decide))
  · exact ⟨fault, quiet⟩

/-! ## Whole lines -/

theorem eq_of_tokenises {key : Urc} (tokenises : key.tokenises = true) :
    key = .mqttSuback ∨ key = .mqttPublish ∨ key = .mqttTo := by
  cases key <;> simp_all [Urc.tokenises]

/-- A line that reaches none of the two branches is survived. -/
theorem survives_of_not_found (line : UrcLine) (mqtt : line.urc ∈ mqttBranches)
    (device : MqttDevice) (suback : ¬ Found line.text (Urc.cmdPrefix .mqttSuback))
    (publish : ¬ Found line.text (Urc.cmdPrefix .mqttPublish)) :
    (mqttEventFunc line.text device).Survives := by
  have other : ∀ key : Urc, key ≠ .mqttTo → Found line.text key.cmdPrefix →
      key.tokenises = false := by
    intro key notTo found
    by_contra cuts
    rcases eq_of_tokenises (Bool.not_eq_false _ ▸ cuts) with rfl | rfl | rfl
    · exact suback found
    · exact publish found
    · exact notTo rfl
  by_cases timeout : Found line.text (Urc.cmdPrefix .mqttTo)
  · have before : ∀ key ∈ [Urc.mqttOpen, .mqttSuback, .mqttPuback, .mqttUnsuback, .mqttDisc,
        .mqttPubrec, .mqttPubcomp, .mqttPublish, .mqttPingresp],
        Found line.text key.cmdPrefix → key.tokenises = false := by
      intro key member
      apply other
      rintro rfl
      exact absurd member (by decide)
    rcases mqttEventFunc_reaches line mqtt device .mqttTo _ [.mqttRec] rfl rfl timeout before with
      ⟨run, equal, same⟩
    rw [equal]
    exact survives_toBranch mqtt same
  · have same := sameInput_foldl mqttBranches { event := line.text, device } (by
      intro key _ found
      apply other key _ found
      rintro rfl
      exact timeout found)
    rcases same with ⟨_, fault, effects, _⟩
    refine ⟨fault, fun topic mesgLen => ?_⟩
    rw [mqttEventFunc, effects]
    exact List.not_mem_nil

/-- An MQTT line is survived if and only if it has the fields that are used by
the branch it reaches: two for a SUBACK, seven for a PUBLISH, or six while the
callback is switched off. -/
theorem survives_iff_fed (line : UrcLine) (mqtt : line.urc ∈ mqttBranches)
    (device : MqttDevice) :
    (mqttEventFunc line.text device).Survives ↔ line.Fed device := by
  unfold UrcLine.Fed
  split
  · rename_i suback
    have before : ∀ key ∈ [Urc.mqttOpen], Found line.text key.cmdPrefix →
        key.tokenises = false := by
      intro key member _
      rw [List.mem_singleton.mp member]
      rfl
    rcases mqttEventFunc_reaches line mqtt device .mqttSuback _
      [.mqttPuback, .mqttUnsuback, .mqttDisc, .mqttPubrec, .mqttPubcomp, .mqttPublish,
        .mqttPingresp, .mqttTo, .mqttRec] rfl rfl suback before with ⟨run, equal, same⟩
    rw [equal]
    exact survives_subackBranch mqtt same
  · rename_i suback
    split
    · rename_i publish
      have before : ∀ key ∈ [Urc.mqttOpen, .mqttSuback, .mqttPuback, .mqttUnsuback, .mqttDisc,
          .mqttPubrec, .mqttPubcomp], Found line.text key.cmdPrefix → key.tokenises = false := by
        intro key member found
        by_contra cuts
        rcases eq_of_tokenises (Bool.not_eq_false _ ▸ cuts) with rfl | rfl | rfl
        · exact suback found
        · exact absurd member (by decide)
        · exact absurd member (by decide)
      rcases mqttEventFunc_reaches line mqtt device .mqttPublish _
        [.mqttPingresp, .mqttTo, .mqttRec] rfl rfl publish before with ⟨run, equal, same⟩
      rw [equal]
      exact survives_publishBranch mqtt same
    · rename_i publish
      apply iff_of_true
      · exact survives_of_not_found line mqtt device suback publish
      · trivial

/-- A SUBACK with its packet identifier and its code. -/
def fedSuback : UrcLine where
  urc := .mqttSuback
  body := ascii "1,0,rb_sub"
  noNul := by decide

theorem fedSuback_survives :
    fedSuback.urc ∈ mqttBranches ∧ (mqttEventFunc fedSuback.text {}).Survives :=
  ⟨by decide, (survives_iff_fed fedSuback (by decide) {}).mpr (by decide +kernel)⟩

/-- A SUBACK without its code. -/
def bareSuback : UrcLine where
  urc := .mqttSuback
  body := ascii "1"
  noNul := by decide

theorem bareSuback_fails :
    ¬ ∀ line : UrcLine, line.urc ∈ mqttBranches → 13 ∉ line.body → ∀ device,
      (mqttEventFunc line.text device).Survives := by
  intro always
  have fault : (mqttEventFunc bareSuback.text {}).fault = true := by decide +kernel
  exact not_survives_of_fault fault (always bareSuback (by decide) (by decide) {})

end BerPiNbiot.Modem
