import BerPiNbiot.Modem.Malformed
import BerPiNbiot.Modem.Mqtt
import BerPiNbiot.Modem.NonInterference

/-!
# Tracking the connection

`connect_status` of `mqtt_device` is what the firmware knows of its connection to
the broker.  Most notifications do not concern it.  The others, and
`qsdk_mqtt_config`, each give a verdict, and the field shows the last one.
-/

namespace BerPiNbiot.Modem

open BerPiNbiot.Resumption
open BerPiNbiot.Text

/-- An MQTT line with the fields that its branch uses and no further prefix in
its body. -/
structure MqttLine extends UrcLine where
  mqtt : urc ∈ mqttBranches
  plain : ∀ key : Urc, ¬ key.cmdPrefix <:+: body
  fed : toUrcLine.Fed {}

/-- The line of an open connection is one. -/
instance : Nonempty MqttLine :=
  ⟨{  urc := .mqttOpen
      body := ascii "OK"
      noNul := by decide
      mqtt := by decide
      plain := by
        intro key
        cases key <;> decide
      fed := by decide }⟩

/-- The error type of a `+MQTTTO:` line. -/
def UrcLine.errorType (line : UrcLine) : Int :=
  ((strtok colon (some (line.body ++ cmdSuffix))).1.map atoi).getD 0

/-- The body begins with `OK`. -/
def UrcLine.ok (line : UrcLine) : Bool :=
  ascii "OK" <+: line.body

/-- What a line says of the connection, if it concerns it. -/
def UrcLine.verdict (line : UrcLine) : Option Bool :=
  match line.urc with
  | .mqttOpen => some line.ok
  | .mqttPingresp => some true
  | .mqttDisc => if line.ok then some false else none
  | .mqttTo => if line.errorType = 5 then some false else none
  | _ => none

/-- An item of the history. -/
inductive LinkItem
  | urc (line : MqttLine)
  /-- `qsdk_mqtt_config` -/
  | config

/-- What an item says of the connection, if it says something. -/
def LinkItem.verdict : LinkItem → Option Bool
  | .urc line => line.verdict
  | .config => some false

/-- `mqtt_device` behind an item. -/
def LinkItem.handle (device : MqttDevice) : LinkItem → MqttDevice
  | .urc line => (mqttEventFunc line.text device).device
  | .config => {}

/-- `mqtt_device` behind a history. -/
def linkAfter (history : List LinkItem) : MqttDevice :=
  history.foldl LinkItem.handle {}

/-- The last item that concerns the connection. -/
def lastVerdict (history : List LinkItem) : Option Bool :=
  (history.filterMap LinkItem.verdict).getLast?

/-! ## Configuration -/

/-- What a call does to `mqtt_device`. -/
def Call.mqttAfter : Call → MqttDevice → MqttDevice
  | .writeMqtt update, device => update device
  | _, device => device

/-- Whatever its command returns, `qsdk_mqtt_config` has cleared the record. -/
theorem config_clears {before after : MqttDevice} {value : Bool}
    (runs : qsdkMqttConfig.Runs (fun state request _ next => next = Call.mqttAfter request state)
      before value after) : after = LinkItem.handle before .config := by
  rcases runs with ⟨_, middle, cleared, _, final, kept, _, done⟩
  rw [done, kept, cleared]
  rfl

/-! ## Lines -/

/-- A line with a plain body is handled by its own branch alone. -/
theorem mqttEventFunc_plain (line : MqttLine) (device : MqttDevice) :
    mqttEventFunc line.text device =
      branchBody line.urc { event := line.text, device, entered := [line.urc] } := by
  have absent : ∀ key : Urc, key ≠ line.urc → ¬ Found line.text key.cmdPrefix := by
    intro key differs
    rw [not_found_iff_of_ne differs]
    exact line.plain key
  have before : ∀ key ∈ branchesBefore line.urc, ¬ Found line.text key.cmdPrefix := by
    intro key member
    apply absent key
    rintro rfl
    exact notMem_branchesBefore line.mqtt member
  cases tokenises : line.urc.tokenises with
  | true => exact mqttEventFunc_of_tokenises line.toUrcLine line.mqtt device tokenises before
  | false =>
      rw [mqttEventFunc_of_before_absent line.toUrcLine line.mqtt device before]
      apply foldl_mqttBranch_of_not_found
      intro key member
      rw [branchBody_event, tokenises, if_neg Bool.false_ne_true]
      apply absent key
      rintro rfl
      exact notMem_branchesAfter line.mqtt member

/-- The status that a verdict leaves. -/
def statusAfter (status : Int) : Option Bool → Int
  | none => status
  | some connected => if connected then 1 else 0

theorem found_ok_iff (line : MqttLine) :
    Found line.text (line.urc.cmdPrefix ++ ascii "OK") ↔ line.ok = true := by
  rw [found_prefix_append_iff line.toUrcLine (by decide) (line.plain line.urc), UrcLine.ok,
    decide_eq_true_iff]

theorem connectStatus_toBranch (run : MqttRun) :
    (toBranch run).device.connectStatus =
      if ((strtok colon (strtok colon (some run.event)).2).1.map atoi).getD 0 = 5 then 0
      else run.device.connectStatus := by
  unfold toBranch
  rcases strtok colon (some run.event) with ⟨_, rest⟩
  simp only
  rcases strtok colon rest with ⟨_ | type, _⟩
  · rfl
  · simp only [Option.map_some, Option.getD_some]
    split <;> rfl

/-- Each branch leaves the status that its line's verdict says. -/
theorem connectStatus_urc (line : MqttLine) (device : MqttDevice) :
    (mqttEventFunc line.text device).device.connectStatus =
      statusAfter device.connectStatus line.verdict := by
  have ok := found_ok_iff line
  rw [mqttEventFunc_plain]
  unfold UrcLine.verdict
  cases urc : line.urc with
  | mqttOpen =>
      rw [urc] at ok
      have whole : Urc.cmdPrefix .mqttOpen ++ ascii "OK" = ascii "+MQTTOPEN:OK" := by decide
      rw [whole] at ok
      simp only [branchBody, openBranch, ok, statusAfter]
  | mqttDisc =>
      rw [urc] at ok
      have whole : Urc.cmdPrefix .mqttDisc ++ ascii "OK" = ascii "+MQTTDISC:OK" := by decide
      rw [whole] at ok
      simp only [branchBody, discBranch, ok]
      split <;> rfl
  | mqttTo =>
      simp only [branchBody, connectStatus_toBranch, strtok_text line.toUrcLine line.mqtt]
      by_cases lost : line.errorType = 5
      · rw [if_pos lost, if_pos (by exact lost)]
        rfl
      · rw [if_neg lost, if_neg (by exact lost)]
        rfl
  | mqttSuback =>
      simp only [branchBody, subackBranch]
      split <;> rfl
  | mqttPublish =>
      simp only [branchBody, publishBranch]
      repeat' split
      all_goals rfl
  | _ => rfl

/-! ## Histories -/

theorem connectStatus_handle (item : LinkItem) (device : MqttDevice) :
    (item.handle device).connectStatus = statusAfter device.connectStatus item.verdict := by
  cases item with
  | urc line => exact connectStatus_urc line device
  | config => rfl

theorem lastVerdict_concat (history : List LinkItem) (item : LinkItem) :
    lastVerdict (history ++ [item]) = item.verdict.or (lastVerdict history) := by
  rw [lastVerdict, List.filterMap_append]
  cases verdict : item.verdict with
  | none => simp [verdict, lastVerdict]
  | some connected => simp [verdict]

theorem connectStatus_linkAfter (history : List LinkItem) :
    (linkAfter history).connectStatus = statusAfter 0 (lastVerdict history) := by
  induction history using List.reverseRecOn with
  | nil => rfl
  | append_singleton history item ih =>
      rw [linkAfter, List.foldl_append, List.foldl_cons, List.foldl_nil, connectStatus_handle,
        ← linkAfter, ih, lastVerdict_concat]
      cases item.verdict <;> rfl

/-- The status is 1 exactly when the last item that concerns the connection was
`+MQTTOPEN:OK` or `+MQTTPINGRESP:`, and 0 exactly when there was none or the last
one was `qsdk_mqtt_config`, another `+MQTTOPEN:`, `+MQTTDISC:OK` or `+MQTTTO:`
with the error type 5; the other items leave it alone. -/
theorem connectStatus_of_history (history : List LinkItem) :
    ((linkAfter history).connectStatus = 1 ↔ lastVerdict history = some true) ∧
    ((linkAfter history).connectStatus = 0 ↔
      lastVerdict history = none ∨ lastVerdict history = some false) ∧
    ∀ item : LinkItem, item.verdict = none → ∀ device,
      (item.handle device).connectStatus = device.connectStatus := by
  rw [connectStatus_linkAfter]
  refine ⟨?_, ?_, ?_⟩
  · rcases lastVerdict history with _ | (_ | _) <;> simp [statusAfter]
  · rcases lastVerdict history with _ | (_ | _) <;> simp [statusAfter]
  · intro item none device
    rw [connectStatus_handle, none]
    rfl

end BerPiNbiot.Modem
