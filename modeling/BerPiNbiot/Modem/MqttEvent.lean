import BerPiNbiot.Modem.Device
import BerPiNbiot.Modem.Urc
import BerPiNbiot.Text.Token

/-!
# MQTT notifications

`mqtt_event_func` is a row of eleven independent tests.  Each searches the
event text for one prefix and, where it is found, runs that prefix's branch.
The branches for SUBACK, PUBLISH and TO tokenise the text in place, so the
tests behind them see what is left in front of the first colon.

A missing token reaches `atoi` as a null pointer.  The run then stops with its
fault mark set; nothing behind that point is executed.
-/

namespace BerPiNbiot.Modem

open BerPiNbiot.Text

/-- The delimiter `":"`. -/
def colon : List UInt8 := [58]

/-- The delimiter `","`. -/
def comma : List UInt8 := [44]

/-- Progress of one call of `mqtt_event_func`. -/
structure MqttRun where
  /-- the string now at `event` -/
  event : Bytes
  device : MqttDevice
  /-- the branches entered so far, in order -/
  entered : List Urc := []
  effects : List Effect := []
  /-- a null token was passed to `atoi` -/
  fault : Bool := false
  deriving DecidableEq, Repr

/-! ## The branches -/

/-- `+MQTTOPEN:` -/
def openBranch (run : MqttRun) : MqttRun :=
  let status := if Found run.event (ascii "+MQTTOPEN:OK") then 1 else 0
  { run with device := { run.device with connectStatus := status } }

/-- `+MQTTSUBACK:` -/
def subackBranch (run : MqttRun) : MqttRun :=
  let (_, rest) := strtok colon (some run.event)
  let (_, rest) := strtok comma rest
  let (code, rest) := strtok comma rest
  let (topic, _) := strtok comma rest
  let device := { run.device with subackTopic := topic }
  let event := tokenView colon run.event
  match code with
  | none => { run with event, device, fault := true }
  | some code => { run with event, device := { device with subackStatus := atoi code } }

/-- `+MQTTPUBACK:` -/
def pubackBranch (run : MqttRun) : MqttRun :=
  { run with device := { run.device with pubackStatus := 1 } }

/-- `+MQTTUNSUBACK:` -/
def unsubackBranch (run : MqttRun) : MqttRun :=
  { run with device := { run.device with unsubackStatus := 1 } }

/-- `+MQTTDISC:` -/
def discBranch (run : MqttRun) : MqttRun :=
  if Found run.event (ascii "+MQTTDISC:OK") then
    { run with device := { run.device with connectStatus := 0 } }
  else run

/-- `+MQTTPUBREC:` -/
def pubrecBranch (run : MqttRun) : MqttRun :=
  { run with device := { run.device with pubrecStatus := 1 } }

/-- `+MQTTPUBCOMP:` -/
def pubcompBranch (run : MqttRun) : MqttRun :=
  { run with device := { run.device with pubcompStatus := 1 } }

/-- `+MQTTPUBLISH:` -/
def publishBranch (run : MqttRun) : MqttRun :=
  let (_, rest) := strtok colon (some run.event)
  let (_, rest) := strtok comma rest
  let (_, rest) := strtok comma rest
  let (_, rest) := strtok comma rest
  let (packId, rest) := strtok comma rest
  let (topic, rest) := strtok comma rest
  let (mesgLen, rest) := strtok comma rest
  let (mesg, _) := strtok comma rest
  let event := tokenView colon run.event
  match packId with
  | none => { run with event, fault := true }
  | some packId =>
      let device := { run.device with packid := atoi packId, pubackTopic := topic }
      match mesgLen with
      | none => { run with event, device, fault := true }
      | some mesgLen =>
          let device := { device with pubMesgLen := atoi mesgLen, pubMesg := mesg }
          let effects :=
            if device.pubackOpen = 0 then
              run.effects ++ [.dataCallback device.pubackTopic device.pubMesg device.pubMesgLen]
            else run.effects
          { run with event, device, effects }

/-- `+MQTTPINGRESP:` -/
def pingrespBranch (run : MqttRun) : MqttRun :=
  { run with device := { run.device with connectStatus := 1 } }

/-- `+MQTTTO:` -/
def toBranch (run : MqttRun) : MqttRun :=
  let (_, rest) := strtok colon (some run.event)
  let (type, _) := strtok colon rest
  let event := tokenView colon run.event
  match type with
  | none => { run with event, fault := true }
  | some type =>
      let device := { run.device with errorType := atoi type }
      let device := if device.errorType = 5 then { device with connectStatus := 0 } else device
      { run with event, device }

/-- The code behind the test for a prefix.  The branch for `+MQTTREC:` is
empty; the other prefixes are not tested by `mqtt_event_func`. -/
def branchBody : Urc → MqttRun → MqttRun
  | .mqttOpen => openBranch
  | .mqttSuback => subackBranch
  | .mqttPuback => pubackBranch
  | .mqttUnsuback => unsubackBranch
  | .mqttDisc => discBranch
  | .mqttPubrec => pubrecBranch
  | .mqttPubcomp => pubcompBranch
  | .mqttPublish => publishBranch
  | .mqttPingresp => pingrespBranch
  | .mqttTo => toBranch
  | _ => id

/-- One test of `mqtt_event_func` with its branch. -/
def mqttBranch (run : MqttRun) (key : Urc) : MqttRun :=
  if run.fault then run
  else if Found run.event key.cmdPrefix then
    branchBody key { run with entered := run.entered ++ [key] }
  else run

/-- The tests in the order of the source. -/
def mqttBranches : List Urc :=
  [.mqttOpen, .mqttSuback, .mqttPuback, .mqttUnsuback, .mqttDisc, .mqttPubrec, .mqttPubcomp,
    .mqttPublish, .mqttPingresp, .mqttTo, .mqttRec]

/-- `mqtt_event_func` -/
def mqttEventFunc (event : Bytes) (device : MqttDevice) : MqttRun :=
  mqttBranches.foldl mqttBranch { event, device }

/-! ## Which branches a run enters -/

/-- The branches that tokenise the event text. -/
def Urc.tokenises : Urc → Bool
  | .mqttSuback | .mqttPublish | .mqttTo => true
  | _ => false

theorem branchBody_entered (key : Urc) (run : MqttRun) :
    (branchBody key run).entered = run.entered := by
  cases key <;> simp only [branchBody, id, openBranch, subackBranch, pubackBranch,
    unsubackBranch, discBranch, pubrecBranch, pubcompBranch, publishBranch, pingrespBranch,
    toBranch] <;> (repeat' split) <;> rfl

theorem branchBody_event (key : Urc) (run : MqttRun) :
    (branchBody key run).event =
      if key.tokenises then tokenView colon run.event else run.event := by
  cases key <;> simp only [branchBody, id, openBranch, subackBranch, pubackBranch,
    unsubackBranch, discBranch, pubrecBranch, pubcompBranch, publishBranch, pingrespBranch,
    toBranch, Urc.tokenises] <;> (repeat' split) <;> simp_all

/-- Only the tokenising branches can meet a null token. -/
theorem branchBody_fault (key : Urc) (run : MqttRun) (plain : key.tokenises = false) :
    (branchBody key run).fault = run.fault := by
  cases key <;> simp only [branchBody, id, openBranch, pubackBranch, unsubackBranch,
    discBranch, pubrecBranch, pubcompBranch, pingrespBranch, Urc.tokenises,
    Bool.true_eq_false] at plain ⊢
  all_goals (repeat' split)
  all_goals rfl

theorem foldl_mqttBranch_of_not_found (keys : List Urc) (run : MqttRun)
    (absent : ∀ key ∈ keys, ¬ Found run.event key.cmdPrefix) :
    keys.foldl mqttBranch run = run := by
  induction keys with
  | nil => rfl
  | cons key rest ih =>
      have stay : mqttBranch run key = run := by
        simp [mqttBranch, absent key List.mem_cons_self]
      rw [List.foldl_cons, stay]
      exact ih fun other member => absent other (List.mem_cons_of_mem key member)

/-- The branches that the tests `keys` enter on an unchanged event text: the
found ones up to and including the first that tokenises. -/
def enteredBy (event : Bytes) : List Urc → List Urc
  | [] => []
  | key :: rest =>
      if Found event key.cmdPrefix then
        key :: if key.tokenises then [] else enteredBy event rest
      else enteredBy event rest

/-- On a text whose visible part behind a tokenising branch holds none of the
prefixes, the entered branches depend on the text alone. -/
theorem foldl_mqttBranch_entered (keys : List Urc) (run : MqttRun) (clean : run.fault = false)
    (cut : ∀ key ∈ keys, ¬ Found (tokenView colon run.event) key.cmdPrefix) :
    (keys.foldl mqttBranch run).entered = run.entered ++ enteredBy run.event keys := by
  induction keys generalizing run with
  | nil => simp [enteredBy]
  | cons key rest ih =>
      have cutRest : ∀ other ∈ rest, ¬ Found (tokenView colon run.event) other.cmdPrefix :=
        fun other member => cut other (List.mem_cons_of_mem key member)
      rw [List.foldl_cons]
      by_cases found : Found run.event key.cmdPrefix
      · have enter : mqttBranch run key =
            branchBody key { run with entered := run.entered ++ [key] } := by
          simp [mqttBranch, clean, found]
        rw [enter]
        cases tokenises : key.tokenises with
        | true =>
            have stopped : rest.foldl mqttBranch
                (branchBody key { run with entered := run.entered ++ [key] }) =
                branchBody key { run with entered := run.entered ++ [key] } := by
              apply foldl_mqttBranch_of_not_found
              intro other member
              rw [branchBody_event, tokenises, if_pos rfl]
              exact cutRest other member
            rw [stopped, branchBody_entered]
            simp [enteredBy, found, tokenises]
        | false =>
            have event := branchBody_event key { run with entered := run.entered ++ [key] }
            have fault := branchBody_fault key { run with entered := run.entered ++ [key] }
              tokenises
            rw [tokenises, if_neg (by simp)] at event
            rw [ih _ (fault.trans clean) (by rw [event]; exact cutRest), branchBody_entered,
              event]
            simp [enteredBy, found, tokenises]
      · have stay : mqttBranch run key = run := by simp [mqttBranch, found]
        rw [stay, ih run clean cutRest]
        simp [enteredBy, found]

/-! ## Event texts of MQTT lines -/

/-- The prefix of an MQTT row without its closing colon. -/
def Urc.name (urc : Urc) : Bytes :=
  urc.cmdPrefix.dropLast

private theorem mqtt_prefix_table : ∀ urc ∈ mqttBranches,
    urc.cmdPrefix = urc.name ++ colon ∧ (58 : UInt8) ∉ urc.name ∧ urc.name ≠ [] ∧
      (58 : UInt8) ∈ urc.cmdPrefix := by
  decide +kernel

/-- An MQTT line up to its first colon and behind it. -/
theorem mqtt_text_eq (line : UrcLine) (mqtt : line.urc ∈ mqttBranches) :
    line.text = line.urc.name ++ 58 :: (line.body ++ cmdSuffix) := by
  rw [UrcLine.text, (mqtt_prefix_table line.urc mqtt).1]
  simp [colon]

theorem tokenView_text (line : UrcLine) (mqtt : line.urc ∈ mqttBranches) :
    tokenView colon line.text = line.urc.name := by
  rcases mqtt_prefix_table line.urc mqtt with ⟨_, free, nonempty, _⟩
  rw [mqtt_text_eq line mqtt]
  exact tokenView_field free nonempty

/-- The first token of a line is the name in front of its colon. -/
theorem strtok_text (line : UrcLine) (mqtt : line.urc ∈ mqttBranches) :
    strtok colon (some line.text) = (some line.urc.name, some (line.body ++ cmdSuffix)) := by
  rcases mqtt_prefix_table line.urc mqtt with ⟨_, free, nonempty, _⟩
  rw [mqtt_text_eq line mqtt]
  exact strtok_field free nonempty

/-- What is left visible of a tokenised line contains no tested prefix. -/
theorem not_found_tokenView (line : UrcLine) (mqtt : line.urc ∈ mqttBranches) :
    ∀ key ∈ mqttBranches, ¬ Found (tokenView colon line.text) key.cmdPrefix := by
  intro key member found
  rw [tokenView_text line mqtt, found_iff_occurs] at found
  rcases mqtt_prefix_table line.urc mqtt with ⟨_, free, _, _⟩
  rcases mqtt_prefix_table key member with ⟨_, _, _, closing⟩
  exact free (found.subset closing)

/-- The branches entered on an MQTT line. -/
theorem mqttEventFunc_entered (line : UrcLine) (mqtt : line.urc ∈ mqttBranches)
    (device : MqttDevice) :
    (mqttEventFunc line.text device).entered = enteredBy line.text mqttBranches := by
  rw [mqttEventFunc, foldl_mqttBranch_entered _ _ rfl (not_found_tokenView line mqtt)]
  rfl

/-! ## Reaching a tokenising branch -/

/-- What the non-tokenising branches leave alone. -/
def SameInput (before after : MqttRun) : Prop :=
  after.event = before.event ∧ after.fault = before.fault ∧ after.effects = before.effects ∧
    after.device.pubackOpen = before.device.pubackOpen

theorem sameInput_branchBody (key : Urc) (run : MqttRun) (plain : key.tokenises = false) :
    SameInput run (branchBody key run) := by
  cases key <;> simp only [branchBody, id, openBranch, pubackBranch, unsubackBranch,
    discBranch, pubrecBranch, pubcompBranch, pingrespBranch, Urc.tokenises,
    Bool.true_eq_false] at plain ⊢ <;> (repeat' split) <;> exact ⟨rfl, rfl, rfl, rfl⟩

theorem sameInput_foldl (keys : List Urc) (run : MqttRun)
    (plain : ∀ key ∈ keys, Found run.event key.cmdPrefix → key.tokenises = false) :
    SameInput run (keys.foldl mqttBranch run) := by
  induction keys generalizing run with
  | nil => exact ⟨rfl, rfl, rfl, rfl⟩
  | cons key rest ih =>
      have here : SameInput run (mqttBranch run key) := by
        unfold mqttBranch
        split
        · exact ⟨rfl, rfl, rfl, rfl⟩
        · split
          · rename_i found
            have body := sameInput_branchBody key { run with entered := run.entered ++ [key] }
              (plain key List.mem_cons_self found)
            exact body
          · exact ⟨rfl, rfl, rfl, rfl⟩
      have later := ih (mqttBranch run key) (by
        intro other member
        rw [here.1]
        exact plain other (List.mem_cons_of_mem key member))
      rcases later with ⟨event, fault, effects, puback⟩
      exact ⟨event.trans here.1, fault.trans here.2.1, effects.trans here.2.2.1,
        puback.trans here.2.2.2⟩

/-- A line whose tests in front of a tokenising branch leave the text alone
reaches that branch with its text, and nothing runs behind it. -/
theorem mqttEventFunc_reaches (line : UrcLine) (mqtt : line.urc ∈ mqttBranches)
    (device : MqttDevice) (key : Urc) (before after : List Urc)
    (order : mqttBranches = before ++ key :: after) (tokenises : key.tokenises = true)
    (found : Found line.text key.cmdPrefix)
    (plain : ∀ other ∈ before, Found line.text other.cmdPrefix → other.tokenises = false) :
    ∃ run, mqttEventFunc line.text device = branchBody key run ∧
      SameInput { event := line.text, device } run := by
  have front := sameInput_foldl before { event := line.text, device } plain
  have split : mqttEventFunc line.text device = after.foldl mqttBranch
      (mqttBranch (before.foldl mqttBranch { event := line.text, device }) key) := by
    rw [mqttEventFunc, order, List.foldl_append, List.foldl_cons]
  rw [split]
  generalize before.foldl mqttBranch { event := line.text, device } = run at front
  rcases front with ⟨event, fault, effects, puback⟩
  have enter : mqttBranch run key =
      branchBody key { run with entered := run.entered ++ [key] } := by
    rw [mqttBranch, fault, if_neg (by simp), event, if_pos found]
  refine ⟨{ run with entered := run.entered ++ [key] }, ?_, event, fault, effects, puback⟩
  rw [enter]
  apply foldl_mqttBranch_of_not_found
  intro other member
  rw [branchBody_event, if_pos tokenises, event]
  apply not_found_tokenView line mqtt other
  rw [order]
  simp [member]

end BerPiNbiot.Modem
