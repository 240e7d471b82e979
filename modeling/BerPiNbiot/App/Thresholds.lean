import BerPiNbiot.App.Keys
import BerPiNbiot.Cloud.Callback

/-!
# Thresholds with two setters

`set_lux` is written by the keys and by the handler of control messages, which
keeps the last number it was sent in a variable of its own and writes it again
behind every message.  The number sent for `set_adc` goes to a variable that
nothing reads.
-/

namespace BerPiNbiot.App.Key

open BerPiNbiot.Text
open BerPiNbiot.Transition
open BerPiNbiot.Cloud

/-! ## The two setters -/

/-- The handler's board and the panel, which share `set_lux`. -/
structure Station where
  board : Board
  panel : Panel
  shared : panel.setLux = board.setLux

/-- The setters in their order. -/
inductive Setter (cJsonParse : Bytes → Option CJson)
  /-- a control message with all ten keys -/
  | message (message : ControlMessage cJsonParse)
  /-- an iteration of the key thread -/
  | keys (keys : Keys)

variable {cJsonParse : Bytes → Option CJson}

/-- One setter's move. -/
def stationStep : Step Station (Setter cJsonParse)
  | station, .message message =>
      (handleMessage cJsonParse station.board message.text).map fun board =>
        { board, panel := { station.panel with setLux := board.setLux }, shared := rfl }
  | station, .keys keys =>
      (keyStep station.panel keys).map fun panel =>
        { board := { station.board with setLux := panel.setLux }, panel, shared := rfl }

/-- What the message should leave in `set_lux`. -/
def requestedLux (message : ControlMessage cJsonParse) (setLux : UInt16) : Int :=
  match message.root.numeric .setLux with
  | none => setLux.toNat
  | some valueint => if valueint % 65536 = 0 then setLux.toNat else valueint % 65536

/-- The thresholds follow a message. -/
structure Follows (before : Station) (message : ControlMessage cJsonParse) (after : Station) :
    Prop where
  setLux : (after.panel.setLux.toNat : Int) = requestedLux message before.panel.setLux
  setAdc : ∀ valueint, message.root.numeric .setAdc = some valueint →
    (after.panel.setAdc.toNat : Int) = valueint % 256

/-- A message that says nothing about the light finds the remembered number
zero or in force, and one with a number for the gas finds it in force. -/
def InForce (station : Station) : Setter cJsonParse → Prop
  | .keys _ => True
  | .message message =>
      (message.root.numeric .setLux = none →
          station.board.control.luxValue = 0 ∨
            station.board.control.luxValue = station.panel.setLux) ∧
        ∀ valueint, message.root.numeric .setAdc = some valueint →
          (station.panel.setAdc.toNat : Int) = valueint % 256

/-! ## One message -/

theorem setLux_actuatorActions (control : Control) (board : Board) :
    ((actuatorActions control).foldl Board.act board).setLux =
      if control.luxValue ≠ 0 then control.luxValue else board.setLux := by
  have lamp : ((lampActions control).foldl Board.act board).setLux = board.setLux := by
    unfold lampActions
    split_ifs <;> rfl
  have door : ∀ board, ((doorActions control).foldl Board.act board).setLux = board.setLux := by
    intro board
    unfold doorActions
    split_ifs <;> rfl
  have k210 : ∀ board, ((k210Actions control).foldl Board.act board).setLux = board.setLux := by
    intro board
    unfold k210Actions
    split_ifs <;> rfl
  have fan : ∀ board, ((fanActions control).foldl Board.act board).setLux = board.setLux := by
    intro board
    unfold fanActions
    split_ifs <;> rfl
  have connect : ∀ board,
      ((connectActions control).foldl Board.act board).setLux = board.setLux := by
    intro board
    unfold connectActions
    split_ifs <;> rfl
  simp only [actuatorActions, List.foldl_append, connect, fan, k210, door]
  unfold luxActions
  split_ifs
  · rfl
  · exact lamp

/-- A message assigns the number it carries, or else the one remembered, unless
this is zero. -/
theorem handleMessage_setLux (message : ControlMessage cJsonParse) (board : Board) :
    ∃ (after : Board) (luxValue : UInt16),
      handleMessage cJsonParse board message.text = some after ∧
      after.setLux = (if luxValue ≠ 0 then luxValue else board.setLux) ∧
      (luxValue.toNat : Int) = decodedValue message.root board.control .setLux := by
  obtain ⟨control, extracted, decoded⟩ := extract_of_complete message.complete board.control
  refine ⟨_, control.luxValue, ?_, setLux_actuatorActions control { board with control },
    decoded .setLux⟩
  rw [handleMessage, qsdkMqttDataCallback, message.parsed]
  simp only [extracted, Handling.finish]

/-- What a message assigns to `set_lux` against what it should assign. -/
theorem assigned_eq_requested_iff {message : ControlMessage cJsonParse} {control : Control}
    {luxValue : UInt16}
    (decoded : (luxValue.toNat : Int) = decodedValue message.root control .setLux)
    (setLux : UInt16) :
    ((if luxValue ≠ 0 then luxValue else setLux).toNat : Int) = requestedLux message setLux ↔
      (message.root.numeric .setLux = none →
        control.luxValue = 0 ∨ control.luxValue = setLux) := by
  unfold requestedLux
  unfold decodedValue at decoded
  cases number : message.root.numeric .setLux with
  | none =>
      rw [number] at decoded
      have remembered : luxValue = control.luxValue :=
        UInt16.toNat_inj.mp (Int.natCast_inj.mp decoded)
      rw [← remembered]
      by_cases zero : luxValue = 0
      · simp [zero]
      · simp only [ne_eq, zero, not_false_eq_true, if_true, forall_const, false_or]
        rw [Int.natCast_inj, UInt16.toNat_inj]
  | some valueint =>
      rw [number] at decoded
      have truncated : (luxValue.toNat : Int) = valueint % 65536 := decoded
      refine iff_of_true ?_ fun absent => absurd absent (Option.some_ne_none valueint)
      simp only [← truncated]
      by_cases zero : luxValue = 0
      · simp [zero]
      · have positive : (luxValue.toNat : Int) ≠ 0 := by
          intro none
          exact zero (UInt16.toNat_inj.mp (Int.natCast_inj.mp none))
        simp only [ne_eq, zero, not_false_eq_true, if_true, positive, if_false]

theorem stationStep_message (station : Station) (message : ControlMessage cJsonParse) :
    ∃ after, stationStep station (.message message) = some after ∧
      (Follows station message after ↔ InForce station (.message message)) := by
  obtain ⟨board, luxValue, handled, setLux, decoded⟩ := handleMessage_setLux message station.board
  refine ⟨_, by rw [stationStep, handled, Option.map_some], ?_⟩
  rw [← station.shared] at setLux
  have lux := assigned_eq_requested_iff decoded station.panel.setLux
  rw [← setLux] at lux
  constructor
  · rintro ⟨luxFollows, adcFollows⟩
    exact ⟨lux.mp luxFollows, adcFollows⟩
  · rintro ⟨luxInForce, adcInForce⟩
    exact ⟨lux.mpr luxInForce, adcInForce⟩

/-! ## Whole histories -/

/-- Along every history of messages and key presses the thresholds follow each
message exactly when each message finds what it does not say, or cannot change,
in force. -/
theorem thresholds_follow_iff (start : Station) (run : List (Setter cJsonParse)) :
    (∀ first message, first ++ [.message message] <+: run →
        ∀ before, exec stationStep start first = some before →
          ∃ after, stationStep before (.message message) = some after ∧
            Follows before message after) ↔
      Guarded stationStep InForce start run := by
  rw [guarded_iff_forall]
  constructor
  · intro follow first label begins before executed
    cases label with
    | keys keys => trivial
    | message message =>
        obtain ⟨after, moved, follows⟩ := follow first message begins before executed
        obtain ⟨same, movedSame, exact⟩ := stationStep_message before message
        rw [moved, Option.some.injEq] at movedSame
        rw [← exact, ← movedSame]
        exact follows
  · intro inForce first message begins before executed
    obtain ⟨after, moved, exact⟩ := stationStep_message before message
    exact ⟨after, moved, exact.mpr (inForce first _ begins before executed)⟩

/-- A message with all ten keys; it sets the light to 40 and the gas to 77. -/
def limitsMessage : CJson :=
  .object (Cloud.keys.map fun key => (key.name,
    if key = .setLux then .number 40 else if key = .setAdc then .number 77 else .null))

/-- The text of this message. -/
def limitsText : Bytes :=
  objectText fun key =>
    if key = .setLux then ascii "40" else if key = .setAdc then ascii "77" else ascii "null"

/-- `cJSON_Parse` on this message and on one without numbers. -/
def limitsParse (mesg : Bytes) : Option CJson :=
  if mesg = limitsText then some limitsMessage
  else if mesg = idleText then some idleMessage
  else none

theorem limitsText_parsed : limitsParse limitsText = some limitsMessage :=
  if_pos rfl

theorem idleText_limitsParsed : limitsParse idleText = some idleMessage := by
  have differs : idleText ≠ limitsText := by
    decide
  rw [limitsParse, if_neg differs, if_pos rfl]

theorem limitsMessage_complete : Complete limitsMessage := by
  intro key _
  cases key <;> simp [limitsMessage, cJsonGetObjectItem, CJson.child, Cloud.keys, cJsonStrcasecmp]

/-- The message with two limits as a control message. -/
def limitsRequest : ControlMessage limitsParse where
  text := limitsText
  root := limitsMessage
  parsed := limitsText_parsed
  complete := limitsMessage_complete

/-- The message without numbers as a control message. -/
def quietRequest : ControlMessage limitsParse where
  text := idleText
  root := idleMessage
  parsed := idleText_limitsParsed
  complete := idleMessage_complete

/-- Board and panel after start-up. -/
def stationStart (currentMenu : UInt8) : Station where
  board := {}
  panel := { currentMenu }
  shared := rfl

/-- The cloud sets the light to 40, and the keys count it up to 41. -/
def cloudThenKeys : List (Setter limitsParse) :=
  .message limitsRequest :: [plusKey, plusKey, minusKey, plusKey].map .keys

private theorem cloudThenKeys_values :
    (exec stationStep (stationStart 0) cloudThenKeys).map
        (fun station => (station.panel.setLux, station.panel.setAdc)) = some (41, 55) ∧
      (exec stationStep (stationStart 0) (cloudThenKeys ++ [.message quietRequest])).map
        (fun station => station.panel.setLux) = some 40 := by
  decide +kernel

/-- A message without numbers brings the cloud's value back, and the number sent
for the gas has had no effect. -/
theorem quietRequest_overrides_keys :
    ∃ before after, exec stationStep (stationStart 0) cloudThenKeys = some before ∧
      stationStep before (.message quietRequest) = some after ∧
      quietRequest.root.numeric .setLux = none ∧
      before.panel.setLux = 41 ∧ before.panel.setAdc = 55 ∧ after.panel.setLux = 40 ∧
      ¬ Follows before quietRequest after := by
  obtain ⟨values, later⟩ := cloudThenKeys_values
  obtain ⟨before, executed, pair⟩ := Option.map_eq_some_iff.mp values
  obtain ⟨after, moved, -⟩ := stationStep_message before quietRequest
  rw [Prod.mk.injEq] at pair
  rw [exec_append, executed, Option.bind_some, exec_cons, moved] at later
  have overridden : after.panel.setLux = 40 := Option.some.inj later
  have absent : quietRequest.root.numeric .setLux = none := rfl
  refine ⟨before, after, executed, moved, absent, pair.1, pair.2, overridden, ?_⟩
  intro follows
  have kept := follows.setLux
  rw [requestedLux, absent, overridden, pair.1] at kept
  have wrong : (40 : Int) = 41 := kept
  omega

end BerPiNbiot.App.Key
