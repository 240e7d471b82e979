import BerPiNbiot.Cloud.Control
import BerPiNbiot.Transition.Core

/-!
# Actuators behind the control messages

`qsdk_mqtt_data_callback` stores the decoded values in variables that outlive
the message and then drives the board from all of them.  What it does to the
board is a list of actions that depends only on the control variables after
extraction; the states the board passes through are the actions' prefixes.

The door variable is never reset after use, unlike the reconnect variable, so a
door command is repeated by every later message that leaves the door alone.
-/

namespace BerPiNbiot.Cloud

open BerPiNbiot.Text
open BerPiNbiot.Transition

/-! ## The board -/

/-- Output pins of `led.h`. -/
inductive Pin
  | suo
  | fengshan
  | led3
  deriving DecidableEq, Repr

/-- `PIN_LOW` and `PIN_HIGH` -/
inductive Level
  | low
  | high
  deriving DecidableEq, Repr

/-- Foreground colours of the status texts. -/
inductive Colour
  | red
  | green
  deriving DecidableEq, Repr

/-- The variables and pins that handling a control message can change, as
`rb_led_init` and the initialisers leave them. -/
structure Board where
  control : Control := {}
  autoFlag : UInt8 := 1
  ledflag : UInt8 := 0
  setLux : UInt16 := 25
  doorSta : UInt8 := 0
  usartData : UInt8 := 0
  suo : Level := .low
  fengshan : Level := .low
  led3 : Level := .low
  deriving DecidableEq, Repr

/-- One statement of the actuator phase. -/
inductive Action
  /-- `rt_pin_write(pin, level)` -/
  | pinWrite (pin : Pin) (level : Level)
  | setAutoFlag (value : UInt8)
  | setLedflag (value : UInt8)
  | setSetLux (value : UInt16)
  | setDoorSta (value : UInt8)
  /-- `usart_data[1] = value` -/
  | setUsartData (value : UInt8)
  | setConnectSta (value : UInt8)
  /-- `LCD_ShowCharStr(125, y, 30, text, BLACK, colour, 24)` -/
  | lcdShowCharStr (y : Nat) (text : Bytes) (colour : Colour)
  /-- `rt_thread_delay(ticks)` -/
  | threadDelay (ticks : Nat)
  /-- `rt_device_write(serial, 0, data, sizeof(data))` -/
  | deviceWrite (data : List UInt8)
  /-- `qsdk_nb_quick_connect()` -/
  | quickConnect
  deriving DecidableEq, Repr

/-- `rb_led_on` -/
def rbLedOn (pin : Pin) : Action := .pinWrite pin .high

/-- `rb_led_off` -/
def rbLedOff (pin : Pin) : Action := .pinWrite pin .low

/-- `rb_door_on` -/
def rbDoorOn (pin : Pin) : Action := .pinWrite pin .high

/-- `rb_door_off` -/
def rbDoorOff (pin : Pin) : Action := .pinWrite pin .low

/-- `rb_fengshan_on` -/
def rbFengshanOn (pin : Pin) : Action := .pinWrite pin .high

/-- `rb_fengshan_off` -/
def rbFengshanOff (pin : Pin) : Action := .pinWrite pin .low

/-- The board after one action. -/
def Board.act (board : Board) : Action → Board
  | .pinWrite .suo level => { board with suo := level }
  | .pinWrite .fengshan level => { board with fengshan := level }
  | .pinWrite .led3 level => { board with led3 := level }
  | .setAutoFlag value => { board with autoFlag := value }
  | .setLedflag value => { board with ledflag := value }
  | .setSetLux value => { board with setLux := value }
  | .setDoorSta value => { board with doorSta := value }
  | .setUsartData value => { board with usartData := value }
  | .setConnectSta value => { board with control := { board.control with connectSta := value } }
  | .lcdShowCharStr .. | .threadDelay _ | .deviceWrite _ | .quickConnect => board

/-! ## The actuator phase -/

/-- The lamp, by hand or by the light sensor. -/
def lampActions (control : Control) : List Action :=
  if control.isAuto = 0 ∨ control.smLight = 1 then
    .setAutoFlag 0 ::
      if control.lightSw = 1 ∨ control.smLight = 1 then
        [rbLedOn .led3, .setLedflag 1, .lcdShowCharStr 34 (ascii "On ") .red]
      else
        [rbLedOff .led3, .lcdShowCharStr 34 (ascii "OFF") .green, .setLedflag 0]
  else
    .setAutoFlag 1 :: if control.smLight = 2 then [rbLedOff .led3, .setLedflag 0] else []

/-- The threshold of the automatic lamp. -/
def luxActions (control : Control) : List Action :=
  if control.luxValue ≠ 0 then [.setSetLux control.luxValue] else []

/-- The door lock. -/
def doorActions (control : Control) : List Action :=
  if control.dool = 1 then
    [rbDoorOn .suo, .setDoorSta 1, .lcdShowCharStr 60 (ascii "On ") .green, .threadDelay 6000,
      rbDoorOff .suo, .setDoorSta 0]
  else if control.dool = 0 then
    [rbDoorOff .suo, .setDoorSta 0, .lcdShowCharStr 60 (ascii "OFF ") .red]
  else
    []

/-- The request to the camera module. -/
def k210Actions (control : Control) : List Action :=
  if control.k210Flag = 1 then
    [.setUsartData 1, .deviceWrite [0xaa, 1, 0xbb]]
  else if control.k210Flag = 0 then
    [.setUsartData 0, rbDoorOff .suo, .setDoorSta 0, .lcdShowCharStr 60 (ascii "OFF ") .red]
  else
    []

/-- The fan. -/
def fanActions (control : Control) : List Action :=
  if control.fan = 1 then [rbFengshanOn .fengshan]
  else if control.fan = 0 then [rbFengshanOff .fengshan]
  else []

/-- `NET_STA` -/
def netSta : UInt8 := 200

/-- The reconnect request, which is taken back when it is served. -/
def connectActions (control : Control) : List Action :=
  if control.connectSta = netSta then [.setConnectSta 0, .quickConnect] else []

/-- Everything after `cJSON_Delete(root)`, in order. -/
def actuatorActions (control : Control) : List Action :=
  lampActions control ++ luxActions control ++ doorActions control ++ k210Actions control ++
    fanActions control ++ connectActions control

/-- The handling of one message: the statements executed and the board states
passed through, the last of which is the state left behind. -/
structure Handling where
  start : Board
  actions : List Action
  deriving DecidableEq, Repr

/-- All states of the board while a message is handled. -/
def Handling.states (handling : Handling) : List Board :=
  handling.actions.scanl Board.act handling.start

/-- The board when the callback returns. -/
def Handling.finish (handling : Handling) : Board :=
  handling.actions.foldl Board.act handling.start

/-- `qsdk_mqtt_data_callback`; the error names the key whose null item is
dereferenced.  A text that does not parse is ignored. -/
def qsdkMqttDataCallback (cJsonParse : Bytes → Option CJson) (mesg : Bytes) (board : Board) :
    Except Key Handling :=
  match cJsonParse mesg with
  | none => .ok { start := board, actions := [] }
  | some root =>
      match extract root board.control with
      | .error key => .error key
      | .ok control =>
          .ok { start := { board with control := control }, actions := actuatorActions control }

/-- Handling a message as a move of the board. -/
def handleMessage (cJsonParse : Bytes → Option CJson) : Step Board Bytes :=
  fun board mesg =>
    match qsdkMqttDataCallback cJsonParse mesg board with
    | .error _ => none
    | .ok handling => some handling.finish

/-! ## The door -/

/-- A message that parses and carries all ten keys. -/
structure ControlMessage (cJsonParse : Bytes → Option CJson) where
  text : Bytes
  root : CJson
  parsed : cJsonParse text = some root
  complete : Complete root

variable {cJsonParse : Bytes → Option CJson}

/-- The door command of a message, if it carries a number for it. -/
def ControlMessage.doolOp (message : ControlMessage cJsonParse) : Option Int :=
  (message.root.numeric .doolOp).map (· % 256)

/-- The last door command of a history, zero before the first. -/
def lastDoolOp (history : List (ControlMessage cJsonParse)) : Int :=
  history.foldl (fun last message => message.doolOp.getD last) 0

/-- The lock output together with the reported door state. -/
def Board.door (board : Board) : Level × UInt8 :=
  (board.suo, board.doorSta)

/-- The door as `rb_led_init` leaves it. -/
def doorClosed : Level × UInt8 :=
  (.low, 0)

/-- The action opens the lock or reports the door open. -/
def Action.opens : Action → Bool
  | .pinWrite .suo .high => true
  | .setDoorSta value => value ≠ 0
  | _ => false

theorem act_door_of_not_opens {action : Action} (harmless : action.opens = false)
    {board : Board} (closed : board.door = doorClosed) :
    (board.act action).door = doorClosed := by
  cases action with
  | pinWrite pin level =>
      cases pin with
      | suo =>
          cases level with
          | low =>
              rw [Board.door, doorClosed, Prod.mk.injEq] at closed ⊢
              exact ⟨rfl, closed.2⟩
          | high => contradiction
      | fengshan | led3 => exact closed
  | setDoorSta value =>
      have zero : value = 0 := by simpa [Action.opens] using harmless
      rw [Board.door, doorClosed, Prod.mk.injEq] at closed ⊢
      exact ⟨closed.1, zero⟩
  | _ => exact closed

/-- Actions that do not open a closed door keep it closed all the way. -/
theorem scanl_door_of_not_opens {actions : List Action}
    (harmless : ∀ action ∈ actions, action.opens = false) {board : Board}
    (closed : board.door = doorClosed) :
    ∀ state ∈ actions.scanl Board.act board, state.door = doorClosed := by
  induction actions generalizing board with
  | nil =>
      intro state member
      rw [List.scanl_nil, List.mem_singleton] at member
      rw [member]
      exact closed
  | cons action rest ih =>
      rw [List.forall_mem_cons] at harmless
      intro state member
      rw [List.scanl_cons, List.mem_cons] at member
      rcases member with here | later
      · rw [here]
        exact closed
      · exact ih harmless.2 (act_door_of_not_opens harmless.1 closed) state later

theorem foldl_door_of_not_opens {actions : List Action}
    (harmless : ∀ action ∈ actions, action.opens = false) {board : Board}
    (closed : board.door = doorClosed) :
    (actions.foldl Board.act board).door = doorClosed := by
  induction actions generalizing board with
  | nil => exact closed
  | cons action rest ih =>
      rw [List.forall_mem_cons] at harmless
      exact ih harmless.2 (act_door_of_not_opens harmless.1 closed)

/-- No action writes the door command. -/
theorem foldl_dool (actions : List Action) (board : Board) :
    (actions.foldl Board.act board).control.dool = board.control.dool := by
  induction actions generalizing board with
  | nil => rfl
  | cons action rest ih =>
      rw [List.foldl_cons, ih]
      cases action with
      | pinWrite pin level => cases pin <;> rfl
      | _ => rfl

theorem lampActions_not_opens (control : Control) :
    ∀ action ∈ lampActions control, action.opens = false := by
  unfold lampActions
  split_ifs <;> simp [rbLedOn, rbLedOff, Action.opens]

theorem luxActions_not_opens (control : Control) :
    ∀ action ∈ luxActions control, action.opens = false := by
  unfold luxActions
  split_ifs <;> simp [Action.opens]

theorem k210Actions_not_opens (control : Control) :
    ∀ action ∈ k210Actions control, action.opens = false := by
  unfold k210Actions
  split_ifs <;> simp [rbDoorOff, Action.opens]

theorem fanActions_not_opens (control : Control) :
    ∀ action ∈ fanActions control, action.opens = false := by
  unfold fanActions
  split_ifs <;> simp [rbFengshanOn, rbFengshanOff, Action.opens]

theorem connectActions_not_opens (control : Control) :
    ∀ action ∈ connectActions control, action.opens = false := by
  unfold connectActions
  split_ifs <;> simp [Action.opens]

theorem doorActions_not_opens {control : Control} (idle : control.dool ≠ 1) :
    ∀ action ∈ doorActions control, action.opens = false := by
  rw [doorActions, if_neg idle]
  split_ifs <;> simp [rbDoorOff, Action.opens]

/-- The door segment leaves a closed door closed, also when it opens it on the
way. -/
theorem foldl_doorActions (control : Control) {board : Board}
    (closed : board.door = doorClosed) :
    ((doorActions control).foldl Board.act board).door = doorClosed := by
  by_cases request : control.dool = 1
  · rw [doorActions, if_pos request]
    rfl
  · exact foldl_door_of_not_opens (doorActions_not_opens request) closed

/-- Only the door segment can open the door. -/
theorem mem_actuatorActions_of_opens {control : Control} {action : Action}
    (opens : action.opens = true) :
    action ∈ actuatorActions control ↔ action ∈ doorActions control := by
  have elsewhere : ∀ {actions : List Action},
      (∀ other ∈ actions, other.opens = false) → action ∉ actions := by
    intro actions harmless member
    rw [harmless action member] at opens
    contradiction
  simp only [actuatorActions, List.mem_append, elsewhere (lampActions_not_opens control),
    elsewhere (luxActions_not_opens control), elsewhere (k210Actions_not_opens control),
    elsewhere (fanActions_not_opens control), elsewhere (connectActions_not_opens control),
    false_or, or_false]

/-- The lock is opened exactly under the door command one. -/
theorem rbDoorOn_mem_iff (control : Control) :
    rbDoorOn .suo ∈ actuatorActions control ↔ control.dool = 1 := by
  rw [mem_actuatorActions_of_opens rfl]
  constructor
  · intro member
    by_contra idle
    have harmless := doorActions_not_opens idle _ member
    contradiction
  · intro request
    rw [doorActions, if_pos request]
    exact List.mem_cons_self

/-- Without the door command one a closed door stays closed throughout. -/
theorem actuatorActions_not_opens {control : Control} (idle : control.dool ≠ 1) :
    ∀ action ∈ actuatorActions control, action.opens = false := by
  intro action member
  by_contra opens
  rw [Bool.not_eq_false] at opens
  rw [mem_actuatorActions_of_opens opens] at member
  rw [doorActions_not_opens idle action member] at opens
  contradiction

/-- Every message leaves a closed door closed behind. -/
theorem foldl_actuatorActions (control : Control) {board : Board}
    (closed : board.door = doorClosed) :
    ((actuatorActions control).foldl Board.act board).door = doorClosed := by
  simp only [actuatorActions, List.foldl_append]
  apply foldl_door_of_not_opens (connectActions_not_opens control)
  apply foldl_door_of_not_opens (fanActions_not_opens control)
  apply foldl_door_of_not_opens (k210Actions_not_opens control)
  apply foldl_doorActions control
  apply foldl_door_of_not_opens (luxActions_not_opens control)
  exact foldl_door_of_not_opens (lampActions_not_opens control) closed

/-! ## Histories of messages -/

/-- The door command that a message leaves in `dool`. -/
theorem dool_after {root : CJson} {control after : Control}
    (decoded : after.read .doolOp = decodedValue root control .doolOp) :
    (after.dool.toNat : Int) =
      ((root.numeric .doolOp).map (· % 256)).getD (control.dool.toNat : Int) := by
  change after.read .doolOp = _
  rw [decoded, decodedValue]
  cases root.numeric .doolOp <;> rfl

/-- Handling a complete message runs to its end with `dool` updated. -/
theorem callback_of_message (message : ControlMessage cJsonParse) (board : Board) :
    ∃ control : Control,
      qsdkMqttDataCallback cJsonParse message.text board =
        .ok { start := { board with control := control },
              actions := actuatorActions control } ∧
      (control.dool.toNat : Int) = message.doolOp.getD board.control.dool.toNat := by
  rcases extract_of_complete message.complete board.control with ⟨control, extracted, decoded⟩
  refine ⟨control, ?_, dool_after (decoded .doolOp)⟩
  rw [qsdkMqttDataCallback, message.parsed]
  simp only [extracted]

/-- What holds of the board between two messages. -/
structure Rest (history : List (ControlMessage cJsonParse)) (board : Board) : Prop where
  dool : (board.control.dool.toNat : Int) = lastDoolOp history
  closed : board.door = doorClosed

theorem rest_initial : Rest ([] : List (ControlMessage cJsonParse)) {} :=
  ⟨rfl, rfl⟩

/-- One message takes a board at rest to a board at rest. -/
theorem rest_step {history : List (ControlMessage cJsonParse)} {board : Board}
    (rest : Rest history board) (message : ControlMessage cJsonParse) :
    ∃ after, handleMessage cJsonParse board message.text = some after ∧
      Rest (history ++ [message]) after := by
  rcases callback_of_message message board with ⟨control, handled, dool⟩
  refine ⟨_, by rw [handleMessage, handled], ?_, ?_⟩
  · rw [Handling.finish, foldl_dool, dool, rest.dool, lastDoolOp, lastDoolOp, List.foldl_append]
    rfl
  · exact foldl_actuatorActions control rest.closed

/-- Every history of messages is handled to its end. -/
theorem rest_of_history (history : List (ControlMessage cJsonParse)) :
    ∃ board, exec (handleMessage cJsonParse) {} (history.map (·.text)) = some board ∧
      Rest history board := by
  induction history using List.reverseRecOn with
  | nil => exact ⟨{}, rfl, rest_initial⟩
  | append_singleton earlier message ih =>
      rcases ih with ⟨board, executed, rest⟩
      rcases rest_step rest message with ⟨after, step, restAfter⟩
      refine ⟨after, ?_, restAfter⟩
      rw [List.map_append, exec_append, executed]
      simp [exec_cons, step]

/-- The door obeys a message: it is opened while the message is handled exactly
when the message asks for it, and a message without a number for the door or
the camera leaves lock and door state as they were at every moment. -/
def ObeysMessage (message : ControlMessage cJsonParse) (board : Board)
    (handling : Handling) : Prop :=
  (rbDoorOn .suo ∈ handling.actions ↔ message.doolOp = some 1) ∧
    (message.root.numeric .doolOp = none → message.root.numeric .k210Flag = none →
      ∀ state ∈ handling.states, state.door = board.door)

/-- After every history, a message is obeyed by the door if and only if it
carries a door command itself or the last door command before it was not to
open. -/
theorem door_obeys_message_iff (history : List (ControlMessage cJsonParse))
    (message : ControlMessage cJsonParse) :
    ∃ board handling,
      exec (handleMessage cJsonParse) {} (history.map (·.text)) = some board ∧
      qsdkMqttDataCallback cJsonParse message.text board = .ok handling ∧
      (ObeysMessage message board handling ↔
        message.doolOp ≠ none ∨ lastDoolOp history ≠ 1) := by
  rcases rest_of_history history with ⟨board, executed, rest⟩
  rcases callback_of_message message board with ⟨control, handled, dool⟩
  refine ⟨board, _, executed, handled, ?_⟩
  rw [rest.dool] at dool
  have opened : rbDoorOn .suo ∈ actuatorActions control ↔
      message.doolOp.getD (lastDoolOp history) = 1 := by
    rw [rbDoorOn_mem_iff, ← dool, ← UInt8.toNat_inj]
    exact Int.natCast_inj.symm
  rw [ObeysMessage, opened]
  cases command : message.doolOp with
  | some value =>
      have numeric : message.root.numeric .doolOp ≠ none := by
        intro absent
        rw [ControlMessage.doolOp, absent] at command
        contradiction
      simp [numeric]
  | none =>
      simp only [Option.getD_none, reduceCtorEq, iff_false, ne_eq, not_true_eq_false, false_or]
      constructor
      · exact fun obeyed => obeyed.1
      · intro idle
        constructor
        · exact idle
        · intro _ _
          rw [rest.closed]
          have notOne : control.dool ≠ 1 := by
            intro one
            rw [command, one] at dool
            exact idle dool.symm
          exact scanl_door_of_not_opens (actuatorActions_not_opens notOne) rest.closed

/-- The message that opens the door as a control message. -/
def doorRequest : ControlMessage sampleParse where
  text := doorText
  root := doorMessage
  parsed := doorText_parsed
  complete := doorMessage_complete

/-- The message without numbers as a control message. -/
def idleRequest : ControlMessage sampleParse where
  text := idleText
  root := idleMessage
  parsed := idleText_parsed
  complete := idleMessage_complete

/-- The message after a door command opens the door a second time. -/
theorem idleRequest_repeats_door :
    ∃ board handling,
      exec (handleMessage sampleParse) {} [doorRequest.text] = some board ∧
      qsdkMqttDataCallback sampleParse idleRequest.text board = .ok handling ∧
      idleRequest.doolOp = none ∧ rbDoorOn .suo ∈ handling.actions ∧
      ¬ ObeysMessage idleRequest board handling := by
  rcases rest_of_history [doorRequest] with ⟨board, executed, rest⟩
  rcases callback_of_message idleRequest board with ⟨control, handled, dool⟩
  have noCommand : idleRequest.doolOp = none := rfl
  have latched : (control.dool.toNat : Int) = 1 := by
    rw [dool, rest.dool, noCommand]
    rfl
  have opened : rbDoorOn .suo ∈ actuatorActions control := by
    rw [rbDoorOn_mem_iff, ← UInt8.toNat_inj]
    exact Int.natCast_inj.mp latched
  refine ⟨board, _, executed, handled, noCommand, opened, ?_⟩
  intro obeyed
  have requested := obeyed.1.mp opened
  rw [noCommand] at requested
  cases requested

end BerPiNbiot.Cloud
