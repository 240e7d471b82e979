import BerPiNbiot.Cloud.Callback

/-!
# Door and lamp outputs

Three threads drive the lock output, the lamp and the two variables that report
them: the handler of control messages, the serial thread of the camera module
and the light sensor's thread.  A thread is given up only at a blocking call, so
the statements between two of them are one move.

The lock output is high only inside the opening window of one of the first two
threads: whoever has opened it last is still waiting, because every window ends
by closing the lock, also while the other thread's window is open.
-/

namespace BerPiNbiot.Cloud

open BerPiNbiot.Text
open BerPiNbiot.Transition

/-! ## Blocks of statements -/

/-- The calls at which a thread waits. -/
def Action.blocks : Action → Bool
  | .threadDelay _ | .quickConnect => true
  | _ => false

/-- Where a thread stands in its statements. -/
inductive Progress
  | idle
  /-- at a blocking call, with the statements behind it -/
  | blocked (call : Action) (rest : List Action)
  deriving DecidableEq, Repr

/-- The statements up to the next blocking call. -/
def runBlock (board : Board) : List Action → Board × Progress
  | [] => (board, .idle)
  | action :: rest =>
      if action.blocks then (board, .blocked action rest) else runBlock (board.act action) rest

/-- The thread is inside its opening window. -/
def Progress.InWindow : Progress → Prop
  | .blocked (.threadDelay _) _ => True
  | _ => False

theorem runBlock_append {first : List Action} (quiet : ∀ action ∈ first, action.blocks = false)
    (board : Board) (second : List Action) :
    runBlock board (first ++ second) = runBlock (first.foldl Board.act board) second := by
  induction first generalizing board with
  | nil => rfl
  | cons action rest ih =>
      rw [List.forall_mem_cons] at quiet
      rw [List.cons_append, runBlock, quiet.1, if_neg Bool.false_ne_true, ih quiet.2]
      rfl

/-! ## The other threads -/

/-- `serial_thread_entry` on one received message: what `rt_device_read` has
put into `rx_buffer` is compared as a string. -/
def serialActions (rxBuffer : Bytes) : List Action :=
  if rxBuffer.takeWhile (· ≠ 0) = ascii "1" then
    [rbDoorOn .suo, .setDoorSta 1, .lcdShowCharStr 60 (ascii "On ") .green, .threadDelay 5000,
      rbDoorOff .suo, .setDoorSta 0, .lcdShowCharStr 60 (ascii "OFF ") .red]
  else
    []

/-- The globals of the light sensor's thread. -/
structure Light where
  luxValue : UInt16 := 0
  warnLux : UInt8 := 0
  deriving DecidableEq, Repr

/-- The first half of a turn of `app_bh1750_thread_entry` in automatic mode:
count dark samples up and bright ones down, and switch the lamp off at zero. -/
def lightCount (light : Light) (setLux : UInt16) : Light × List Action :=
  if light.luxValue ≤ setLux then
    let warnLux := light.warnLux + 1
    ({ light with warnLux := if warnLux ≥ 200 then 1 else warnLux }, [])
  else if light.warnLux = 0 then
    (light, [rbLedOff .led3, .setLedflag 0, .lcdShowCharStr 34 (ascii "OFF") .green])
  else
    ({ light with warnLux := light.warnLux - 1 }, [])

/-- The second half: switch the lamp on after enough dark samples. -/
def lightSwitch (light : Light) : List Action :=
  if light.warnLux ≥ 5 then
    [.lcdShowCharStr 34 (ascii "On ") .red, rbLedOn .led3, .setLedflag 1]
  else
    []

/-- The value that `rt_device_read` leaves in `lux_value`, if it succeeds. -/
def lightRead (sample : Option Int) (light : Light) : Light :=
  match sample with
  | none => light
  | some value => { light with luxValue := UInt16.ofInt (value.tdiv 10) }

/-- A turn of `app_bh1750_thread_entry`. -/
def lightTurn (sample : Option Int) (light : Light) (board : Board) : Light × List Action :=
  let light := lightRead sample light
  if board.autoFlag = 1 then
    let (counted, actions) := lightCount light board.setLux
    (counted, actions ++ lightSwitch counted)
  else
    (light, [])

/-! ## The interleaved threads -/

/-- The board with the threads that drive it. -/
structure Outputs where
  board : Board
  light : Light := {}
  handler : Progress := .idle
  serial : Progress := .idle
  deriving DecidableEq, Repr

/-- The moves of the threads. -/
inductive OutputMove
  /-- a control message reaches the handler -/
  | message (mesg : Bytes)
  /-- the handler's blocking call returns -/
  | handlerResumes
  /-- the serial thread reads from the camera module -/
  | frame (rxBuffer : Bytes)
  /-- the serial thread's delay is over -/
  | serialResumes
  /-- a turn of the light sensor's thread -/
  | sample (value : Option Int)
  /-- the keys change the threshold -/
  | setLux (value : UInt16)
  deriving DecidableEq, Repr

/-- One move; a thread takes up new work only when it is idle. -/
def outputStep (cJsonParse : Bytes → Option CJson) : Step Outputs OutputMove
  | state, .message mesg =>
      match state.handler, qsdkMqttDataCallback cJsonParse mesg state.board with
      | .idle, .ok handling =>
          let (board, handler) := runBlock handling.start handling.actions
          some { state with board, handler }
      | _, _ => none
  | state, .handlerResumes =>
      match state.handler with
      | .idle => none
      | .blocked _ rest =>
          let (board, handler) := runBlock state.board rest
          some { state with board, handler }
  | state, .frame rxBuffer =>
      match state.serial with
      | .idle =>
          let (board, serial) := runBlock state.board (serialActions rxBuffer)
          some { state with board, serial }
      | .blocked .. => none
  | state, .serialResumes =>
      match state.serial with
      | .idle => none
      | .blocked _ rest =>
          let (board, serial) := runBlock state.board rest
          some { state with board, serial }
  | state, .sample value =>
      let (light, actions) := lightTurn value state.light state.board
      some { state with light, board := actions.foldl Board.act state.board }
  | state, .setLux value => some { state with board := { state.board with setLux := value } }

/-! ## What a block keeps -/

/-- The outputs agree with the variables that report them. -/
structure Agrees (board : Board) : Prop where
  door : board.suo = .high ↔ board.doorSta = 1
  lamp : board.led3 = .high ↔ board.ledflag = 1

/-- Statements that keep the agreement and do not open the lock. -/
structure Keeps (before after : Board) : Prop where
  agrees : Agrees before → Agrees after
  shut : after.suo = .high → before.suo = .high

theorem Keeps.refl (board : Board) : Keeps board board :=
  ⟨id, id⟩

theorem Keeps.trans {first second third : Board} (one : Keeps first second)
    (other : Keeps second third) : Keeps first third :=
  ⟨other.agrees ∘ one.agrees, one.shut ∘ other.shut⟩

/-- Statements that change neither an output nor its report. -/
theorem keeps_of_eq {before after : Board} (door : after.door = before.door)
    (led3 : after.led3 = before.led3) (ledflag : after.ledflag = before.ledflag) :
    Keeps before after := by
  rw [Board.door, Board.door, Prod.mk.injEq] at door
  constructor
  · rintro ⟨doorAgrees, lampAgrees⟩
    rw [← door.1, ← door.2] at doorAgrees
    rw [← led3, ← ledflag] at lampAgrees
    exact ⟨doorAgrees, lampAgrees⟩
  · rw [door.1]
    exact id

/-- Switching the lamp together with its report. -/
theorem keeps_lamp {before after : Board} (door : after.door = before.door)
    (lamp : after.led3 = .high ∧ after.ledflag = 1 ∨ after.led3 = .low ∧ after.ledflag = 0) :
    Keeps before after := by
  rw [Board.door, Board.door, Prod.mk.injEq] at door
  constructor
  · intro agrees
    have doorAgrees := agrees.door
    rw [← door.1, ← door.2] at doorAgrees
    refine ⟨doorAgrees, ?_⟩
    rcases lamp with ⟨on, reported⟩ | ⟨off, reported⟩
    · simp [on, reported]
    · simp [off, reported]
  · rw [door.1]
    exact id

/-- Closing the lock together with its report. -/
theorem keeps_closed {before after : Board} (closed : after.door = doorClosed)
    (led3 : after.led3 = before.led3) (ledflag : after.ledflag = before.ledflag) :
    Keeps before after := by
  rw [Board.door, doorClosed, Prod.mk.injEq] at closed
  constructor
  · intro agrees
    have lampAgrees := agrees.lamp
    rw [← led3, ← ledflag] at lampAgrees
    exact ⟨by simp [closed.1, closed.2], lampAgrees⟩
  · rw [closed.1]
    intro moving
    contradiction

theorem keeps_lampActions (control : Control) (board : Board) :
    Keeps board ((lampActions control).foldl Board.act board) := by
  unfold lampActions
  split
  · split
    · exact keeps_lamp rfl (Or.inl ⟨rfl, rfl⟩)
    · exact keeps_lamp rfl (Or.inr ⟨rfl, rfl⟩)
  · split
    · exact keeps_lamp rfl (Or.inr ⟨rfl, rfl⟩)
    · exact keeps_of_eq rfl rfl rfl

theorem keeps_luxActions (control : Control) (board : Board) :
    Keeps board ((luxActions control).foldl Board.act board) := by
  unfold luxActions
  split
  · exact keeps_of_eq rfl rfl rfl
  · exact Keeps.refl board

theorem keeps_k210Actions (control : Control) (board : Board) :
    Keeps board ((k210Actions control).foldl Board.act board) := by
  unfold k210Actions
  split
  · exact keeps_of_eq rfl rfl rfl
  · split
    · exact keeps_closed rfl rfl rfl
    · exact Keeps.refl board

theorem keeps_fanActions (control : Control) (board : Board) :
    Keeps board ((fanActions control).foldl Board.act board) := by
  unfold fanActions
  split
  · exact keeps_of_eq rfl rfl rfl
  · split
    · exact keeps_of_eq rfl rfl rfl
    · exact Keeps.refl board

/-- The light sensor's thread keeps the agreement, too. -/
theorem keeps_lightTurn (sample : Option Int) (light : Light) (board : Board) :
    Keeps board ((lightTurn sample light board).2.foldl Board.act board) := by
  have counted : ∀ light setLux board,
      Keeps board ((lightCount light setLux).2.foldl Board.act board) := by
    intro light setLux board
    unfold lightCount
    split
    · exact Keeps.refl board
    · split
      · exact keeps_lamp rfl (Or.inr ⟨rfl, rfl⟩)
      · exact Keeps.refl board
  have switched : ∀ light board, Keeps board ((lightSwitch light).foldl Board.act board) := by
    intro light board
    unfold lightSwitch
    split
    · exact keeps_lamp rfl (Or.inl ⟨rfl, rfl⟩)
    · exact Keeps.refl board
  by_cases automatic : board.autoFlag = 1
  · simp only [lightTurn, if_pos automatic, List.foldl_append]
    exact (counted _ _ board).trans (switched _ _)
  · simp only [lightTurn, if_neg automatic]
    exact Keeps.refl board

/-! ## Blocks of the handler -/

/-- The statements behind the door. -/
def behindDoor (control : Control) : List Action :=
  k210Actions control ++ (fanActions control ++ connectActions control)

theorem actuatorActions_eq (control : Control) :
    actuatorActions control =
      lampActions control ++
        (luxActions control ++ (doorActions control ++ behindDoor control)) := by
  simp only [actuatorActions, behindDoor, List.append_assoc]

theorem quiet_lampActions (control : Control) :
    ∀ action ∈ lampActions control, action.blocks = false := by
  unfold lampActions
  split <;> split <;> simp [Action.blocks, rbLedOn, rbLedOff]

theorem quiet_luxActions (control : Control) :
    ∀ action ∈ luxActions control, action.blocks = false := by
  unfold luxActions
  split <;> simp [Action.blocks]

theorem quiet_k210Actions (control : Control) :
    ∀ action ∈ k210Actions control, action.blocks = false := by
  unfold k210Actions
  split
  · simp [Action.blocks]
  · split <;> simp [Action.blocks, rbDoorOff]

theorem quiet_fanActions (control : Control) :
    ∀ action ∈ fanActions control, action.blocks = false := by
  unfold fanActions
  split
  · simp [Action.blocks, rbFengshanOn]
  · split <;> simp [Action.blocks, rbFengshanOff]

/-- Where the handler can wait. -/
inductive HandlerWaits : Progress → Prop
  | idle : HandlerWaits .idle
  | connecting : HandlerWaits (.blocked .quickConnect [])
  | window (control : Control) :
      HandlerWaits (.blocked (.threadDelay 6000)
        (rbDoorOff .suo :: .setDoorSta 0 :: behindDoor control))

/-- Where the serial thread can wait. -/
inductive SerialWaits : Progress → Prop
  | idle : SerialWaits .idle
  | window : SerialWaits (.blocked (.threadDelay 5000)
      [rbDoorOff .suo, .setDoorSta 0, .lcdShowCharStr 60 (ascii "OFF ") .red])

/-- A block that leaves the lock open opens its own window or found it open. -/
structure Settles (before : Board) (result : Board × Progress) : Prop where
  agrees : Agrees before → Agrees result.1
  window : result.1.suo = .high → before.suo = .high ∨ result.2.InWindow

theorem settles_of_keeps {before middle : Board} {result : Board × Progress}
    (keeps : Keeps before middle) (settles : Settles middle result) : Settles before result := by
  constructor
  · exact settles.agrees ∘ keeps.agrees
  · intro high
    exact (settles.window high).imp_left keeps.shut

theorem runBlock_connectActions (control : Control) (board : Board) :
    Keeps board (runBlock board (connectActions control)).1 ∧
      HandlerWaits (runBlock board (connectActions control)).2 := by
  unfold connectActions
  split
  · exact ⟨keeps_of_eq rfl rfl rfl, .connecting⟩
  · exact ⟨Keeps.refl board, .idle⟩

/-- Behind the door nothing opens the lock, and the handler may have to connect. -/
theorem runBlock_behindDoor (control : Control) (board : Board) :
    Keeps board (runBlock board (behindDoor control)).1 ∧
      HandlerWaits (runBlock board (behindDoor control)).2 := by
  rw [behindDoor, runBlock_append (quiet_k210Actions control),
    runBlock_append (quiet_fanActions control)]
  rcases runBlock_connectActions control _ with ⟨keeps, waits⟩
  exact ⟨(keeps_k210Actions control board).trans ((keeps_fanActions control _).trans keeps), waits⟩

/-- The end of the handler's window closes the lock. -/
theorem runBlock_closing (control : Control) (board : Board) :
    (Agrees board → Agrees (runBlock board
        (rbDoorOff .suo :: .setDoorSta 0 :: behindDoor control)).1) ∧
      (runBlock board (rbDoorOff .suo :: .setDoorSta 0 :: behindDoor control)).1.suo ≠ .high ∧
      HandlerWaits (runBlock board (rbDoorOff .suo :: .setDoorSta 0 :: behindDoor control)).2 := by
  let closed : Board := { board with suo := .low, doorSta := 0 }
  have start : runBlock board (rbDoorOff .suo :: .setDoorSta 0 :: behindDoor control) =
      runBlock closed (behindDoor control) := rfl
  rcases runBlock_behindDoor control closed with ⟨keeps, waits⟩
  have closes : Keeps board closed := keeps_closed rfl rfl rfl
  rw [start]
  refine ⟨keeps.agrees ∘ closes.agrees, fun high => ?_, waits⟩
  exact absurd (keeps.shut high) nofun

theorem runBlock_doorActions (control : Control) (board : Board) :
    Settles board (runBlock board (doorActions control ++ behindDoor control)) ∧
      HandlerWaits (runBlock board (doorActions control ++ behindDoor control)).2 := by
  rcases runBlock_behindDoor control board with ⟨keeps, waits⟩
  unfold doorActions
  split
  · refine ⟨⟨fun agrees => ⟨iff_of_true rfl rfl, agrees.lamp⟩, fun _ => Or.inr trivial⟩, ?_⟩
    exact .window control
  · split
    · let closed : Board := { board with suo := .low, doorSta := 0 }
      have start : runBlock board ([rbDoorOff .suo, .setDoorSta 0,
          .lcdShowCharStr 60 (ascii "OFF ") .red] ++ behindDoor control) =
          runBlock closed (behindDoor control) := rfl
      rw [start]
      rcases runBlock_behindDoor control closed with ⟨closedKeeps, closedWaits⟩
      have closes : Keeps board closed := keeps_closed rfl rfl rfl
      have both := closes.trans closedKeeps
      exact ⟨⟨both.agrees, fun high => Or.inl (both.shut high)⟩, closedWaits⟩
    · exact ⟨⟨keeps.agrees, fun high => Or.inl (keeps.shut high)⟩, waits⟩

theorem runBlock_actuatorActions (control : Control) (board : Board) :
    Settles board (runBlock board (actuatorActions control)) ∧
      HandlerWaits (runBlock board (actuatorActions control)).2 := by
  rw [actuatorActions_eq, runBlock_append (quiet_lampActions control),
    runBlock_append (quiet_luxActions control)]
  rcases runBlock_doorActions control _ with ⟨settles, waits⟩
  refine ⟨?_, waits⟩
  exact settles_of_keeps (keeps_lampActions control board)
    (settles_of_keeps (keeps_luxActions control _) settles)

/-! ## Reachable states -/

/-- What holds in every reachable state. -/
structure Outputs.Safe (state : Outputs) : Prop where
  agrees : Agrees state.board
  window : state.board.suo = .high → state.handler.InWindow ∨ state.serial.InWindow
  handlerWaits : HandlerWaits state.handler
  serialWaits : SerialWaits state.serial

namespace Outputs.Safe

variable {state : Outputs}

theorem message (safe : state.Safe) (idle : state.handler = .idle) (control : Control) :
    Outputs.Safe { state with
      board := (runBlock { state.board with control } (actuatorActions control)).1
      handler := (runBlock { state.board with control } (actuatorActions control)).2 } := by
  rcases runBlock_actuatorActions control { state.board with control } with ⟨settles, waits⟩
  have same : Keeps state.board { state.board with control } := keeps_of_eq rfl rfl rfl
  have whole := settles_of_keeps same settles
  refine ⟨whole.agrees safe.agrees, fun high => ?_, waits, safe.serialWaits⟩
  rcases whole.window high with before | opened
  · rcases safe.window before with inside | inside
    · rw [idle] at inside
      exact inside.elim
    · exact Or.inr inside
  · exact Or.inl opened

theorem handlerResumes (safe : state.Safe) {call : Action} {rest : List Action}
    (blocked : state.handler = .blocked call rest) :
    Outputs.Safe { state with
      board := (runBlock state.board rest).1
      handler := (runBlock state.board rest).2 } := by
  have waits := safe.handlerWaits
  rw [blocked] at waits
  cases waits with
  | connecting =>
      refine ⟨safe.agrees, fun high => ?_, .idle, safe.serialWaits⟩
      rcases safe.window high with inside | inside
      · rw [blocked] at inside
        exact inside.elim
      · exact Or.inr inside
  | window control =>
      rcases runBlock_closing control state.board with ⟨agrees, closed, later⟩
      exact ⟨agrees safe.agrees, fun high => absurd high closed, later, safe.serialWaits⟩

theorem frame (safe : state.Safe) (idle : state.serial = .idle) (rxBuffer : Bytes) :
    Outputs.Safe { state with
      board := (runBlock state.board (serialActions rxBuffer)).1
      serial := (runBlock state.board (serialActions rxBuffer)).2 } := by
  unfold serialActions
  split
  · exact ⟨⟨iff_of_true rfl rfl, safe.agrees.lamp⟩, fun _ => Or.inr trivial, safe.handlerWaits,
      .window⟩
  · refine ⟨safe.agrees, fun high => ?_, safe.handlerWaits, .idle⟩
    rcases safe.window high with inside | inside
    · exact Or.inl inside
    · rw [idle] at inside
      exact inside.elim

theorem serialResumes (safe : state.Safe) {call : Action} {rest : List Action}
    (blocked : state.serial = .blocked call rest) :
    Outputs.Safe { state with
      board := (runBlock state.board rest).1
      serial := (runBlock state.board rest).2 } := by
  have waits := safe.serialWaits
  rw [blocked] at waits
  cases waits with
  | window =>
      refine ⟨⟨iff_of_false nofun ?_, safe.agrees.lamp⟩, nofun, safe.handlerWaits, .idle⟩
      change ¬ (0 : UInt8) = 1
      decide

/-- A block of another thread that does not open the lock. -/
theorem keeps (safe : state.Safe) {board : Board} (kept : Keeps state.board board)
    (light : Light) : Outputs.Safe { state with board, light } :=
  ⟨kept.agrees safe.agrees, fun high => safe.window (kept.shut high), safe.handlerWaits,
    safe.serialWaits⟩

end Outputs.Safe

/-- A message finds the handler idle.  A text that does not parse leaves
everything as it is, and one that is decoded runs the actuators' first block. -/
theorem outputStep_message_cases {cJsonParse : Bytes → Option CJson} {state target : Outputs}
    {mesg : Bytes} (moved : outputStep cJsonParse state (.message mesg) = some target) :
    state.handler = .idle ∧
      (cJsonParse mesg = none ∧ target = state ∨
        ∃ root control, cJsonParse mesg = some root ∧
          extract root state.board.control = .ok control ∧
          target = { state with
            board := (runBlock { state.board with control } (actuatorActions control)).1
            handler := (runBlock { state.board with control } (actuatorActions control)).2 }) := by
  simp only [outputStep] at moved
  split at moved
  · rename_i idle handled
    cases moved
    refine ⟨idle, ?_⟩
    unfold qsdkMqttDataCallback at handled
    split at handled
    · rename_i unparsed
      cases handled
      refine Or.inl ⟨unparsed, ?_⟩
      simp only [runBlock, ← idle]
    · rename_i root parsed
      split at handled
      · contradiction
      · rename_i control extracted
        cases handled
        exact Or.inr ⟨root, control, parsed, extracted, rfl⟩
  · contradiction

/-- The handler goes on behind the call that it waits in. -/
theorem outputStep_handlerResumes_cases {cJsonParse : Bytes → Option CJson}
    {state target : Outputs} (moved : outputStep cJsonParse state .handlerResumes = some target) :
    ∃ call rest, state.handler = .blocked call rest ∧
      target = { state with
        board := (runBlock state.board rest).1
        handler := (runBlock state.board rest).2 } := by
  cases handler : state.handler with
  | idle =>
      simp only [outputStep, handler] at moved
      contradiction
  | blocked call rest =>
      simp only [outputStep, handler, Option.some.injEq] at moved
      exact ⟨call, rest, rfl, moved.symm⟩

/-- A frame finds the serial thread idle. -/
theorem outputStep_frame_cases {cJsonParse : Bytes → Option CJson} {state target : Outputs}
    {rxBuffer : Bytes} (moved : outputStep cJsonParse state (.frame rxBuffer) = some target) :
    state.serial = .idle ∧
      target = { state with
        board := (runBlock state.board (serialActions rxBuffer)).1
        serial := (runBlock state.board (serialActions rxBuffer)).2 } := by
  cases serial : state.serial with
  | idle =>
      simp only [outputStep, serial, Option.some.injEq] at moved
      exact ⟨rfl, moved.symm⟩
  | blocked call rest =>
      simp only [outputStep, serial] at moved
      contradiction

/-- The serial thread goes on behind the call that it waits in. -/
theorem outputStep_serialResumes_cases {cJsonParse : Bytes → Option CJson}
    {state target : Outputs} (moved : outputStep cJsonParse state .serialResumes = some target) :
    ∃ call rest, state.serial = .blocked call rest ∧
      target = { state with
        board := (runBlock state.board rest).1
        serial := (runBlock state.board rest).2 } := by
  cases serial : state.serial with
  | idle =>
      simp only [outputStep, serial] at moved
      contradiction
  | blocked call rest =>
      simp only [outputStep, serial, Option.some.injEq] at moved
      exact ⟨call, rest, rfl, moved.symm⟩

theorem safe_step {cJsonParse : Bytes → Option CJson} {state target : Outputs}
    {move : OutputMove} (safe : state.Safe)
    (moved : outputStep cJsonParse state move = some target) :
    target.Safe := by
  cases move with
  | message mesg =>
      obtain ⟨idle, ⟨-, rfl⟩ | ⟨root, control, -, -, rfl⟩⟩ := outputStep_message_cases moved
      · exact safe
      · exact safe.message idle control
  | handlerResumes =>
      obtain ⟨call, rest, blocked, rfl⟩ := outputStep_handlerResumes_cases moved
      exact safe.handlerResumes blocked
  | frame rxBuffer =>
      obtain ⟨idle, rfl⟩ := outputStep_frame_cases moved
      exact safe.frame idle rxBuffer
  | serialResumes =>
      obtain ⟨call, rest, blocked, rfl⟩ := outputStep_serialResumes_cases moved
      exact safe.serialResumes blocked
  | sample value =>
      cases moved
      exact safe.keeps (keeps_lightTurn value state.light state.board) _
  | setLux value =>
      cases moved
      have kept : Keeps state.board { state.board with setLux := value } := keeps_of_eq rfl rfl rfl
      exact safe.keeps kept state.light

/-- The outputs and their reports as start-up leaves them. -/
structure Board.StartedUp (board : Board) : Prop where
  suo : board.suo = .low
  led3 : board.led3 = .low
  doorSta : board.doorSta = 0
  ledflag : board.ledflag = 0

theorem safe_start {board : Board} (started : board.StartedUp) (light : Light) :
    Outputs.Safe { board, light } := by
  rcases started with ⟨suo, led3, doorSta, ledflag⟩
  refine ⟨⟨?_, ?_⟩, ?_, .idle, .idle⟩
  · simp [suo, doorSta]
  · simp [led3, ledflag]
  · simp [suo]

/-- In every state that any interleaving of control messages, camera frames and
light samples reaches, the outputs agree with their reports, and the lock is
open only inside an opening window. -/
theorem outputs_agree (cJsonParse : Bytes → Option CJson) (board : Board)
    (started : board.StartedUp) (light : Light) (run : List OutputMove) (final : Outputs)
    (executed : exec (outputStep cJsonParse) { board, light } run = some final) :
    (final.board.suo = .high ↔ final.board.doorSta = 1) ∧
      (final.board.led3 = .high ↔ final.board.ledflag = 1) ∧
      (final.board.suo = .high → final.handler.InWindow ∨ final.serial.InWindow) := by
  have guarded : Guarded (outputStep cJsonParse) (fun _ _ => True) { board, light } run :=
    guarded_of_forall _ fun _ _ _ => trivial
  have safe : final.Safe :=
    exec_invariant (fun _ _ _ holds _ moved => safe_step holds moved) (safe_start started light)
      guarded executed
  exact ⟨safe.agrees.door, safe.agrees.lamp, safe.window⟩

/-- A cloud opening and a camera opening that overlap, with a dark sample
between them. -/
def overlappingOpenings : List OutputMove :=
  [.message doorText, .sample (some 10), .frame (ascii "1")]

private theorem overlappingOpenings_high :
    (exec (outputStep sampleParse) { board := {} } overlappingOpenings).map
      (fun final => final.board.suo) = some .high := by
  decide +kernel

theorem overlappingOpenings_agree :
    ∃ final, exec (outputStep sampleParse) { board := {} } overlappingOpenings = some final ∧
      final.board.suo = .high ∧ final.board.doorSta = 1 := by
  rcases Option.map_eq_some_iff.mp overlappingOpenings_high with ⟨final, executed, high⟩
  refine ⟨final, executed, high, ?_⟩
  have agree :=
    outputs_agree sampleParse {} ⟨rfl, rfl, rfl, rfl⟩ {} overlappingOpenings final executed
  exact agree.1.mp high

end BerPiNbiot.Cloud
