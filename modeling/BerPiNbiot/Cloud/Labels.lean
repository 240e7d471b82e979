import BerPiNbiot.Cloud.Screen

/-!
# Truth of the display

Most branches write a field together with its variable.  Two do not: the end of
the handler's opening window, which closes the door, and the command that
switches the lamp off in automatic mode.  The display is true along exactly the
runs in which neither happens while the field reads On.
-/

namespace BerPiNbiot.Cloud

open BerPiNbiot.Text
open BerPiNbiot.Transition

/-! ## Moves with their screen -/

/-- The threads with the screen they write. -/
structure Labelled where
  outputs : Outputs
  screen : Screen := {}
  deriving DecidableEq, Repr

/-- The board and the screen. -/
def Labelled.display (state : Labelled) : Display where
  board := state.outputs.board
  screen := state.screen

/-- The statements that a move goes on with. -/
def moveActions (cJsonParse : Bytes → Option CJson) (state : Outputs) : OutputMove → List Action
  | .message mesg =>
      match qsdkMqttDataCallback cJsonParse mesg state.board with
      | .error _ => []
      | .ok handling => handling.actions
  | .handlerResumes =>
      match state.handler with
      | .idle => []
      | .blocked _ rest => rest
  | .frame rxBuffer => serialActions rxBuffer
  | .serialResumes =>
      match state.serial with
      | .idle => []
      | .blocked _ rest => rest
  | .sample value => (lightTurn value state.light state.board).2
  | .setLux _ => []

/-- A move of the threads with what its block writes to the screen. -/
def labelStep (cJsonParse : Bytes → Option CJson) : Step Labelled OutputMove :=
  fun state move =>
    (outputStep cJsonParse state.outputs move).map fun outputs =>
      { outputs, screen := (block (moveActions cJsonParse state.outputs move)).foldl
          Screen.act state.screen }

/-- The threads of a labelled run are those of the program. -/
theorem exec_labelStep (cJsonParse : Bytes → Option CJson) (state : Labelled)
    (run : List OutputMove) :
    (exec (labelStep cJsonParse) state run).map Labelled.outputs =
      exec (outputStep cJsonParse) state.outputs run := by
  apply exec_map
  intro state move
  rw [labelStep, Option.map_map]
  exact Option.map_id'

/-- The board on which the block of a move starts. -/
def moveStart (cJsonParse : Bytes → Option CJson) (state : Outputs) : OutputMove → Board
  | .message mesg =>
      match qsdkMqttDataCallback cJsonParse mesg state.board with
      | .error _ => state.board
      | .ok handling => handling.start
  | .setLux value => { state.board with setLux := value }
  | _ => state.board

variable {cJsonParse : Bytes → Option CJson}

theorem board_outputStep {state target : Outputs} {move : OutputMove}
    (moved : outputStep cJsonParse state move = some target) :
    target.board =
      (runBlock (moveStart cJsonParse state move) (moveActions cJsonParse state move)).1 := by
  cases move with
  | message mesg =>
      simp only [outputStep] at moved
      split at moved
      · rename_i handled
        cases moved
        simp only [moveStart, moveActions, handled]
      · contradiction
  | handlerResumes =>
      obtain ⟨call, rest, blocked, rfl⟩ := outputStep_handlerResumes_cases moved
      simp only [moveStart, moveActions, blocked]
  | frame rxBuffer =>
      obtain ⟨-, rfl⟩ := outputStep_frame_cases moved
      rfl
  | serialResumes =>
      obtain ⟨call, rest, blocked, rfl⟩ := outputStep_serialResumes_cases moved
      simp only [moveStart, moveActions, blocked]
  | sample value =>
      cases moved
      have whole := runBlock_append (quiet_lightTurn value state.light state.board) state.board []
      rw [List.append_nil] at whole
      change (lightTurn value state.light state.board).2.foldl Board.act state.board =
        (runBlock state.board (lightTurn value state.light state.board).2).1
      rw [whole]
      rfl
  | setLux value =>
      cases moved
      rfl

/-- A move runs its block on board and screen. -/
theorem display_labelStep {state target : Labelled} {move : OutputMove}
    (moved : labelStep cJsonParse state move = some target) :
    outputStep cJsonParse state.outputs move = some target.outputs ∧
      target.display = Display.run
        { board := moveStart cJsonParse state.outputs move, screen := state.screen }
        (moveActions cJsonParse state.outputs move) := by
  rw [labelStep, Option.map_eq_some_iff] at moved
  obtain ⟨outputs, stepped, rfl⟩ := moved
  refine ⟨stepped, ?_⟩
  generalize start : moveStart cJsonParse state.outputs move = board
  generalize statements : moveActions cJsonParse state.outputs move = actions
  have boards := board_outputStep stepped
  rw [start, statements] at boards
  have run := board_run { board, screen := state.screen } actions
  have screens := screen_foldl (block actions) { board, screen := state.screen }
  rw [Labelled.display, boards, ← run, ← screens]
  rfl

/-! ## Reachable states -/

/-- The display is true: the door's field reads On exactly when `door_sta` is
one and, once it has been written, the lamp's exactly when `ledflag` is one. -/
structure Labelled.Reads (state : Labelled) : Prop where
  door : state.screen.door = ascii "On " ↔ state.outputs.board.doorSta = 1
  lamp : ∀ text, state.screen.lamp = some text →
    (text = ascii "On " ↔ state.outputs.board.ledflag = 1)

/-- A move does not take one of the two branches that forget the field while the
field reads On: the message does not switch a burning lamp off in automatic
mode, and the window of an open door does not end without the camera's command. -/
def Relabels (cJsonParse : Bytes → Option CJson) (state : Outputs) : OutputMove → Prop
  | .message mesg =>
      state.handler = .idle → ∀ root control, cJsonParse mesg = some root →
        extract root state.board.control = .ok control →
        control.isAuto ≠ 0 → control.smLight = 2 → state.board.ledflag ≠ 1
  | .handlerResumes =>
      state.handler.InWindow → state.board.doorSta = 1 → state.board.control.k210Flag = 0
  | _ => True

/-- What holds along the runs that meet this condition. -/
structure Labelled.Sound (state : Labelled) : Prop where
  safe : state.outputs.Safe
  door : TrueDoor state.display.door
  lamp : TrueLamp state.display.lamp
  window : state.outputs.handler.InWindow → ∃ control, state.outputs.handler =
      .blocked (.threadDelay 6000) (rbDoorOff .suo :: .setDoorSta 0 :: behindDoor control) ∧
    control.k210Flag = state.outputs.board.control.k210Flag

theorem Labelled.Sound.reads {state : Labelled} (sound : state.Sound) : state.Reads where
  door := sound.door
  lamp text written := by
    have true := sound.lamp
    rw [TrueLamp, Labelled.display, Display.lamp, written, Option.some.injEq] at true
    exact true

theorem trueLamp_lampAfter {control : Control} {lamp : UInt8 × Option Bytes} (shown : TrueLamp lamp)
    (relabels : control.isAuto ≠ 0 → control.smLight = 2 → lamp.1 ≠ 1) :
    TrueLamp (lampAfter control lamp) := by
  unfold lampAfter
  split_ifs with byHand on off
  · exact trueLamp_on
  · exact trueLamp_off
  · rw [not_or] at byHand
    apply trueLamp_of_ne
    intro reads
    exact relabels byHand.1 off (shown.mp reads)
  · exact shown

/-- No statement writes the camera's command. -/
theorem runBlock_k210Flag (actions : List Action) (board : Board) :
    (runBlock board actions).1.control.k210Flag = board.control.k210Flag := by
  induction actions generalizing board with
  | nil => rfl
  | cons action rest ih =>
      rw [runBlock]
      split
      · rfl
      · rw [ih]
        cases action with
        | pinWrite pin level => cases pin <;> rfl
        | _ => rfl

/-- Behind the door no window is opened. -/
theorem not_inWindow_behindDoor (control : Control) (board : Board) :
    ¬ (runBlock board (behindDoor control)).2.InWindow := by
  rw [behindDoor, runBlock_append (quiet_k210Actions control),
    runBlock_append (quiet_fanActions control)]
  unfold connectActions
  split
  · exact id
  · exact id

/-- The window that a message opens ends with the statements for its own
variables. -/
theorem window_actuatorActions (control : Control) (board : Board)
    (inside : (runBlock board (actuatorActions control)).2.InWindow) :
    (runBlock board (actuatorActions control)).2 =
      .blocked (.threadDelay 6000) (rbDoorOff .suo :: .setDoorSta 0 :: behindDoor control) := by
  rw [actuatorActions_eq, runBlock_append (quiet_lampActions control),
    runBlock_append (quiet_luxActions control)] at inside ⊢
  unfold doorActions at inside ⊢
  split_ifs at inside ⊢ with opens closes
  · rfl
  · exact absurd inside (not_inWindow_behindDoor control _)
  · exact absurd inside (not_inWindow_behindDoor control _)

/-- The block of a message that is decoded. -/
theorem message_block {state : Outputs} {mesg : Bytes} {root : CJson} {control : Control}
    (parsed : cJsonParse mesg = some root)
    (extracted : extract root state.board.control = .ok control) :
    moveStart cJsonParse state (.message mesg) = { state.board with control } ∧
      moveActions cJsonParse state (.message mesg) = actuatorActions control := by
  simp only [moveStart, moveActions, qsdkMqttDataCallback, parsed, extracted, and_self]

namespace Labelled.Sound

variable {state target : Labelled}

theorem message (sound : state.Sound) {mesg : Bytes}
    (relabels : Relabels cJsonParse state.outputs (.message mesg))
    (moved : labelStep cJsonParse state (.message mesg) = some target) : target.Sound := by
  obtain ⟨stepped, shown⟩ := display_labelStep moved
  have safe := safe_step sound.safe stepped
  obtain ⟨idle, ⟨unparsed, same⟩ | ⟨root, control, parsed, extracted, same⟩⟩ :=
    outputStep_message_cases stepped
  · simp only [moveStart, moveActions, qsdkMqttDataCallback, unparsed] at shown
    refine ⟨safe, ?_, ?_, ?_⟩
    · rw [shown]
      exact sound.door
    · rw [shown]
      exact sound.lamp
    · rw [same]
      exact sound.window
  · obtain ⟨start, actions⟩ := message_block parsed extracted
    rw [start, actions] at shown
    obtain ⟨lamp, door⟩ := run_actuatorActions control
      { board := { state.outputs.board with control }, screen := state.screen }
    refine ⟨safe, ?_, ?_, ?_⟩
    · rw [shown, door]
      split_ifs
      · exact trueDoor_open
      · exact trueDoor_shut
      · exact sound.door
    · rw [shown, lamp]
      exact trueLamp_lampAfter sound.lamp (relabels idle root control parsed extracted)
    · rw [same]
      intro inside
      have kept := runBlock_k210Flag (actuatorActions control) { state.outputs.board with control }
      exact ⟨control, window_actuatorActions control _ inside, kept.symm⟩

/-- The handler goes on from its window or from the reconnect. -/
theorem handler_cases (sound : state.Sound)
    (moved : labelStep cJsonParse state .handlerResumes = some target) :
    ∃ rest, target.outputs.handler = (runBlock state.outputs.board rest).2 ∧
      target.display = state.display.run rest ∧
      (¬ state.outputs.handler.InWindow ∧ rest = [] ∨
        state.outputs.handler.InWindow ∧ ∃ control,
          rest = rbDoorOff .suo :: .setDoorSta 0 :: behindDoor control ∧
            control.k210Flag = state.outputs.board.control.k210Flag) := by
  obtain ⟨stepped, shown⟩ := display_labelStep moved
  obtain ⟨call, rest, handler, same⟩ := outputStep_handlerResumes_cases stepped
  have waits := sound.safe.handlerWaits
  simp only [moveStart, moveActions, handler] at shown
  refine ⟨rest, by rw [same], shown, ?_⟩
  rw [handler] at waits
  cases waits with
  | connecting =>
      rw [handler]
      exact Or.inl ⟨id, rfl⟩
  | window _ =>
      have inside : state.outputs.handler.InWindow := by
        rw [handler]
        trivial
      obtain ⟨control, opened, flag⟩ := sound.window inside
      rw [handler] at opened
      injection opened with _ rest
      exact Or.inr ⟨inside, control, rest, flag⟩

theorem handlerResumes (sound : state.Sound)
    (relabels : Relabels cJsonParse state.outputs .handlerResumes)
    (moved : labelStep cJsonParse state .handlerResumes = some target) : target.Sound := by
  have safe := safe_step sound.safe (display_labelStep moved).1
  obtain ⟨rest, handler, shown, ⟨-, rfl⟩ | ⟨inside, control, rfl, flag⟩⟩ :=
    sound.handler_cases moved
  · refine ⟨safe, ?_, ?_, ?_⟩
    · rw [shown]
      exact sound.door
    · rw [shown]
      exact sound.lamp
    · rw [handler]
      exact False.elim
  · obtain ⟨lamp, door⟩ := run_closing control state.display
    refine ⟨safe, ?_, ?_, ?_⟩
    · rw [shown, door]
      split_ifs with camera
      · exact trueDoor_shut
      · apply trueDoor_of_ne
        intro reads
        apply camera
        rw [flag]
        exact relabels inside (sound.door.mp reads)
    · rw [shown, lamp]
      exact sound.lamp
    · rw [handler]
      intro opened
      exact absurd opened (not_inWindow_behindDoor control _)

/-- The other threads leave the handler's window alone. -/
theorem other (sound : state.Sound) {move : OutputMove}
    (moved : labelStep cJsonParse state move = some target)
    (control : (moveStart cJsonParse state.outputs move).control = state.outputs.board.control)
    (handler : target.outputs.handler = state.outputs.handler)
    (door : TrueDoor target.display.door) (lamp : TrueLamp target.display.lamp) :
    target.Sound := by
  obtain ⟨stepped, -⟩ := display_labelStep moved
  refine ⟨safe_step sound.safe stepped, door, lamp, ?_⟩
  rw [handler, board_outputStep stepped, runBlock_k210Flag, control]
  exact sound.window

theorem frame (sound : state.Sound) {rxBuffer : Bytes}
    (moved : labelStep cJsonParse state (.frame rxBuffer) = some target) : target.Sound := by
  obtain ⟨stepped, shown⟩ := display_labelStep moved
  obtain ⟨lamp, door⟩ := run_serialActions rxBuffer state.display
  apply sound.other moved rfl
  · rw [(outputStep_frame_cases stepped).2]
  · rw [shown]
    rcases door with opened | kept
    · exact opened ▸ trueDoor_open
    · exact kept ▸ sound.door
  · rw [shown]
    exact lamp ▸ sound.lamp

theorem serialResumes (sound : state.Sound)
    (moved : labelStep cJsonParse state .serialResumes = some target) : target.Sound := by
  obtain ⟨stepped, shown⟩ := display_labelStep moved
  obtain ⟨call, rest, serial, same⟩ := outputStep_serialResumes_cases stepped
  have waits := sound.safe.serialWaits
  simp only [moveStart, moveActions, serial] at shown
  rw [serial] at waits
  cases waits with
  | window =>
      apply sound.other moved rfl
      · rw [same]
      · rw [shown]
        exact trueDoor_shut
      · rw [shown]
        exact sound.lamp

theorem sample (sound : state.Sound) {value : Option Int}
    (moved : labelStep cJsonParse state (.sample value) = some target) : target.Sound := by
  obtain ⟨stepped, shown⟩ := display_labelStep moved
  obtain ⟨door, lamp⟩ := run_lightTurn value state.outputs.light state.display
  have quiet := quiet_lightTurn value state.outputs.light state.outputs.board
  have whole : target.display =
      (lightTurn value state.outputs.light state.outputs.board).2.foldl Display.act state.display :=
    shown.trans (run_of_quiet quiet state.display)
  apply sound.other moved rfl
  · rw [← Option.some.inj stepped]
  · rw [whole]
    exact door ▸ sound.door
  · rw [whole]
    exact lamp sound.lamp

theorem setLux (sound : state.Sound) {value : UInt16}
    (moved : labelStep cJsonParse state (.setLux value) = some target) : target.Sound := by
  obtain ⟨stepped, shown⟩ := display_labelStep moved
  apply sound.other moved rfl
  · rw [← Option.some.inj stepped]
  · rw [shown]
    exact sound.door
  · rw [shown]
    exact sound.lamp

/-- A move that does not forget a field keeps the display true. -/
theorem step (sound : state.Sound) {move : OutputMove}
    (relabels : Relabels cJsonParse state.outputs move)
    (moved : labelStep cJsonParse state move = some target) : target.Sound := by
  cases move with
  | message mesg => exact sound.message relabels moved
  | handlerResumes => exact sound.handlerResumes relabels moved
  | frame rxBuffer => exact sound.frame moved
  | serialResumes => exact sound.serialResumes moved
  | sample value => exact sound.sample moved
  | setLux value => exact sound.setLux moved

end Labelled.Sound

/-- A message that switches a burning lamp off in automatic mode leaves its field
wrong. -/
theorem not_reads_of_message {state : Labelled} {mesg : Bytes} (sound : state.Sound)
    (forgets : ¬ Relabels cJsonParse state.outputs (.message mesg)) :
    ∃ target, labelStep cJsonParse state (.message mesg) = some target ∧ ¬ target.Reads := by
  simp only [Relabels, not_forall, not_not] at forgets
  obtain ⟨idle, root, control, parsed, extracted, automatic, off, burning⟩ := forgets
  have moved : ∃ target, labelStep cJsonParse state (.message mesg) = some target := by
    rw [labelStep]
    simp only [outputStep, idle, qsdkMqttDataCallback, parsed, extracted, Option.map_some]
    exact ⟨_, rfl⟩
  obtain ⟨target, moved⟩ := moved
  refine ⟨target, moved, fun reads => ?_⟩
  obtain ⟨-, shown⟩ := display_labelStep moved
  obtain ⟨start, actions⟩ := message_block parsed extracted
  obtain ⟨lamp, -⟩ := run_actuatorActions control
    { board := { state.outputs.board with control }, screen := state.screen }
  have byHand : ¬ (control.isAuto = 0 ∨ control.smLight = 1) := by
    rw [off, not_or]
    exact ⟨automatic, by decide⟩
  rw [start, actions] at shown
  rw [← shown, lampAfter, if_neg byHand, if_pos off] at lamp
  obtain ⟨ledflag, written⟩ := Prod.mk.inj lamp
  have on : target.screen.lamp = some (ascii "On ") := written.trans (sound.lamp.mpr burning)
  have one := (reads.lamp (ascii "On ") on).mp rfl
  rw [show target.outputs.board.ledflag = 0 from ledflag] at one
  contradiction

/-- A window that ends with the door open and no camera's command behind it
leaves the door's field wrong. -/
theorem not_reads_of_handlerResumes {state : Labelled} (sound : state.Sound)
    (forgets : ¬ Relabels cJsonParse state.outputs .handlerResumes) :
    ∃ target, labelStep cJsonParse state .handlerResumes = some target ∧ ¬ target.Reads := by
  simp only [Relabels, not_forall] at forgets
  obtain ⟨inside, opened, camera⟩ := forgets
  have moved : ∃ target, labelStep cJsonParse state .handlerResumes = some target := by
    rw [labelStep]
    cases handler : state.outputs.handler with
    | idle =>
        rw [handler] at inside
        exact inside.elim
    | blocked call rest =>
        simp only [outputStep, handler, Option.map_some]
        exact ⟨_, rfl⟩
  obtain ⟨target, moved⟩ := moved
  refine ⟨target, moved, fun reads => ?_⟩
  obtain ⟨rest, -, shown, ⟨outside, -⟩ | ⟨-, control, rfl, flag⟩⟩ := sound.handler_cases moved
  · exact outside inside
  · obtain ⟨-, door⟩ := run_closing control state.display
    rw [← shown, flag, if_neg camera] at door
    obtain ⟨doorSta, kept⟩ := Prod.mk.inj door
    have on : target.screen.door = ascii "On " := kept.trans (sound.door.mpr opened)
    have one := reads.door.mp on
    rw [show target.outputs.board.doorSta = 0 from doorSta] at one
    contradiction

/-- A move that forgets the field leaves it wrong at once. -/
theorem not_reads_of_not_relabels {state : Labelled} {move : OutputMove} (sound : state.Sound)
    (forgets : ¬ Relabels cJsonParse state.outputs move) :
    ∃ target, labelStep cJsonParse state move = some target ∧ ¬ target.Reads := by
  cases move with
  | message mesg => exact not_reads_of_message sound forgets
  | handlerResumes => exact not_reads_of_handlerResumes sound forgets
  | frame _ | serialResumes | sample _ | setLux _ => exact absurd trivial forgets

theorem sound_start {board : Board} (started : board.StartedUp) (light : Light) :
    Labelled.Sound { outputs := { board, light } } := by
  refine ⟨safe_start started light, ?_, ?_, False.elim⟩
  · rw [Labelled.display, Display.door, started.doorSta]
    exact trueDoor_shut
  · rw [Labelled.display, Display.lamp, started.ledflag]
    exact trueLamp_of_ne (Option.some_ne_none _).symm

/-- The display is true in every state that an interleaving reaches after
start-up exactly when none of its moves forgets a field. -/
theorem labels_true_iff (cJsonParse : Bytes → Option CJson) (board : Board)
    (started : board.StartedUp) (light : Light) (run : List OutputMove) :
    (∀ first, first <+: run → ∀ state,
        exec (labelStep cJsonParse) { outputs := { board, light } } first = some state →
          state.Reads) ↔
      Guarded (labelStep cJsonParse) (fun state move => Relabels cJsonParse state.outputs move)
        { outputs := { board, light } } run := by
  apply forall_reached_iff
  · exact fun _ _ _ sound relabels moved => Labelled.Sound.step sound relabels moved
  · exact fun _ sound => sound.reads
  · exact fun _ _ sound forgets => not_reads_of_not_relabels sound forgets
  · exact sound_start started light

/-- An opening by the camera, with a light sample in its window. -/
def cameraOpening : List OutputMove :=
  [.frame (ascii "1"), .sample (some 10), .serialResumes]

private theorem cameraOpening_runs :
    (exec (labelStep sampleParse) { outputs := { board := {} } } cameraOpening).isSome = true := by
  decide +kernel

theorem cameraOpening_labels_true :
    ∃ state, exec (labelStep sampleParse) { outputs := { board := {} } } cameraOpening =
      some state ∧ state.Reads := by
  obtain ⟨state, executed⟩ := Option.isSome_iff_exists.mp cameraOpening_runs
  refine ⟨state, executed, ?_⟩
  apply (labels_true_iff sampleParse {} ⟨rfl, rfl, rfl, rfl⟩ {} cameraOpening).mpr _ cameraOpening
    List.prefix_rfl state executed
  apply guarded_of_forall
  intro move member state
  simp only [cameraOpening, List.mem_cons, List.not_mem_nil, or_false] at member
  rcases member with rfl | rfl | rfl <;> trivial

private theorem cloudOpening_fields :
    (exec (labelStep sampleParse) { outputs := { board := {} } }
      [.message doorText, .handlerResumes]).map (fun state =>
        (state.outputs.handler, state.outputs.board.doorSta, state.screen.door)) =
      some (.idle, 0, ascii "On ") := by
  decide +kernel

/-- Behind an opening by the cloud the door is closed and its field reads On. -/
theorem cloudOpening_label_stale :
    ∃ state, exec (labelStep sampleParse) { outputs := { board := {} } }
        [.message doorText, .handlerResumes] = some state ∧
      state.outputs.handler = .idle ∧ state.outputs.board.doorSta = 0 ∧
      state.screen.door = ascii "On " ∧ ¬ state.Reads := by
  obtain ⟨state, executed, fields⟩ := Option.map_eq_some_iff.mp cloudOpening_fields
  obtain ⟨handler, rest⟩ := Prod.mk.inj fields
  obtain ⟨doorSta, door⟩ := Prod.mk.inj rest
  refine ⟨state, executed, handler, doorSta, door, ?_⟩
  intro reads
  have one := reads.door.mp door
  rw [doorSta] at one
  exact absurd one (by decide)

end BerPiNbiot.Cloud
