import BerPiNbiot.Cloud.Outputs

/-!
# Status fields of the display

The display shows the state of the door and of the lamp by the last text written
at their rows.  A block of statements acts on a variable and on its field, so it
is described by what it does to the pair of them.
-/

namespace BerPiNbiot.Cloud

open BerPiNbiot.Text

/-! ## The fields -/

/-- The texts at the rows of the lamp and of the door; `main` writes the second
one. -/
structure Screen where
  lamp : Option Bytes := none
  door : Bytes := ascii "OFF "
  deriving DecidableEq, Repr

/-- The screen after one statement. -/
def Screen.act (screen : Screen) : Action → Screen
  | .lcdShowCharStr y text _ =>
      if y = 34 then { screen with lamp := some text }
      else if y = 60 then { screen with door := text }
      else screen
  | _ => screen

/-- The statements in front of the first blocking call. -/
def block (actions : List Action) : List Action :=
  actions.takeWhile fun action => !action.blocks

/-- The board with its screen. -/
structure Display where
  board : Board
  screen : Screen := {}
  deriving DecidableEq, Repr

/-- One statement on board and screen. -/
def Display.act (display : Display) (action : Action) : Display where
  board := display.board.act action
  screen := display.screen.act action

/-- A block on board and screen. -/
def Display.run (display : Display) (actions : List Action) : Display :=
  (block actions).foldl Display.act display

/-- The door's variable and its field. -/
def Display.door (display : Display) : UInt8 × Bytes :=
  (display.board.doorSta, display.screen.door)

/-- The lamp's variable and its field. -/
def Display.lamp (display : Display) : UInt8 × Option Bytes :=
  (display.board.ledflag, display.screen.lamp)

/-- The field of the door reads On exactly when the door is open. -/
def TrueDoor (door : UInt8 × Bytes) : Prop :=
  door.2 = ascii "On " ↔ door.1 = 1

/-- The field of the lamp reads On exactly when the lamp is on; a field that has
not been written does not read On. -/
def TrueLamp (lamp : UInt8 × Option Bytes) : Prop :=
  lamp.2 = some (ascii "On ") ↔ lamp.1 = 1

theorem block_append {first : List Action} (quiet : ∀ action ∈ first, action.blocks = false)
    (second : List Action) : block (first ++ second) = first ++ block second := by
  apply List.takeWhile_append_of_pos
  intro action member
  rw [quiet action member]
  rfl

theorem run_append {first : List Action} (quiet : ∀ action ∈ first, action.blocks = false)
    (display : Display) (second : List Action) :
    display.run (first ++ second) = (first.foldl Display.act display).run second := by
  rw [Display.run, block_append quiet, List.foldl_append]
  rfl

/-- The board of a block is the one that the thread leaves behind. -/
theorem board_run (display : Display) (actions : List Action) :
    (display.run actions).board = (runBlock display.board actions).1 := by
  unfold Display.run block
  induction actions generalizing display with
  | nil => rfl
  | cons action rest ih =>
      rw [runBlock]
      cases blocks : action.blocks with
      | true =>
          rw [List.takeWhile_cons_of_neg (by rw [blocks]; exact Bool.false_ne_true)]
          rfl
      | false =>
          rw [List.takeWhile_cons_of_pos (by rw [blocks]; rfl), List.foldl_cons, ih]
          rfl

/-- A block that does not end at a blocking call. -/
theorem run_of_quiet {actions : List Action} (quiet : ∀ action ∈ actions, action.blocks = false)
    (display : Display) : display.run actions = actions.foldl Display.act display := by
  have whole := run_append quiet display []
  rwa [List.append_nil] at whole

theorem screen_foldl (actions : List Action) (display : Display) :
    (actions.foldl Display.act display).screen = actions.foldl Screen.act display.screen := by
  induction actions generalizing display with
  | nil => rfl
  | cons action rest ih => exact ih (display.act action)

/-! ## What a block does to the fields -/

/-- The lamp behind the handler's first statements. -/
def lampAfter (control : Control) (lamp : UInt8 × Option Bytes) : UInt8 × Option Bytes :=
  if control.isAuto = 0 ∨ control.smLight = 1 then
    if control.lightSw = 1 ∨ control.smLight = 1 then (1, some (ascii "On "))
    else (0, some (ascii "OFF"))
  else if control.smLight = 2 then (0, lamp.2)
  else lamp

theorem run_lampActions (control : Control) (display : Display) :
    ((lampActions control).foldl Display.act display).lamp = lampAfter control display.lamp ∧
      ((lampActions control).foldl Display.act display).door = display.door := by
  unfold lampActions lampAfter
  split_ifs <;> exact ⟨rfl, rfl⟩

theorem run_luxActions (control : Control) (display : Display) :
    ((luxActions control).foldl Display.act display).lamp = display.lamp ∧
      ((luxActions control).foldl Display.act display).door = display.door := by
  unfold luxActions
  split_ifs <;> exact ⟨rfl, rfl⟩

/-- Behind the door only the camera's command changes a field. -/
theorem run_behindDoor (control : Control) (display : Display) :
    (display.run (behindDoor control)).lamp = display.lamp ∧
      (display.run (behindDoor control)).door =
        if control.k210Flag = 0 then (0, ascii "OFF ") else display.door := by
  have connect : ∀ display : Display,
      (display.run (connectActions control)).lamp = display.lamp ∧
        (display.run (connectActions control)).door = display.door := by
    intro display
    unfold connectActions
    split_ifs <;> exact ⟨rfl, rfl⟩
  have fan : ∀ display : Display,
      ((fanActions control).foldl Display.act display).lamp = display.lamp ∧
        ((fanActions control).foldl Display.act display).door = display.door := by
    intro display
    unfold fanActions
    split_ifs <;> exact ⟨rfl, rfl⟩
  rw [behindDoor, run_append (quiet_k210Actions control), run_append (quiet_fanActions control),
    (connect _).1, (connect _).2, (fan _).1, (fan _).2]
  unfold k210Actions
  split_ifs with one zero zero
  · rw [one] at zero
    contradiction
  · exact ⟨rfl, rfl⟩
  · exact ⟨rfl, rfl⟩
  · exact ⟨rfl, rfl⟩

/-- The handler's first block: it ends with the opening of the door or runs
through the camera's command. -/
theorem run_actuatorActions (control : Control) (display : Display) :
    (display.run (actuatorActions control)).lamp = lampAfter control display.lamp ∧
      (display.run (actuatorActions control)).door =
        if control.dool = 1 then (1, ascii "On ")
        else if control.dool = 0 ∨ control.k210Flag = 0 then (0, ascii "OFF ")
        else display.door := by
  rw [actuatorActions_eq, run_append (quiet_lampActions control),
    run_append (quiet_luxActions control)]
  obtain ⟨lamp, door⟩ := run_lampActions control display
  generalize (lampActions control).foldl Display.act display = lit at *
  obtain ⟨luxLamp, luxDoor⟩ := run_luxActions control lit
  generalize (luxActions control).foldl Display.act lit = set at *
  rw [← lamp, ← luxLamp, ← door, ← luxDoor]
  obtain ⟨behindLamp, behindDoor⟩ := run_behindDoor control set
  unfold doorActions
  by_cases opens : control.dool = 1
  · rw [if_pos opens, if_pos opens]
    exact ⟨rfl, rfl⟩
  · rw [if_neg opens, if_neg opens]
    by_cases closes : control.dool = 0
    · let closed : Display :=
        { board := { set.board with suo := .low, doorSta := 0 }
          screen := { set.screen with door := ascii "OFF " } }
      obtain ⟨closedLamp, closedDoor⟩ := run_behindDoor control closed
      have shut : closed.door = (0, ascii "OFF ") := rfl
      rw [shut, ite_self] at closedDoor
      rw [if_pos closes, if_pos (Or.inl closes)]
      exact ⟨closedLamp, closedDoor⟩
    · rw [if_neg closes, List.nil_append, behindLamp, behindDoor]
      simp only [closes, false_or, and_self]

/-- The end of the handler's window leaves the field as it is, unless the
camera's command follows. -/
theorem run_closing (control : Control) (display : Display) :
    (display.run (rbDoorOff .suo :: .setDoorSta 0 :: behindDoor control)).lamp = display.lamp ∧
      (display.run (rbDoorOff .suo :: .setDoorSta 0 :: behindDoor control)).door =
        if control.k210Flag = 0 then (0, ascii "OFF ") else (0, display.screen.door) :=
  run_behindDoor control
    { display with board := { display.board with suo := .low, doorSta := 0 } }

theorem run_serialActions (rxBuffer : Bytes) (display : Display) :
    (display.run (serialActions rxBuffer)).lamp = display.lamp ∧
      ((display.run (serialActions rxBuffer)).door = (1, ascii "On ") ∨
        (display.run (serialActions rxBuffer)).door = display.door) := by
  unfold serialActions
  split_ifs
  · exact ⟨rfl, Or.inl rfl⟩
  · exact ⟨rfl, Or.inr rfl⟩

theorem trueDoor_open : TrueDoor (1, ascii "On ") :=
  iff_of_true rfl rfl

/-- Any other text is true of a closed door. -/
theorem trueDoor_of_ne {label : Bytes} (other : label ≠ ascii "On ") : TrueDoor (0, label) :=
  iff_of_false other (by decide : ¬ (0 : UInt8) = 1)

theorem trueDoor_shut : TrueDoor (0, ascii "OFF ") :=
  trueDoor_of_ne (by decide)

theorem trueLamp_on : TrueLamp (1, some (ascii "On ")) :=
  iff_of_true rfl rfl

/-- Any other text, or none, is true of a dark lamp. -/
theorem trueLamp_of_ne {label : Option Bytes} (other : label ≠ some (ascii "On ")) :
    TrueLamp (0, label) :=
  iff_of_false other (by decide : ¬ (0 : UInt8) = 1)

theorem trueLamp_off : TrueLamp (0, some (ascii "OFF")) :=
  trueLamp_of_ne (by decide)

/-- The light sensor's thread writes the field with the variable. -/
theorem run_lightTurn (sample : Option Int) (light : Light) (display : Display) :
    ((lightTurn sample light display.board).2.foldl Display.act display).door = display.door ∧
      (TrueLamp display.lamp →
        TrueLamp ((lightTurn sample light display.board).2.foldl Display.act display).lamp) := by
  have counted : ∀ light setLux display,
      ((lightCount light setLux).2.foldl Display.act display).door = display.door ∧
        (TrueLamp display.lamp →
          TrueLamp ((lightCount light setLux).2.foldl Display.act display).lamp) := by
    intro light setLux display
    unfold lightCount
    split_ifs
    · exact ⟨rfl, id⟩
    · exact ⟨rfl, fun _ => trueLamp_off⟩
    · exact ⟨rfl, id⟩
  have switched : ∀ light display,
      ((lightSwitch light).foldl Display.act display).door = display.door ∧
        (TrueLamp display.lamp →
          TrueLamp ((lightSwitch light).foldl Display.act display).lamp) := by
    intro light display
    unfold lightSwitch
    split_ifs
    · exact ⟨rfl, fun _ => trueLamp_on⟩
    · exact ⟨rfl, id⟩
  by_cases automatic : display.board.autoFlag = 1
  · simp only [lightTurn, if_pos automatic, List.foldl_append]
    obtain ⟨countDoor, countLamp⟩ := counted (lightRead sample light) display.board.setLux display
    obtain ⟨switchDoor, switchLamp⟩ := switched
      (lightCount (lightRead sample light) display.board.setLux).1
      ((lightCount (lightRead sample light) display.board.setLux).2.foldl Display.act display)
    exact ⟨switchDoor.trans countDoor, switchLamp ∘ countLamp⟩
  · simp only [lightTurn, if_neg automatic]
    exact ⟨rfl, id⟩

theorem quiet_lightTurn (sample : Option Int) (light : Light) (board : Board) :
    ∀ action ∈ (lightTurn sample light board).2, action.blocks = false := by
  have counted : ∀ light setLux, ∀ action ∈ (lightCount light setLux).2,
      action.blocks = false := by
    intro light setLux
    unfold lightCount
    split_ifs <;> simp [Action.blocks, rbLedOff]
  have switched : ∀ light, ∀ action ∈ lightSwitch light, action.blocks = false := by
    intro light
    unfold lightSwitch
    split_ifs <;> simp [Action.blocks, rbLedOn]
  unfold lightTurn
  split_ifs
  · intro action member
    exact (List.mem_append.mp member).elim (counted _ _ action) (switched _ action)
  · intro action member
    contradiction

end BerPiNbiot.Cloud
