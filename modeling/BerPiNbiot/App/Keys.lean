import BerPiNbiot.Transition.Core
import Mathlib.Tactic.Common

/-!
# Keys and settings

An iteration of `key_thread_entry` looks at the flags of the two keys in a fixed
order and serves the first one that is set.  In the main menu a press turns the
pages or enters the settings, in a setting's page it counts the value up or
down.

The model keeps the counters in the words of the source.  A press in a setting's
page is then an operation on one natural number, `Setting.edit`, and the results
about settings are proved for that operation.
-/

namespace BerPiNbiot.App.Key

open BerPiNbiot.Transition

/-! ## Flags -/

/-- `struct key_state_type`: which of its flags are `KEY_PRESS`. -/
structure KeyState where
  downState : Bool := false
  doubleState : Bool := false
  longState : Bool := false
  deriving DecidableEq, Repr

/-- `key0` and `key1` -/
structure Keys where
  key0 : KeyState := {}
  key1 : KeyState := {}
  deriving DecidableEq, Repr

/-- The presses that an iteration serves. -/
inductive Press
  | key0Down
  | key0Long
  | key1Down
  | key1Double
  | key1Long
  deriving DecidableEq, Repr

/-- The branch that an iteration takes. -/
def Keys.press (keys : Keys) : Option Press :=
  if keys.key0.downState then some .key0Down
  else if keys.key0.longState then some .key0Long
  else if keys.key1.downState then some .key1Down
  else if keys.key1.doubleState then some .key1Double
  else if keys.key1.longState then some .key1Long
  else none

/-- `KEY_RELEASE` for the flag that has been served. -/
def Keys.release (keys : Keys) : Press → Keys
  | .key0Down => { keys with key0.downState := false }
  | .key0Long => { keys with key0.longState := false }
  | .key1Down => { keys with key1.downState := false }
  | .key1Double => { keys with key1.doubleState := false }
  | .key1Long => { keys with key1.longState := false }

/-- A short press of the first key. -/
def plusKey : Keys where
  key0.downState := true

/-- A short press of the second key. -/
def minusKey : Keys where
  key1.downState := true

/-! ## Branches -/

/-- `main_menu` and `set_menu` -/
inductive NowMenu
  | mainMenu
  | setMenu
  deriving DecidableEq, Repr

/-- The variables of the key thread.  The local `sta_menu.current_menu` has no
initial value. -/
structure Panel where
  setTemp : UInt8 := 20
  setLux : UInt16 := 25
  setAdc : UInt8 := 55
  menu : UInt8 := 0
  nowMenu : NowMenu := .mainMenu
  currentMenu : UInt8
  deriving DecidableEq, Repr

/-- `value++; if (value == top) value = 0;` -/
def countUp {α : Type} [Add α] [OfNat α 0] [OfNat α 1] [DecidableEq α] (top value : α) : α :=
  let next := value + 1
  if next = top then 0 else next

/-- `value--; if (value <= floor) value = last;` -/
def countDown {α : Type} [Sub α] [OfNat α 1] [LE α] [DecidableLE α] (floor last value : α) : α :=
  let next := value - 1
  if next ≤ floor then last else next

/-- `switch (menu)` over the pages of the settings. -/
def Panel.adjust (panel : Panel) (temp : UInt8 → UInt8) (lux : UInt16 → UInt16)
    (adc : UInt8 → UInt8) : Panel :=
  if panel.menu = 4 then { panel with setTemp := temp panel.setTemp }
  else if panel.menu = 5 then { panel with setLux := lux panel.setLux }
  else if panel.menu = 6 then { panel with setAdc := adc panel.setAdc }
  else panel

@[simp]
theorem adjust_menu (panel : Panel) (temp : UInt8 → UInt8) (lux : UInt16 → UInt16)
    (adc : UInt8 → UInt8) : (panel.adjust temp lux adc).menu = panel.menu := by
  unfold Panel.adjust
  split_ifs <;> rfl

@[simp]
theorem adjust_nowMenu (panel : Panel) (temp : UInt8 → UInt8) (lux : UInt16 → UInt16)
    (adc : UInt8 → UInt8) : (panel.adjust temp lux adc).nowMenu = panel.nowMenu := by
  unfold Panel.adjust
  split_ifs <;> rfl

@[simp]
theorem adjust_currentMenu (panel : Panel) (temp : UInt8 → UInt8) (lux : UInt16 → UInt16)
    (adc : UInt8 → UInt8) : (panel.adjust temp lux adc).currentMenu = panel.currentMenu := by
  unfold Panel.adjust
  split_ifs <;> rfl

/-- The switch of the plus key, which is the same for a long press. -/
def Panel.increase (panel : Panel) : Panel :=
  panel.adjust (countUp 100) (countUp 300) (countUp 120)

/-- The switch of the minus key. -/
def Panel.decrease (panel : Panel) : Panel :=
  panel.adjust (countDown 0 99) (countDown 0 300) (countDown 0 120)

/-- The switch of the minus key for a long press, with bounds of its own. -/
def Panel.decreaseLong (panel : Panel) : Panel :=
  panel.adjust (countDown 0 99) (countDown 1 200) (countDown 1 120)

/-- The next page of the main menu. -/
def nextPage (menu : UInt8) : UInt8 :=
  let next := menu + 1
  if next > 3 then 1 else next

/-- The page that sets what a page of the main menu shows. -/
def settingPage (menu : UInt8) : UInt8 :=
  if menu = 1 then 4
  else if menu = 2 then 5
  else if menu = 3 then 6
  else menu

/-- The body of a branch. -/
def Panel.serve (panel : Panel) : Press → Panel
  | .key0Down =>
      match panel.nowMenu with
      | .mainMenu =>
          { panel with menu := nextPage panel.menu, currentMenu := nextPage panel.menu }
      | .setMenu => panel.increase
  | .key0Long =>
      match panel.nowMenu with
      | .mainMenu => { panel with menu := 0 }
      | .setMenu => panel.increase
  | .key1Down =>
      match panel.nowMenu with
      | .mainMenu => { panel with menu := settingPage panel.menu, nowMenu := .setMenu }
      | .setMenu => panel.decrease
  | .key1Double =>
      match panel.nowMenu with
      | .mainMenu => panel
      | .setMenu => { panel with menu := panel.currentMenu, nowMenu := .mainMenu }
  | .key1Long =>
      match panel.nowMenu with
      | .mainMenu => panel
      | .setMenu => panel.decreaseLong

/-- An iteration of `key_thread_entry` after `rb_key_process`. -/
def keyThreadEntry (keys : Keys) (panel : Panel) : Keys × Panel :=
  match keys.press with
  | none => (keys, panel)
  | some press => (keys.release press, panel.serve press)

/-- Iterations as moves, each with the flags that it finds. -/
def keyStep : Step Panel Keys :=
  fun panel keys => some (keyThreadEntry keys panel).2

theorem keyStep_of_press {keys : Keys} {press : Press} (found : keys.press = some press)
    (panel : Panel) : keyStep panel keys = some (panel.serve press) := by
  rw [keyStep, keyThreadEntry, found]

theorem keyStep_of_none {keys : Keys} (found : keys.press = none) (panel : Panel) :
    keyStep panel keys = some panel := by
  rw [keyStep, keyThreadEntry, found]

end BerPiNbiot.App.Key
