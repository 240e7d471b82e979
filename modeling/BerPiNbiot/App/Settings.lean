import BerPiNbiot.App.Keys
import Mathlib.Data.Nat.ModEq

/-!
# Ranges and cycles of the settings

Plus counts a setting through a cycle of `size` values.  Minus leaves this cycle
at its lower end: it tests the value behind the subtraction, so it skips zero,
and at zero the subtraction wraps around.
-/

namespace BerPiNbiot.App.Key

open BerPiNbiot.Transition

/-! ## A press as an operation on one number -/

/-- The settings that the keys change. -/
inductive Setting
  | temp
  | lux
  | adc
  deriving DecidableEq, Repr

/-- What a press does in a setting's page. -/
inductive Edit
  | plus
  | minus (long : Bool)
  deriving DecidableEq, Repr

/-- The edit of a press; a double press leaves the page. -/
def Press.edit : Press → Option Edit
  | .key0Down | .key0Long => some .plus
  | .key1Down => some (.minus false)
  | .key1Double => none
  | .key1Long => some (.minus true)

namespace Setting

/-- The page of a setting. -/
def page : Setting → UInt8
  | .temp => 4
  | .lux => 5
  | .adc => 6

/-- The number of values of a setting's variable. -/
def word : Setting → Nat
  | .temp | .adc => 256
  | .lux => 65536

/-- The length of the cycle that plus counts through. -/
def size : Setting → Nat
  | .temp => 100
  | .lux => 300
  | .adc => 120

/-- The value up to which minus starts again from above. -/
def floor (long : Bool) : Setting → Nat
  | .temp => 0
  | .lux | .adc => if long then 1 else 0

/-- The value that minus starts again from. -/
def last (long : Bool) : Setting → Nat
  | .temp => 99
  | .lux => if long then 200 else 300
  | .adc => 120

/-- An edit of a value, as natural numbers. -/
def edit (setting : Setting) (value : Nat) : Edit → Nat
  | .plus =>
      let next := (value + 1) % setting.word
      if next = setting.size then 0 else next
  | .minus long =>
      let next := (value + (setting.word - 1)) % setting.word
      if next ≤ setting.floor long then setting.last long else next

end Setting

/-- The value of a setting. -/
def Panel.value (panel : Panel) : Setting → Nat
  | .temp => panel.setTemp.toNat
  | .lux => panel.setLux.toNat
  | .adc => panel.setAdc.toNat

/-- The panel shows the page of a setting. -/
structure Panel.Edits (panel : Panel) (setting : Setting) : Prop where
  nowMenu : panel.nowMenu = .setMenu
  menu : panel.menu = setting.page

instance (panel : Panel) (setting : Setting) : Decidable (panel.Edits setting) :=
  decidable_of_iff (panel.nowMenu = .setMenu ∧ panel.menu = setting.page)
    ⟨fun both => ⟨both.1, both.2⟩, fun edits => ⟨edits.nowMenu, edits.menu⟩⟩

section Counters

variable {α : Type} [OfNat α 1] {f : α → Nat}

/-- Counting up, seen through an injection into the natural numbers. -/
theorem apply_countUp [Add α] [OfNat α 0] [DecidableEq α] (injective : Function.Injective f)
    (zero : f 0 = 0) {value : α} {next : Nat} (step : f (value + 1) = next) (top : α) :
    f (countUp top value) = if next = f top then 0 else next := by
  subst next
  rw [countUp, apply_ite f, zero]
  simp only [injective.eq_iff]

/-- Counting down, seen through an order embedding. -/
theorem apply_countDown [Sub α] [LE α] [DecidableLE α]
    (order : ∀ {one other : α}, one ≤ other ↔ f one ≤ f other) {value : α} {next : Nat}
    (step : f (value - 1) = next) (floor last : α) :
    f (countDown floor last value) = if next ≤ f floor then f last else next := by
  subst next
  rw [countDown, apply_ite f]
  simp only [order]

end Counters

theorem toNat_countUp8 (top value : UInt8) :
    (countUp top value).toNat =
      if (value.toNat + 1) % 256 = top.toNat then 0 else (value.toNat + 1) % 256 :=
  apply_countUp (fun _ _ => UInt8.toNat_inj.mp) rfl (UInt8.toNat_add value 1) top

theorem toNat_countUp16 (top value : UInt16) :
    (countUp top value).toNat =
      if (value.toNat + 1) % 65536 = top.toNat then 0 else (value.toNat + 1) % 65536 :=
  apply_countUp (fun _ _ => UInt16.toNat_inj.mp) rfl (UInt16.toNat_add value 1) top

theorem toNat_countDown8 (floor last value : UInt8) :
    (countDown floor last value).toNat =
      if (value.toNat + 255) % 256 ≤ floor.toNat then last.toNat
      else (value.toNat + 255) % 256 := by
  apply apply_countDown UInt8.le_iff_toNat_le
  rw [UInt8.toNat_sub, Nat.add_comm]
  rfl

theorem toNat_countDown16 (floor last value : UInt16) :
    (countDown floor last value).toNat =
      if (value.toNat + 65535) % 65536 ≤ floor.toNat then last.toNat
      else (value.toNat + 65535) % 65536 := by
  apply apply_countDown UInt16.le_iff_toNat_le
  rw [UInt16.toNat_sub, Nat.add_comm]
  rfl

/-- A switch over the pages changes the setting of the page. -/
theorem value_adjust (panel : Panel) (temp : UInt8 → UInt8) (lux : UInt16 → UInt16)
    (adc : UInt8 → UInt8) (setting : Setting) :
    (panel.adjust temp lux adc).value setting =
      if panel.menu = setting.page then
        match setting with
        | .temp => (temp panel.setTemp).toNat
        | .lux => (lux panel.setLux).toNat
        | .adc => (adc panel.setAdc).toNat
      else
        panel.value setting := by
  unfold Panel.adjust
  cases setting with
  | temp => split_ifs <;> simp_all [Setting.page, Panel.value]
  | lux => split_ifs <;> simp_all [Setting.page, Panel.value]
  | adc => split_ifs <;> simp_all [Setting.page, Panel.value]

/-- A switch whose branches are the same edit of three settings. -/
theorem value_adjust_edit {temp adc : UInt8 → UInt8} {lux : UInt16 → UInt16} {edit : Edit}
    (onTemp : ∀ value, (temp value).toNat = Setting.temp.edit value.toNat edit)
    (onLux : ∀ value, (lux value).toNat = Setting.lux.edit value.toNat edit)
    (onAdc : ∀ value, (adc value).toNat = Setting.adc.edit value.toNat edit)
    {panel : Panel} {setting : Setting} (page : panel.menu = setting.page) :
    (panel.adjust temp lux adc).value setting = setting.edit (panel.value setting) edit := by
  rw [value_adjust, if_pos page]
  cases setting with
  | temp => exact onTemp panel.setTemp
  | lux => exact onLux panel.setLux
  | adc => exact onAdc panel.setAdc

theorem value_increase {panel : Panel} {setting : Setting} (page : panel.menu = setting.page) :
    panel.increase.value setting = setting.edit (panel.value setting) .plus := by
  apply value_adjust_edit _ _ _ page
  · exact toNat_countUp8 100
  · exact toNat_countUp16 300
  · exact toNat_countUp8 120

theorem value_decrease {panel : Panel} {setting : Setting} (page : panel.menu = setting.page) :
    panel.decrease.value setting = setting.edit (panel.value setting) (.minus false) := by
  apply value_adjust_edit _ _ _ page
  · exact toNat_countDown8 0 99
  · exact toNat_countDown16 0 300
  · exact toNat_countDown8 0 120

theorem value_decreaseLong {panel : Panel} {setting : Setting}
    (page : panel.menu = setting.page) :
    panel.decreaseLong.value setting = setting.edit (panel.value setting) (.minus true) := by
  apply value_adjust_edit _ _ _ page
  · exact toNat_countDown8 0 99
  · exact toNat_countDown16 1 200
  · exact toNat_countDown8 1 120

/-- In the page of a setting a press is an edit of its value. -/
theorem value_serve_of_edits {panel : Panel} {setting : Setting} (edits : panel.Edits setting)
    {press : Press} {edit : Edit} (acts : press.edit = some edit) :
    (panel.serve press).value setting = setting.edit (panel.value setting) edit := by
  cases press with
  | key0Down | key0Long =>
      cases acts
      simp only [Panel.serve, edits.nowMenu]
      exact value_increase edits.menu
  | key1Down =>
      cases acts
      simp only [Panel.serve, edits.nowMenu]
      exact value_decrease edits.menu
  | key1Double => contradiction
  | key1Long =>
      cases acts
      simp only [Panel.serve, edits.nowMenu]
      exact value_decreaseLong edits.menu

/-- A press changes the value of no setting whose page is not shown. -/
theorem value_serve_of_not_edits {panel : Panel} {setting : Setting}
    (elsewhere : ¬ panel.Edits setting) (press : Press) :
    (panel.serve press).value setting = panel.value setting := by
  cases mode : panel.nowMenu with
  | mainMenu => cases press <;> cases setting <;> simp only [Panel.serve, mode] <;> rfl
  | setMenu =>
      have page : panel.menu ≠ setting.page := fun same => elsewhere ⟨mode, same⟩
      cases press with
      | key1Double => cases setting <;> simp only [Panel.serve, mode] <;> rfl
      | key0Down | key0Long =>
          simp only [Panel.serve, mode, Panel.increase, value_adjust, if_neg page]
      | key1Down => simp only [Panel.serve, mode, Panel.decrease, value_adjust, if_neg page]
      | key1Long => simp only [Panel.serve, mode, Panel.decreaseLong, value_adjust, if_neg page]

theorem value_serve_of_edit_none {press : Press} (leaves : press.edit = none) (panel : Panel)
    (setting : Setting) : (panel.serve press).value setting = panel.value setting := by
  cases press with
  | key1Double =>
      cases mode : panel.nowMenu <;> cases setting <;> simp only [Panel.serve, mode] <;> rfl
  | key0Down | key0Long | key1Down | key1Long => contradiction

/-! ## Ranges -/

/-- The largest value that minus can start again from. -/
def Setting.limit : Setting → Nat
  | .temp => 99
  | .lux => 300
  | .adc => 120

/-- The settings are inside their ranges. -/
structure Panel.InRange (panel : Panel) : Prop where
  setTemp : panel.setTemp ≤ 99
  setLux : panel.setLux ≤ 300
  setAdc : panel.setAdc ≤ 120

theorem inRange_iff (panel : Panel) :
    panel.InRange ↔ ∀ setting, panel.value setting ≤ setting.limit := by
  constructor
  · rintro ⟨temp, lux, adc⟩ setting
    cases setting with
    | temp => exact UInt8.le_iff_toNat_le.mp temp
    | lux => exact UInt16.le_iff_toNat_le.mp lux
    | adc => exact UInt8.le_iff_toNat_le.mp adc
  · intro values
    exact ⟨UInt8.le_iff_toNat_le.mpr (values .temp), UInt16.le_iff_toNat_le.mpr (values .lux),
      UInt8.le_iff_toNat_le.mpr (values .adc)⟩

/-- The value is inside the cycle of plus, or above zero for minus. -/
def Setting.Inside (setting : Setting) (value : Nat) : Edit → Prop
  | .plus => value < setting.size
  | .minus _ => 0 < value

theorem limit_lt_word (setting : Setting) : setting.limit + 1 < setting.word := by
  cases setting <;> decide

theorem size_le (setting : Setting) :
    setting.size ≤ setting.limit + 1 ∧ setting.limit ≤ setting.size := by
  cases setting <;> decide

theorem last_le_limit (setting : Setting) (long : Bool) : setting.last long ≤ setting.limit := by
  cases setting <;> cases long <;> decide

theorem edit_plus {setting : Setting} {value : Nat} (range : value ≤ setting.limit) :
    setting.edit value .plus = if value + 1 = setting.size then 0 else value + 1 := by
  have word := limit_lt_word setting
  rw [Setting.edit, Nat.mod_eq_of_lt (by omega)]

theorem edit_minus_succ {setting : Setting} {value : Nat} (range : value ≤ setting.limit)
    (long : Bool) :
    setting.edit (value + 1) (.minus long) =
      if value ≤ setting.floor long then setting.last long else value := by
  have word := limit_lt_word setting
  have next : (value + 1 + (setting.word - 1)) % setting.word = value := by
    rw [show value + 1 + (setting.word - 1) = value + setting.word by omega, Nat.add_mod_right,
      Nat.mod_eq_of_lt (by omega)]
  rw [Setting.edit, next]

/-- At zero the subtraction wraps around, and the test does not notice. -/
theorem edit_minus_zero (setting : Setting) (long : Bool) :
    setting.edit 0 (.minus long) = setting.word - 1 := by
  cases setting <;> cases long <;> rfl

/-- An edit of a value inside its range stays inside exactly when the value is
not at the wrong end. -/
theorem edit_le_limit_iff {setting : Setting} {value : Nat} (range : value ≤ setting.limit)
    (edit : Edit) : setting.edit value edit ≤ setting.limit ↔ setting.Inside value edit := by
  cases edit with
  | plus =>
      have size := size_le setting
      rw [edit_plus range, Setting.Inside]
      split_ifs <;> omega
  | minus long =>
      rw [Setting.Inside]
      cases value with
      | zero =>
          have word := limit_lt_word setting
          rw [edit_minus_zero]
          omega
      | succ below =>
          have last := last_le_limit setting long
          rw [edit_minus_succ (by omega)]
          split_ifs <;> omega

/-- The press served by an iteration, if any, finds the setting of its page
inside the cycle or above zero. -/
def StaysInside (panel : Panel) (keys : Keys) : Prop :=
  ∀ setting, panel.Edits setting → ∀ press, keys.press = some press →
    ∀ edit, press.edit = some edit → setting.Inside (panel.value setting) edit

theorem inRange_serve {panel : Panel} (range : panel.InRange) {keys : Keys} {press : Press}
    (found : keys.press = some press) (inside : StaysInside panel keys) :
    (panel.serve press).InRange := by
  rw [inRange_iff] at range ⊢
  intro setting
  by_cases edits : panel.Edits setting
  · cases acts : press.edit with
    | none =>
        rw [value_serve_of_edit_none acts]
        exact range setting
    | some edit =>
        rw [value_serve_of_edits edits acts, edit_le_limit_iff (range setting)]
        exact inside setting edits press found edit acts
  · rw [value_serve_of_not_edits edits]
    exact range setting

theorem inRange_step {panel after : Panel} {keys : Keys} (range : panel.InRange)
    (inside : StaysInside panel keys) (moved : keyStep panel keys = some after) :
    after.InRange := by
  cases found : keys.press with
  | none =>
      rw [keyStep_of_none found, Option.some.injEq] at moved
      subst after
      exact range
  | some press =>
      rw [keyStep_of_press found, Option.some.injEq] at moved
      subst after
      exact inRange_serve range found inside

/-- A press at the wrong end leaves the range at once. -/
theorem leaves_range {panel : Panel} {keys : Keys} (range : panel.InRange)
    (outside : ¬ StaysInside panel keys) :
    ∃ after, keyStep panel keys = some after ∧ ¬ after.InRange := by
  simp only [StaysInside, not_forall] at outside
  obtain ⟨setting, edits, press, found, edit, acts, wrong⟩ := outside
  refine ⟨panel.serve press, keyStep_of_press found panel, ?_⟩
  rw [inRange_iff] at range ⊢
  intro kept
  have value := kept setting
  rw [value_serve_of_edits edits acts, edit_le_limit_iff (range setting)] at value
  exact wrong value

theorem inRange_initial (currentMenu : UInt8) : Panel.InRange { currentMenu } :=
  ⟨(by decide : (20 : UInt8) ≤ 99), (by decide : (25 : UInt16) ≤ 300),
    (by decide : (55 : UInt8) ≤ 120)⟩

/-- The settings stay inside their ranges along a run exactly when no press of
the run counts down at zero or up at a value that is not in the cycle. -/
theorem settings_inRange_iff (currentMenu : UInt8) (run : List Keys) :
    (∀ first, first <+: run → ∀ panel,
        exec keyStep { currentMenu } first = some panel → panel.InRange) ↔
      Guarded keyStep StaysInside { currentMenu } run := by
  apply forall_reached_iff
  · exact fun _ _ _ range inside moved => inRange_step range inside moved
  · exact fun _ range => range
  · exact fun _ _ range outside => leaves_range range outside
  · exact inRange_initial currentMenu

/-- From the temperature's page down to the other end of the cycle, one up to
zero and one down. -/
def aroundZero : List Keys :=
  plusKey :: minusKey :: (List.replicate 20 minusKey ++ [plusKey, minusKey])

theorem aroundZero_leaves_range :
    ∃ panel, exec keyStep { currentMenu := 0 } aroundZero = some panel ∧ panel.setTemp = 255 ∧
      ¬ panel.InRange := by
  refine ⟨{ setTemp := 255, menu := 4, nowMenu := .setMenu, currentMenu := 1 }, ?_, rfl, ?_⟩
  · decide +kernel
  · intro range
    have temp := range.setTemp
    contradiction

end BerPiNbiot.App.Key
