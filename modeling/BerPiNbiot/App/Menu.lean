import BerPiNbiot.App.Keys

/-!
# Pages and modes

The mode and the page are two variables that change on different branches.  They
agree as long as the settings are entered from a page: a short press of the
second key with no page shown changes the mode alone.

Whether `sta_menu.current_menu` has been assigned, the page from which the
settings were entered and the pages restored are not in the program.  They are
recorded beside it, in a run whose panel is that of the program.
-/

namespace BerPiNbiot.App.Key

open BerPiNbiot.Transition

/-- A double press that leaves the settings. -/
structure Return where
  /-- the page that is restored -/
  page : UInt8
  /-- `sta_menu.current_menu` has been assigned -/
  assigned : Bool
  /-- the page from which the settings were entered -/
  entered : Option UInt8
  deriving DecidableEq, Repr

/-- The panel with the record of its run. -/
structure Tracked where
  panel : Panel
  assigned : Bool := false
  entered : Option UInt8 := none
  returns : List Return := []
  deriving DecidableEq, Repr

/-- A press with its entry in the record. -/
def Tracked.serve (tracked : Tracked) (press : Press) : Tracked :=
  let after := { tracked with panel := tracked.panel.serve press }
  match press, tracked.panel.nowMenu with
  | .key0Down, .mainMenu => { after with assigned := true }
  | .key1Down, .mainMenu => { after with entered := some tracked.panel.menu }
  | .key1Double, .setMenu =>
      { after with returns := tracked.returns ++
          [{ page := after.panel.menu, assigned := tracked.assigned, entered := tracked.entered }] }
  | _, _ => after

/-- Iterations of `key_thread_entry` with their record. -/
def trackStep : Step Tracked Keys :=
  fun tracked keys =>
    match keys.press with
    | none => some tracked
    | some press => some (tracked.serve press)

theorem panel_serve (tracked : Tracked) (press : Press) :
    (tracked.serve press).panel = tracked.panel.serve press := by
  unfold Tracked.serve
  split <;> rfl

/-- The panel of a recorded run is that of the program. -/
theorem exec_trackStep (tracked : Tracked) (run : List Keys) :
    (exec trackStep tracked run).map Tracked.panel = exec keyStep tracked.panel run := by
  apply exec_map
  intro tracked keys
  unfold trackStep
  cases found : keys.press with
  | none => exact (keyStep_of_none found tracked.panel).symm
  | some press =>
      rw [keyStep_of_press found, ← panel_serve]
      rfl

/-! ## Agreement -/

/-- The menu page is one of the settings' pages. -/
def OnSettingPage (menu : UInt8) : Prop :=
  menu = 4 ∨ menu = 5 ∨ menu = 6

instance : DecidablePred OnSettingPage :=
  fun _ => inferInstanceAs (Decidable (_ ∨ _ ∨ _))

/-- The menu page is one from which the settings are entered. -/
def OnPage (menu : UInt8) : Prop :=
  menu = 1 ∨ menu = 2 ∨ menu = 3

/-- Mode and page agree, and every double press has gone back where the settings
were entered. -/
structure Tracked.Agrees (tracked : Tracked) : Prop where
  mode : tracked.panel.nowMenu = .setMenu ↔ OnSettingPage tracked.panel.menu
  page : tracked.panel.menu ≤ 6
  returns : ∀ entry ∈ tracked.returns,
    entry.assigned = true ∧ entry.entered = some entry.page ∧ OnPage entry.page

/-- The settings are not entered with no page shown. -/
def EntersFromPage (panel : Panel) (keys : Keys) : Prop :=
  panel.nowMenu = .mainMenu → keys.press = some .key1Down → panel.menu ≠ 0

/-- What holds along a run that enters the settings from pages. -/
structure Tracked.Sound (tracked : Tracked) : Prop where
  main : tracked.panel.nowMenu = .mainMenu → tracked.panel.menu = 0 ∨
    OnPage tracked.panel.menu ∧ tracked.assigned = true ∧
      tracked.panel.currentMenu = tracked.panel.menu
  setting : tracked.panel.nowMenu = .setMenu → OnPage tracked.panel.currentMenu ∧
    tracked.panel.menu = settingPage tracked.panel.currentMenu ∧ tracked.assigned = true ∧
      tracked.entered = some tracked.panel.currentMenu
  returns : ∀ entry ∈ tracked.returns,
    entry.assigned = true ∧ entry.entered = some entry.page ∧ OnPage entry.page

theorem onSettingPage_settingPage {menu : UInt8} (page : OnPage menu) :
    OnSettingPage (settingPage menu) := by
  rcases page with rfl | rfl | rfl
  · exact Or.inl rfl
  · exact Or.inr (Or.inl rfl)
  · exact Or.inr (Or.inr rfl)

theorem onPage_nextPage {menu : UInt8} (page : menu = 0 ∨ OnPage menu) :
    OnPage (nextPage menu) := by
  rcases page with rfl | rfl | rfl | rfl
  · exact Or.inl rfl
  · exact Or.inr (Or.inl rfl)
  · exact Or.inr (Or.inr rfl)
  · exact Or.inl rfl

/-- A press in the main menu: the pages keep `current_menu` in step, and the
settings are entered from the page it holds. -/
theorem sound_serve_main {tracked : Tracked} (sound : tracked.Sound)
    (mode : tracked.panel.nowMenu = .mainMenu) {press : Press}
    (enters : press = .key1Down → tracked.panel.menu ≠ 0) : (tracked.serve press).Sound := by
  have main := sound.main mode
  cases press with
  | key0Down =>
      have page := onPage_nextPage (main.imp_right And.left)
      simp only [Tracked.serve, Panel.serve, mode]
      exact ⟨fun _ => Or.inr ⟨page, rfl, rfl⟩, fun wrong => by contradiction, sound.returns⟩
  | key0Long =>
      simp only [Tracked.serve, Panel.serve, mode]
      exact ⟨fun _ => Or.inl rfl, fun wrong => by contradiction, sound.returns⟩
  | key1Down =>
      obtain ⟨page, assigned, current⟩ := main.resolve_left (enters rfl)
      simp only [Tracked.serve, Panel.serve, mode]
      rw [← current] at page ⊢
      exact ⟨fun wrong => by contradiction, fun _ => ⟨page, rfl, assigned, rfl⟩, sound.returns⟩
  | key1Double | key1Long =>
      simp only [Tracked.serve, Panel.serve, mode]
      exact sound

/-- A press in the settings: plus and minus keep the page, and a double press
goes back to the one in `current_menu`. -/
theorem sound_serve_setting {tracked : Tracked} (sound : tracked.Sound)
    (mode : tracked.panel.nowMenu = .setMenu) (press : Press) : (tracked.serve press).Sound := by
  obtain ⟨page, menu, assigned, entered⟩ := sound.setting mode
  cases press with
  | key1Double =>
      simp only [Tracked.serve, Panel.serve, mode]
      refine ⟨fun _ => Or.inr ⟨page, assigned, rfl⟩, fun wrong => by contradiction, ?_⟩
      intro entry member
      rw [List.mem_append, List.mem_singleton] at member
      rcases member with earlier | rfl
      · exact sound.returns entry earlier
      · exact ⟨assigned, entered, page⟩
  | key0Down | key0Long | key1Down | key1Long =>
      simp only [Tracked.serve, Panel.serve, mode, Panel.increase, Panel.decrease,
        Panel.decreaseLong]
      refine ⟨fun wrong => ?_, fun _ => ?_, sound.returns⟩
      · simp [mode] at wrong
      · simp only [adjust_menu, adjust_currentMenu]
        exact ⟨page, menu, assigned, entered⟩

theorem sound_step {tracked after : Tracked} {keys : Keys} (sound : tracked.Sound)
    (enters : EntersFromPage tracked.panel keys) (moved : trackStep tracked keys = some after) :
    after.Sound := by
  unfold trackStep at moved
  cases found : keys.press with
  | none =>
      rw [found] at moved
      cases moved
      exact sound
  | some press =>
      rw [found] at moved
      cases moved
      cases mode : tracked.panel.nowMenu with
      | mainMenu =>
          apply sound_serve_main sound mode
          rintro rfl
          exact enters mode found
      | setMenu => exact sound_serve_setting sound mode press

theorem agrees_of_sound {tracked : Tracked} (sound : tracked.Sound) : tracked.Agrees := by
  have notSetting : ∀ {menu : UInt8}, menu = 0 ∨ OnPage menu → ¬ OnSettingPage menu ∧ menu ≤ 6 := by
    rintro menu (rfl | rfl | rfl | rfl) <;> decide
  cases mode : tracked.panel.nowMenu with
  | mainMenu =>
      obtain ⟨elsewhere, page⟩ := notSetting ((sound.main mode).imp_right And.left)
      refine ⟨?_, page, sound.returns⟩
      rw [mode]
      exact ⟨fun wrong => by contradiction, fun on => absurd on elsewhere⟩
  | setMenu =>
      obtain ⟨page, menu, -, -⟩ := sound.setting mode
      have on : OnSettingPage tracked.panel.menu := by
        rw [menu]
        exact onSettingPage_settingPage page
      refine ⟨⟨fun _ => on, fun _ => mode⟩, ?_, sound.returns⟩
      rcases on with four | five | six
      · rw [four]
        decide
      · rw [five]
        decide
      · rw [six]
        decide

/-- Entering the settings with no page shown separates mode and page. -/
theorem disagrees_of_not_entersFromPage {tracked : Tracked} {keys : Keys}
    (outside : ¬ EntersFromPage tracked.panel keys) :
    ∃ after, trackStep tracked keys = some after ∧ ¬ after.Agrees := by
  simp only [EntersFromPage, not_forall, not_not] at outside
  obtain ⟨mode, found, none⟩ := outside
  refine ⟨tracked.serve .key1Down, by rw [trackStep, found], ?_⟩
  intro agrees
  have page := agrees.mode
  simp only [panel_serve, Panel.serve, mode, none, true_iff] at page
  exact absurd page (by decide)

/-- The panel before the first iteration; `current_menu` holds what the stack
held. -/
def trackStart (currentMenu : UInt8) : Tracked where
  panel := { currentMenu }

theorem sound_start (currentMenu : UInt8) : (trackStart currentMenu).Sound where
  main _ := Or.inl rfl
  setting wrong := by contradiction
  returns _ member := absurd member List.not_mem_nil

/-- Mode and page agree along a run, and double presses go back where the
settings were entered, exactly when the run never enters the settings with no
page shown. -/
theorem menu_agrees_iff (currentMenu : UInt8) (run : List Keys) :
    (∀ first, first <+: run → ∀ tracked,
        exec trackStep (trackStart currentMenu) first = some tracked → tracked.Agrees) ↔
      Guarded trackStep (fun tracked keys => EntersFromPage tracked.panel keys)
        (trackStart currentMenu) run := by
  apply forall_reached_iff
  · exact fun _ _ _ sound enters moved => sound_step sound enters moved
  · exact fun _ sound => agrees_of_sound sound
  · exact fun _ _ _ outside => disagrees_of_not_entersFromPage outside
  · exact sound_start currentMenu

/-- A double press of the second key. -/
def exitKey : Keys where
  key1.doubleState := true

/-- Entering and leaving the settings before any page is shown leads to the page
that the stack held. -/
theorem strayPage_disagrees :
    ∃ entered left, exec trackStep (trackStart 77) [minusKey] = some entered ∧
      entered.panel.nowMenu = .setMenu ∧ entered.panel.menu = 0 ∧ ¬ entered.Agrees ∧
      exec trackStep (trackStart 77) [minusKey, exitKey] = some left ∧
      left.panel.menu = 77 ∧ left.returns = [⟨77, false, some 0⟩] ∧ ¬ left.Agrees := by
  refine ⟨_, _, rfl, rfl, rfl, ?_, rfl, rfl, rfl, ?_⟩
  · intro agrees
    have page := agrees.mode.mp rfl
    exact absurd page (by decide)
  · intro agrees
    have page := agrees.page
    contradiction

end BerPiNbiot.App.Key
