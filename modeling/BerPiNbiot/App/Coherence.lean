import BerPiNbiot.App.Settings
import BerPiNbiot.Transition.Balance

/-!
# Plus against minus

Away from the ends of a setting's range a long press does what a short one does,
and plus and minus undo each other.  A sequence of presses counts modulo the
size of the cycle as long as no minus is pressed at the lower end.
-/

namespace BerPiNbiot.App.Key

open BerPiNbiot.Transition

/-- A switch over the pages acts through the value of the page's setting. -/
theorem adjust_eq_of_value {panel : Panel} {setting : Setting} (page : panel.menu = setting.page)
    {temp temp' : UInt8 → UInt8} {lux lux' : UInt16 → UInt16} {adc adc' : UInt8 → UInt8}
    (same : (panel.adjust temp lux adc).value setting =
      (panel.adjust temp' lux' adc').value setting) :
    panel.adjust temp lux adc = panel.adjust temp' lux' adc' := by
  rw [value_adjust, value_adjust, if_pos page, if_pos page] at same
  unfold Panel.adjust
  cases setting with
  | temp =>
      have equal := UInt8.toNat_inj.mp same
      simp [page, Setting.page, equal]
  | lux =>
      have equal := UInt16.toNat_inj.mp same
      simp [page, Setting.page, equal]
  | adc =>
      have equal := UInt8.toNat_inj.mp same
      simp [page, Setting.page, equal]

/-- Plus and minus stay in the page. -/
theorem edits_serve {panel : Panel} {setting : Setting} (edits : panel.Edits setting)
    {press : Press} {edit : Edit} (acts : press.edit = some edit) :
    (panel.serve press).Edits setting := by
  have kept : ∀ temp lux adc, (panel.adjust temp lux adc).Edits setting :=
    fun temp lux adc => ⟨(adjust_nowMenu panel temp lux adc).trans edits.nowMenu,
      (adjust_menu panel temp lux adc).trans edits.menu⟩
  cases press with
  | key0Down | key0Long | key1Down | key1Long =>
      simp only [Panel.serve, edits.nowMenu]
      exact kept _ _ _
  | key1Double => contradiction

/-! ## Two presses -/

/-- Long presses agree with short ones, and plus and minus restore the value. -/
structure Coherent (panel : Panel) (setting : Setting) : Prop where
  plusLong : panel.serve .key0Long = panel.serve .key0Down
  minusLong : panel.serve .key1Long = panel.serve .key1Down
  minusAfterPlus : ∀ plus minus long, plus.edit = some .plus → minus.edit = some (.minus long) →
    ((panel.serve plus).serve minus).value setting = panel.value setting
  plusAfterMinus : ∀ plus minus long, plus.edit = some .plus → minus.edit = some (.minus long) →
    ((panel.serve minus).serve plus).value setting = panel.value setting

/-- Away from both ends: 2 to 98 for the temperature, 3 to 298 for the light
and 3 to 118 for the gas. -/
def Setting.Inner (setting : Setting) (value : Nat) : Prop :=
  setting.floor true + 1 < value ∧ value + 1 < setting.size

theorem floor_le (setting : Setting) (long : Bool) : setting.floor long ≤ setting.floor true := by
  cases setting <;> cases long <;> decide

theorem edit_minus_of_above {setting : Setting} {value : Nat} (range : value ≤ setting.limit)
    {long : Bool} (above : setting.floor long + 1 < value) :
    setting.edit value (.minus long) = value - 1 := by
  obtain ⟨below, rfl⟩ : ∃ below, value = below + 1 := ⟨value - 1, by omega⟩
  rw [edit_minus_succ (by omega), if_neg (by omega)]
  rfl

theorem edit_plus_of_lt {setting : Setting} {value : Nat} (below : value + 1 < setting.size) :
    setting.edit value .plus = value + 1 := by
  have size := size_le setting
  rw [edit_plus (by omega), if_neg (by omega)]

theorem coherent_of_inner {panel : Panel} {setting : Setting} (edits : panel.Edits setting)
    (inner : setting.Inner (panel.value setting)) : Coherent panel setting := by
  have size := size_le setting
  obtain ⟨above, below⟩ := inner
  have minus : ∀ long, setting.edit (panel.value setting) (.minus long) =
      panel.value setting - 1 := by
    intro long
    have floor := floor_le setting long
    exact edit_minus_of_above (by omega) (by omega)
  constructor
  · simp only [Panel.serve, edits.nowMenu]
  · simp only [Panel.serve, edits.nowMenu]
    apply adjust_eq_of_value edits.menu
    change panel.decreaseLong.value setting = panel.decrease.value setting
    rw [value_decreaseLong edits.menu, value_decrease edits.menu, minus true, minus false]
  · intro plus minus long isPlus isMinus
    have floor := floor_le setting long
    rw [value_serve_of_edits (edits_serve edits isPlus) isMinus, value_serve_of_edits edits isPlus,
      edit_plus_of_lt below, edit_minus_of_above (by omega) (by omega)]
    rfl
  · intro plus press long isPlus isMinus
    rw [value_serve_of_edits (edits_serve edits isMinus) isPlus,
      value_serve_of_edits edits isMinus, minus long, edit_plus_of_lt (by omega)]
    omega

theorem floor_lt_last (setting : Setting) : setting.floor true < setting.last true := by
  cases setting <;> decide

/-- A value that minus starts again from is not led back by plus. -/
theorem edit_plus_last_ne (setting : Setting) :
    setting.edit (setting.last true) .plus ≠ setting.floor true + 1 := by
  cases setting <;> decide

theorem inner_of_coherent {panel : Panel} {setting : Setting} (edits : panel.Edits setting)
    (inside : panel.value setting < setting.size) (coherent : Coherent panel setting) :
    setting.Inner (panel.value setting) := by
  have size := size_le setting
  have word := limit_lt_word setting
  have minusAfterPlus : setting.edit (setting.edit (panel.value setting) .plus) (.minus true) =
      panel.value setting := by
    have restored := coherent.minusAfterPlus .key0Down .key1Long true rfl rfl
    rwa [value_serve_of_edits (edits_serve edits rfl) rfl, value_serve_of_edits edits rfl]
      at restored
  have plusAfterMinus : setting.edit (setting.edit (panel.value setting) (.minus true)) .plus =
      panel.value setting := by
    have restored := coherent.plusAfterMinus .key0Down .key1Long true rfl rfl
    rwa [value_serve_of_edits (edits_serve edits rfl) rfl, value_serve_of_edits edits rfl]
      at restored
  rw [Setting.Inner]
  generalize panel.value setting = value at *
  rw [edit_plus (by omega)] at minusAfterPlus
  have below : value + 1 < setting.size := by
    by_contra top
    rw [if_pos (by omega), edit_minus_zero] at minusAfterPlus
    omega
  rw [if_neg (by omega), edit_minus_succ (by omega)] at minusAfterPlus
  have above : setting.floor true < value := by
    by_contra low
    rw [if_pos (by omega)] at minusAfterPlus
    have last := floor_lt_last setting
    omega
  refine ⟨?_, below⟩
  by_contra low
  obtain rfl : value = setting.floor true + 1 := by omega
  rw [edit_minus_succ (by omega), if_pos le_rfl] at plusAfterMinus
  exact edit_plus_last_ne setting plusAfterMinus

/-! ## Sequences of presses -/

/-- The edit of the press that an iteration serves. -/
def Keys.edit (keys : Keys) : Option Edit :=
  keys.press.bind Press.edit

/-- The iteration serves the plus key. -/
def Keys.plus (keys : Keys) : Bool :=
  match keys.edit with
  | some .plus => true
  | _ => false

/-- The iteration serves the minus key. -/
def Keys.minus (keys : Keys) : Bool :=
  match keys.edit with
  | some (.minus _) => true
  | _ => false

/-- Minus is not pressed at the lower end, which is zero, one and, for a long
press on light or gas, two. -/
def AboveFloor (panel : Panel) (keys : Keys) : Prop :=
  ∀ setting, panel.Edits setting → ∀ long, keys.edit = some (.minus long) →
    setting.floor long + 1 < panel.value setting

instance (property : Setting → Prop) [DecidablePred property] :
    Decidable (∀ setting, property setting) :=
  decidable_of_iff (property .temp ∧ property .lux ∧ property .adc)
    ⟨fun all setting => match setting with
      | .temp => all.1
      | .lux => all.2.1
      | .adc => all.2.2, fun all => ⟨all .temp, all .lux, all .adc⟩⟩

instance (panel : Panel) (keys : Keys) : Decidable (AboveFloor panel keys) :=
  inferInstanceAs (Decidable (∀ setting, panel.Edits setting → ∀ long,
    keys.edit = some (.minus long) → setting.floor long + 1 < panel.value setting))

/-- The panel edits a setting that is inside its cycle. -/
structure InCycle (setting : Setting) (panel : Panel) : Prop where
  edits : panel.Edits setting
  inside : panel.value setting < setting.size

/-- An edit above the floor moves along the cycle. -/
theorem edit_modEq {setting : Setting} {value : Nat} (inside : value < setting.size) {edit : Edit}
    (above : ∀ long, edit = .minus long → setting.floor long + 1 < value) :
    setting.edit value edit < setting.size ∧
      setting.edit value edit + (if edit = .plus then 0 else 1) ≡
        value + (if edit = .plus then 1 else 0) [MOD setting.size] := by
  have size := size_le setting
  cases edit with
  | plus =>
      rw [edit_plus (by omega), if_pos rfl, if_pos rfl]
      split_ifs with wraps
      · rw [wraps]
        exact ⟨by omega, (Nat.modEq_zero_iff_dvd.mpr dvd_rfl).symm⟩
      · exact ⟨by omega, Nat.ModEq.refl _⟩
  | minus long =>
      have high := above long rfl
      rw [edit_minus_of_above (by omega) high, if_neg Edit.noConfusion, if_neg Edit.noConfusion,
        Nat.sub_add_cancel (by omega)]
      exact ⟨by omega, Nat.ModEq.refl value⟩

/-- An iteration that serves no double press moves along the cycle. -/
theorem keyStep_modEq {setting : Setting} {panel after : Panel} {keys : Keys}
    (cycle : InCycle setting panel) (above : AboveFloor panel keys)
    (stays : keys.press ≠ some .key1Double) (moved : keyStep panel keys = some after) :
    InCycle setting after ∧
      after.value setting + (if keys.minus then 1 else 0) ≡
        panel.value setting + (if keys.plus then 1 else 0) [MOD setting.size] := by
  cases found : keys.press with
  | none =>
      rw [keyStep_of_none found, Option.some.injEq] at moved
      subst after
      refine ⟨cycle, ?_⟩
      simp only [Keys.minus, Keys.plus, Keys.edit, found, Option.bind_none]
      exact Nat.ModEq.refl _
  | some press =>
      rw [keyStep_of_press found, Option.some.injEq] at moved
      subst after
      obtain ⟨edit, acts⟩ : ∃ edit, press.edit = some edit := by
        rw [found] at stays
        cases press <;> first | exact ⟨_, rfl⟩ | contradiction
      have served : keys.edit = some edit := by
        rw [Keys.edit, found]
        exact acts
      have high : ∀ long, edit = .minus long → setting.floor long + 1 < panel.value setting := by
        intro long isMinus
        apply above setting cycle.edits long
        rw [served, isMinus]
      have along := edit_modEq cycle.inside high
      rw [← value_serve_of_edits cycle.edits acts] at along
      refine ⟨⟨edits_serve cycle.edits acts, along.1⟩, ?_⟩
      simp only [Keys.minus, Keys.plus, served]
      cases edit with
      | plus => exact along.2
      | minus long => exact along.2

theorem exec_keyStep_isSome (run : List Keys) (panel : Panel) :
    ∃ final, exec keyStep panel run = some final := by
  induction run generalizing panel with
  | nil => exact ⟨panel, rfl⟩
  | cons keys rest ih => exact ih (keyThreadEntry keys panel).2

/-- A sequence of presses with equally many plus and minus presses, none of
them a minus at the lower end, restores the value. -/
theorem balanced_restores {setting : Setting} {panel : Panel} (cycle : InCycle setting panel)
    {run : List Keys} (stays : ∀ keys ∈ run, keys.press ≠ some .key1Double)
    (above : Guarded keyStep AboveFloor panel run)
    (balanced : run.countP Keys.plus = run.countP Keys.minus) :
    ∃ final, exec keyStep panel run = some final ∧
      final.value setting = panel.value setting := by
  obtain ⟨final, executed⟩ := exec_keyStep_isSome run panel
  have guarded := guarded_and_of_forall above stays
  have preserved : ∀ panel keys after, InCycle setting panel →
      (AboveFloor panel keys ∧ keys.press ≠ some .key1Double) →
      keyStep panel keys = some after → InCycle setting after :=
    fun _ _ _ cycle allowed moved => (keyStep_modEq cycle allowed.1 allowed.2 moved).1
  have moved := @exec_modEq _ _ _ _ _ (Panel.value · setting) _ _ _ preserved
    (fun _ _ _ cycle allowed moved => (keyStep_modEq cycle allowed.1 allowed.2 moved).2)
    _ _ _ cycle guarded executed
  have after := exec_invariant preserved cycle guarded executed
  exact ⟨final, executed, counter_eq_of_balanced moved balanced cycle.inside after.inside⟩

/-- In the page of a setting inside its cycle the two keys are coherent exactly
away from the ends, and a sequence with equally many plus and minus presses
restores the value if it never presses minus at the lower end. -/
theorem keys_coherent_iff {panel : Panel} {setting : Setting} (edits : panel.Edits setting)
    (inside : panel.value setting < setting.size) :
    (Coherent panel setting ↔ setting.Inner (panel.value setting)) ∧
      ∀ run : List Keys, (∀ keys ∈ run, keys.press ≠ some .key1Double) →
        Guarded keyStep AboveFloor panel run →
        run.countP Keys.plus = run.countP Keys.minus →
        ∃ final, exec keyStep panel run = some final ∧
          final.value setting = panel.value setting := by
  constructor
  · exact ⟨inner_of_coherent edits inside, coherent_of_inner edits⟩
  · intro run stays above balanced
    exact balanced_restores ⟨edits, inside⟩ stays above balanced

/-- The page of the temperature with its initial value. -/
def temperaturePage : Panel where
  menu := 4
  nowMenu := .setMenu
  currentMenu := 1

theorem temperaturePage_coherent :
    Coherent temperaturePage .temp ∧
      ∃ final, exec keyStep temperaturePage [minusKey, minusKey, plusKey, plusKey] = some final ∧
        final.value .temp = 20 := by
  have coherent := @keys_coherent_iff temperaturePage .temp ⟨rfl, rfl⟩ (by decide)
  exact ⟨coherent.1.mpr ⟨by decide, by decide⟩,
    coherent.2 _ (by decide) (by decide) (by decide)⟩

/-- The page of the temperature at zero degrees. -/
def zeroDegrees : Panel :=
  { temperaturePage with setTemp := 0 }

/-- Plus and minus lead from zero to 99. -/
theorem zeroDegrees_not_coherent :
    zeroDegrees.Edits .temp ∧ zeroDegrees.value .temp < Setting.temp.size ∧
      ((zeroDegrees.serve .key0Down).serve .key1Down).value .temp = 99 ∧
      ¬ Coherent zeroDegrees .temp := by
  refine ⟨⟨rfl, rfl⟩, by decide, by decide, ?_⟩
  intro coherent
  have restored := coherent.minusAfterPlus .key0Down .key1Down false rfl rfl
  contradiction

end BerPiNbiot.App.Key
