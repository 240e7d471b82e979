import BerPiNbiot.Modem.Dispatch

/-!
# Acknowledgement flags

The functions of `nb_mqtt.c` learn that the broker has acknowledged a request
from a field of `mqtt_device`.  There is one field for each kind of
acknowledgement and it holds no packet identifier, so all that a function can
read off it is that some notification has set it.

The main result says which texts these are.  A flag that is set behind a
notification was set in front of it, or the notification contains one of the few
texts that set it, be it as its own prefix or somewhere in its body.
-/

namespace BerPiNbiot.Modem

open BerPiNbiot.Text

/-- The prefixes that acknowledge a request. -/
def Urc.acknowledges : Urc → Bool
  | .mqttOpen | .mqttSuback | .mqttUnsuback | .mqttPuback | .mqttPubrec | .mqttPubcomp => true
  | _ => false

/-- The field of an acknowledgement has the value that ends the wait for it. -/
def MqttDevice.flagged (device : MqttDevice) : Urc → Bool
  | .mqttOpen => device.connectStatus ≠ 0
  | .mqttSuback => device.subackStatus ≠ 0x80
  | .mqttUnsuback => device.unsubackStatus ≠ 0
  | .mqttPuback => device.pubackStatus ≠ 0
  | .mqttPubrec => device.pubrecStatus ≠ 0
  | .mqttPubcomp => device.pubcompStatus ≠ 0
  | _ => false

/-- The text `"+MQTTOPEN:OK"`. -/
def openOk : Bytes :=
  ascii "+MQTTOPEN:OK"

/-- The texts that can set a flag.  A `+MQTTPINGRESP:` counts as a connection. -/
def Urc.setters : Urc → List Bytes
  | .mqttOpen => [openOk, Urc.cmdPrefix .mqttPingresp]
  | urc => [urc.cmdPrefix]

/-- The text contains one that can set the flag. -/
def Sets (event : Bytes) (kind : Urc) : Prop :=
  ∃ text ∈ kind.setters, Found event text

instance (event : Bytes) (kind : Urc) : Decidable (Sets event kind) :=
  inferInstanceAs (Decidable (∃ text ∈ kind.setters, Found event text))

theorem sets_of_inside {event whole : Bytes} {kind : Urc} (inside : event <:+: whole)
    (sets : Sets event kind) : Sets whole kind := by
  rcases sets with ⟨text, member, found⟩
  refine ⟨text, member, ?_⟩
  rw [found_iff_occurs] at found ⊢
  exact found.trans inside

/-! ## What the branches set -/

theorem flagged_openBranch {run : MqttRun} {kind : Urc}
    (flagged : (openBranch run).device.flagged kind = true) :
    run.device.flagged kind = true ∨ Sets run.event kind := by
  cases kind with
  | mqttOpen =>
      by_cases found : Found run.event openOk
      · exact Or.inr ⟨openOk, List.mem_cons_self, found⟩
      · have lowered : (openBranch run).device.connectStatus = 0 := if_neg found
        simp [MqttDevice.flagged, lowered] at flagged
  | _ => exact Or.inl flagged

/-- A branch that leaves the flags of the other kinds alone. -/
theorem flagged_of_own {key kind : Urc} {run : MqttRun} (single : key.setters = [key.cmdPrefix])
    (found : Found run.event key.cmdPrefix)
    (others : kind ≠ key → (branchBody key run).device.flagged kind = run.device.flagged kind)
    (flagged : (branchBody key run).device.flagged kind = true) :
    run.device.flagged kind = true ∨ Sets run.event kind := by
  by_cases own : kind = key
  · right
    rw [own]
    exact ⟨key.cmdPrefix, single ▸ List.mem_singleton_self _, found⟩
  · left
    rw [← others own]
    exact flagged

/-- A branch that at most closes the connection sets no flag. -/
theorem flagged_of_closed {device after : MqttDevice} {kind : Urc}
    (closes : after.connectStatus = device.connectStatus ∨ after.connectStatus = 0)
    (others : kind ≠ .mqttOpen → after.flagged kind = device.flagged kind)
    (flagged : after.flagged kind = true) : device.flagged kind = true := by
  by_cases opens : kind = .mqttOpen
  · subst opens
    rcases closes with same | closed
    · rw [MqttDevice.flagged, same] at flagged
      exact flagged
    · simp [MqttDevice.flagged, closed] at flagged
  · rw [← others opens]
    exact flagged

/-- A branch sets the flag of its own prefix only, apart from the two that
change the status of the connection. -/
theorem flagged_branchBody {key kind : Urc} {run : MqttRun}
    (found : Found run.event key.cmdPrefix)
    (flagged : (branchBody key run).device.flagged kind = true) :
    run.device.flagged kind = true ∨ Sets run.event kind := by
  cases key with
  | mqttOpen => exact flagged_openBranch flagged
  | mqttPuback | mqttUnsuback | mqttPubrec | mqttPubcomp =>
      apply flagged_of_own rfl found ?_ flagged
      intro other
      cases kind <;> first | rfl | contradiction
  | mqttSuback =>
      apply flagged_of_own rfl found ?_ flagged
      intro other
      simp only [branchBody, subackBranch]
      split <;> cases kind <;> first | rfl | contradiction
  | mqttPingresp =>
      cases kind with
      | mqttOpen =>
          exact Or.inr ⟨_, List.mem_cons_of_mem _ (List.mem_singleton_self _), found⟩
      | _ => exact Or.inl flagged
  | mqttDisc =>
      left
      simp only [branchBody, discBranch] at flagged
      split at flagged
      · apply flagged_of_closed (Or.inr rfl) ?_ flagged
        intro other
        cases kind <;> first | rfl | contradiction
      · exact flagged
  | mqttPublish =>
      left
      simp only [branchBody, publishBranch] at flagged
      repeat' split at flagged
      all_goals
        cases kind <;> exact flagged
  | mqttTo =>
      left
      simp only [branchBody, toBranch] at flagged
      split at flagged
      · exact flagged
      · apply flagged_of_closed ?_ ?_ flagged
        · split
          · exact Or.inr rfl
          · exact Or.inl rfl
        · intro other
          split <;> cases kind <;> first | rfl | contradiction
  | reboot | nping | npingErr | npsmr | mqttRec => exact Or.inl flagged

/-! ## A whole notification -/

theorem branchBody_event_inside (key : Urc) (run : MqttRun) :
    (branchBody key run).event <:+: run.event := by
  rw [branchBody_event]
  split
  · exact (tokenView_begins colon run.event).isInfix
  · exact List.infix_rfl

/-- The tests look at the text or at what a branch has left of it. -/
theorem mqttBranch_sets {key kind : Urc} {run : MqttRun}
    (flagged : (mqttBranch run key).device.flagged kind = true) :
    run.device.flagged kind = true ∨ Sets run.event kind := by
  unfold mqttBranch at flagged
  split at flagged
  · exact Or.inl flagged
  · split at flagged
    · rename_i found
      have body := @flagged_branchBody key kind { run with entered := run.entered ++ [key] } found
        flagged
      exact body
    · exact Or.inl flagged

theorem mqttBranch_event_inside (key : Urc) (run : MqttRun) :
    (mqttBranch run key).event <:+: run.event := by
  unfold mqttBranch
  split
  · exact List.infix_rfl
  · split
    · exact branchBody_event_inside key { run with entered := run.entered ++ [key] }
    · exact List.infix_rfl

theorem foldl_mqttBranch_sets {keys : List Urc} {kind : Urc} {run : MqttRun}
    (flagged : (keys.foldl mqttBranch run).device.flagged kind = true) :
    run.device.flagged kind = true ∨ Sets run.event kind := by
  induction keys generalizing run with
  | nil => exact Or.inl flagged
  | cons key rest ih =>
      rcases ih flagged with here | sets
      · exact mqttBranch_sets here
      · exact Or.inr (sets_of_inside (mqttBranch_event_inside key run) sets)

/-- A flag that is set behind a notification was set in front of it, or the
notification contains a text that sets it. -/
theorem flagged_mqttDeviceAfter {event : Bytes} {device : MqttDevice} {kind : Urc}
    (flagged : (mqttDeviceAfter event device).flagged kind = true) :
    device.flagged kind = true ∨ Sets event kind := by
  unfold mqttDeviceAfter qsdkThreadEntry at flagged
  split at flagged
  · dsimp only at flagged
    rw [nbRebootFunc_mqttDevice] at flagged
    exact Or.inl flagged
  · repeat' split at flagged
    · exact Or.inl flagged
    · exact Or.inl flagged
    · exact Or.inl flagged
    · have handled : ((mqttBranches.foldl mqttBranch { event, device }).device.flagged kind) =
          true := flagged
      exact foldl_mqttBranch_sets handled

end BerPiNbiot.Modem
