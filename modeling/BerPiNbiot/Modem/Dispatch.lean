import BerPiNbiot.Modem.MqttEvent

/-!
# Dispatching notifications

`qsdk_thread_entry` takes one event text at a time out of its mailbox and
decides by a chain of substring searches what to do with it.  The searches look
at the whole line, so a prefix of the table that occurs inside the body of a
line is taken for the line's own.

The main result is exact: a line is handled by its own prefix if and only if
its body contains none of the prefixes that are tested in front of it and, for
an MQTT branch that leaves the text alone, none that are tested behind it.
-/

namespace BerPiNbiot.Modem

open BerPiNbiot.Kernel
open BerPiNbiot.Text

/-- What `qsdk_thread_entry` does with an event text. -/
inductive Disposition
  /-- `nb_reboot_func` -/
  | reboot
  /-- send `EVENT_PING_OK` -/
  | pingOk
  /-- send `EVENT_PING_ERROR` -/
  | pingError
  /-- send `EVENT_ENTER_PSM` -/
  | enterPsm
  /-- `mqtt_event_func`, with the branches it enters -/
  | mqtt (branches : List Urc)
  deriving DecidableEq, Repr

/-- Result of handling one event text. -/
structure Handled where
  driver : Driver
  effects : List Effect
  disposition : Disposition
  deriving DecidableEq, Repr

/-- The body of the loop in `qsdk_thread_entry`. -/
def qsdkThreadEntry (event : Bytes) (driver : Driver) : Handled :=
  if Found event (Urc.cmdPrefix .reboot) then
    let (driver, effects) := nbRebootFunc event driver
    ⟨driver, effects, .reboot⟩
  else if Found event (Urc.cmdPrefix .nping) then
    ⟨driver, [.sendNbEvent eventPingOk], .pingOk⟩
  else if Found event (Urc.cmdPrefix .npingErr) then
    ⟨driver, [.sendNbEvent eventPingError], .pingError⟩
  else if Found event (Urc.cmdPrefix .npsmr) then
    ⟨driver, [.sendNbEvent eventEnterPsm], .enterPsm⟩
  else
    let run := mqttEventFunc event driver.mqttDevice
    ⟨{ driver with mqttDevice := run.device }, run.effects, .mqtt run.entered⟩

/-- `mqtt_device` behind a notification. -/
def mqttDeviceAfter (event : Bytes) (device : MqttDevice) : MqttDevice :=
  (qsdkThreadEntry event { mqttDevice := device }).driver.mqttDevice

/-- A reboot has no influence on it. -/
theorem nbRebootFunc_mqttDevice (data : Bytes) (driver : Driver) :
    (nbRebootFunc data driver).1.mqttDevice = driver.mqttDevice := by
  have branch : (rebootBranch data driver).1.mqttDevice = driver.mqttDevice := by
    simp only [rebootBranch, rebootCause]
    repeat' split
    all_goals rfl
  simp only [nbRebootFunc]
  split <;> exact branch

/-! ## The prefix of a line and the prefixes that divert it -/

/-- What the prefix of a line asks for. -/
def dispositionOf : Urc → Disposition
  | .reboot => .reboot
  | .nping => .pingOk
  | .npingErr => .pingError
  | .npsmr => .enterPsm
  | urc => .mqtt [urc]

/-- The prefixes tested by `qsdk_thread_entry` itself, in order. -/
def chainKeys : List Urc :=
  [.reboot, .nping, .npingErr, .npsmr]

/-- The MQTT prefixes tested in front of a prefix. -/
def branchesBefore (own : Urc) : List Urc :=
  mqttBranches.takeWhile (· ≠ own)

/-- The MQTT prefixes tested behind a prefix. -/
def branchesAfter (own : Urc) : List Urc :=
  (mqttBranches.dropWhile (· ≠ own)).tail

/-- The prefixes whose occurrence in the body changes how a line is handled. -/
def diverters (own : Urc) : List Urc :=
  if own ∈ chainKeys then chainKeys.takeWhile (· ≠ own)
  else chainKeys ++ branchesBefore own ++ if own.tokenises then [] else branchesAfter own

/-- The body contains a prefix that diverts the line. -/
def Diverted (line : UrcLine) : Prop :=
  ∃ key ∈ diverters line.urc, key.cmdPrefix <:+: line.body

instance (line : UrcLine) : Decidable (Diverted line) :=
  inferInstanceAs (Decidable (∃ key ∈ diverters line.urc, key.cmdPrefix <:+: line.body))

private theorem mqttBranches_split : ∀ own ∈ mqttBranches,
    mqttBranches = branchesBefore own ++ own :: branchesAfter own ∧
      own ∉ branchesBefore own ∧ own ∉ branchesAfter own ∧ own ∉ chainKeys := by
  decide

theorem mqttBranches_eq_append {own : Urc} (mqtt : own ∈ mqttBranches) :
    mqttBranches = branchesBefore own ++ own :: branchesAfter own :=
  (mqttBranches_split own mqtt).1

theorem notMem_branchesBefore {own : Urc} (mqtt : own ∈ mqttBranches) :
    own ∉ branchesBefore own :=
  (mqttBranches_split own mqtt).2.1

theorem notMem_branchesAfter {own : Urc} (mqtt : own ∈ mqttBranches) :
    own ∉ branchesAfter own :=
  (mqttBranches_split own mqtt).2.2.1

theorem enteredBy_eq_nil_iff (event : Bytes) (keys : List Urc) :
    enteredBy event keys = [] ↔ ∀ key ∈ keys, ¬ Found event key.cmdPrefix := by
  induction keys with
  | nil => simp [enteredBy]
  | cons key rest ih =>
      by_cases found : Found event key.cmdPrefix
      · simp [enteredBy, found]
      · simp [enteredBy, found, ih]

/-- A row of tests enters exactly one given branch when nothing in front of it
is found and nothing behind it can be found any more. -/
theorem enteredBy_eq_singleton_iff (event : Bytes) (before after : List Urc) (own : Urc)
    (absent : own ∉ before) (found : Found event own.cmdPrefix) :
    enteredBy event (before ++ own :: after) = [own] ↔
      (∀ key ∈ before, ¬ Found event key.cmdPrefix) ∧
        (own.tokenises = true ∨ ∀ key ∈ after, ¬ Found event key.cmdPrefix) := by
  induction before with
  | nil =>
      rw [List.nil_append, enteredBy, if_pos found]
      cases own.tokenises with
      | true => simp
      | false => simp [enteredBy_eq_nil_iff]
  | cons key rest ih =>
      have differs : key ≠ own := fun equal => absent (equal ▸ List.mem_cons_self)
      have absentRest : own ∉ rest := fun member => absent (List.mem_cons_of_mem key member)
      rw [List.cons_append, enteredBy]
      by_cases here : Found event key.cmdPrefix
      · simp [here, differs]
      · simp [here, ih absentRest]

/-- An MQTT line reaches its own branch alone exactly when the chain finds
nothing and the row of tests enters that branch alone. -/
theorem disposition_mqtt_iff (line : UrcLine) (mqtt : line.urc ∈ mqttBranches)
    (driver : Driver) :
    (qsdkThreadEntry line.text driver).disposition = .mqtt [line.urc] ↔
      (∀ key ∈ chainKeys, ¬ Found line.text key.cmdPrefix) ∧
        enteredBy line.text mqttBranches = [line.urc] := by
  simp only [chainKeys, List.forall_mem_cons, List.not_mem_nil, false_implies, implies_true,
    and_true]
  unfold qsdkThreadEntry
  by_cases reboot : Found line.text (Urc.cmdPrefix .reboot)
  · simp [reboot]
  by_cases nping : Found line.text (Urc.cmdPrefix .nping)
  · simp [reboot, nping]
  by_cases npingErr : Found line.text (Urc.cmdPrefix .npingErr)
  · simp [reboot, nping, npingErr]
  by_cases npsmr : Found line.text (Urc.cmdPrefix .npsmr)
  · simp [reboot, nping, npingErr, npsmr]
  simp [reboot, nping, npingErr, npsmr, mqttEventFunc_entered line mqtt]

theorem not_found_iff_of_ne {line : UrcLine} {key : Urc} (differs : key ≠ line.urc) :
    ¬ Found line.text key.cmdPrefix ↔ ¬ key.cmdPrefix <:+: line.body := by
  rw [found_text_iff]
  simp [differs]

/-- Not finding any of some foreign prefixes in the line is not having any of
them in the body. -/
theorem forall_not_found_iff {line : UrcLine} {keys : List Urc} (foreign : line.urc ∉ keys) :
    (∀ key ∈ keys, ¬ Found line.text key.cmdPrefix) ↔
      ∀ key ∈ keys, ¬ key.cmdPrefix <:+: line.body := by
  apply forall₂_congr
  intro key member
  exact not_found_iff_of_ne fun equal => foreign (equal ▸ member)

theorem disposition_mqtt_iff_not_diverted (line : UrcLine) (mqtt : line.urc ∈ mqttBranches)
    (driver : Driver) :
    (qsdkThreadEntry line.text driver).disposition = .mqtt [line.urc] ↔ ¬ Diverted line := by
  rcases mqttBranches_split line.urc mqtt with ⟨split, notBefore, notAfter, notChain⟩
  have own : Found line.text line.urc.cmdPrefix := (found_text_iff line line.urc).mpr (Or.inl rfl)
  rw [disposition_mqtt_iff line mqtt, split,
    enteredBy_eq_singleton_iff _ _ _ _ notBefore own, forall_not_found_iff notChain,
    forall_not_found_iff notBefore, forall_not_found_iff notAfter]
  simp only [Diverted, diverters, if_neg notChain, not_exists, not_and, List.forall_mem_append,
    and_assoc]
  cases line.urc.tokenises with
  | true => simp
  | false => simp

/-- Every line is handled by its own prefix unless its body diverts it. -/
theorem disposition_eq_iff_not_diverted (line : UrcLine) (driver : Driver) :
    (qsdkThreadEntry line.text driver).disposition = dispositionOf line.urc ↔
      ¬ Diverted line := by
  rcases line with ⟨urc, body, noNul⟩
  cases urc with
  | reboot =>
      simp [qsdkThreadEntry, found_text_iff, dispositionOf, Diverted, diverters, chainKeys]
  | nping =>
      by_cases reboot : Urc.cmdPrefix .reboot <:+: body <;>
        simp [qsdkThreadEntry, found_text_iff, dispositionOf, Diverted, diverters, chainKeys,
          reboot]
  | npingErr =>
      by_cases reboot : Urc.cmdPrefix .reboot <:+: body <;>
        by_cases nping : Urc.cmdPrefix .nping <:+: body <;>
        simp [qsdkThreadEntry, found_text_iff, dispositionOf, Diverted, diverters, chainKeys,
          reboot, nping]
  | npsmr =>
      by_cases reboot : Urc.cmdPrefix .reboot <:+: body <;>
        by_cases nping : Urc.cmdPrefix .nping <:+: body <;>
        by_cases npingErr : Urc.cmdPrefix .npingErr <:+: body <;>
        simp [qsdkThreadEntry, found_text_iff, dispositionOf, Diverted, diverters, chainKeys,
          reboot, nping, npingErr]
  | _ =>
      exact disposition_mqtt_iff_not_diverted ⟨_, body, noNul⟩
        (by simp [mqttBranches]) driver

end BerPiNbiot.Modem
