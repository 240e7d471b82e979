import BerPiNbiot.Modem.Dispatch

/-!
# What a remote publisher can cause

The payload of a `+MQTTPUBLISH:` line is chosen by whoever publishes to the
device's topic.  `RemoteView` collects what the rest of the firmware can see of
the handling of a line: the flags sent to both event objects, the attach table
and the acknowledgement fields of `mqtt_device`.  The data callback is the
legitimate channel for the payload and is not part of the view.

Lines that are not diverted leave the view untouched, whatever their payload
says; a payload that carries a prefix of the table does not.
-/

namespace BerPiNbiot.Modem

open BerPiNbiot.Kernel
open BerPiNbiot.Text

/-- The observable part of handling one line. -/
structure RemoteView where
  nbEventSent : List EventSet
  netErrorSent : List EventSet
  nbDeviceTable : NbDevice
  connectStatus : Int
  subackStatus : Int
  unsubackStatus : Int
  pubackStatus : Int
  pubrecStatus : Int
  pubcompStatus : Int
  errorType : Int
  deriving DecidableEq

/-- The flag set of an effect on `nb_event`. -/
def Effect.nbEvent? : Effect → Option EventSet
  | .sendNbEvent set => some set
  | _ => none

/-- The flag set of an effect on `net_error`. -/
def Effect.netError? : Effect → Option EventSet
  | .sendNetError set => some set
  | _ => none

/-- The view of a driver state and the effects that led to it. -/
def viewOf (driver : Driver) (effects : List Effect) : RemoteView where
  nbEventSent := effects.filterMap Effect.nbEvent?
  netErrorSent := effects.filterMap Effect.netError?
  nbDeviceTable := driver.nbDeviceTable
  connectStatus := driver.mqttDevice.connectStatus
  subackStatus := driver.mqttDevice.subackStatus
  unsubackStatus := driver.mqttDevice.unsubackStatus
  pubackStatus := driver.mqttDevice.pubackStatus
  pubrecStatus := driver.mqttDevice.pubrecStatus
  pubcompStatus := driver.mqttDevice.pubcompStatus
  errorType := driver.mqttDevice.errorType

/-- What is seen of the handling of an event text. -/
def remoteView (event : Bytes) (driver : Driver) : RemoteView :=
  let handled := qsdkThreadEntry event driver
  viewOf handled.driver handled.effects

/-- The six fields in front of the payload of a PUBLISH line. -/
def publishHeader (fields : List Bytes) : Bytes :=
  fields.flatMap (· ++ comma)

/-- Two PUBLISH lines with the same header fields. -/
def DifferInPayload (first second : UrcLine) : Prop :=
  first.urc = .mqttPublish ∧ second.urc = .mqttPublish ∧
    ∃ (fields : List Bytes) (payload payload' : Bytes),
      fields.length = 6 ∧ (∀ field ∈ fields, 44 ∉ field) ∧
        first.body = publishHeader fields ++ payload ∧
        second.body = publishHeader fields ++ payload'

/-! ## Lines that are handled by their own branch -/

/-- When no test in front of a line's own one succeeds, the run starts with the
line's own branch. -/
theorem mqttEventFunc_of_before_absent (line : UrcLine) (mqtt : line.urc ∈ mqttBranches)
    (device : MqttDevice)
    (absent : ∀ key ∈ branchesBefore line.urc, ¬ Found line.text key.cmdPrefix) :
    mqttEventFunc line.text device =
      (branchesAfter line.urc).foldl mqttBranch
        (branchBody line.urc { event := line.text, device, entered := [line.urc] }) := by
  have own : Found line.text line.urc.cmdPrefix := (found_text_iff line line.urc).mpr (Or.inl rfl)
  have skipped := foldl_mqttBranch_of_not_found (branchesBefore line.urc)
    { event := line.text, device } absent
  rw [mqttEventFunc, mqttBranches_eq_append mqtt, List.foldl_append, skipped, List.foldl_cons]
  congr 1
  simp [mqttBranch, own]

/-- A tokenising branch that is reached ends the run. -/
theorem mqttEventFunc_of_tokenises (line : UrcLine) (mqtt : line.urc ∈ mqttBranches)
    (device : MqttDevice) (tokenises : line.urc.tokenises = true)
    (absent : ∀ key ∈ branchesBefore line.urc, ¬ Found line.text key.cmdPrefix) :
    mqttEventFunc line.text device =
      branchBody line.urc { event := line.text, device, entered := [line.urc] } := by
  rw [mqttEventFunc_of_before_absent line mqtt device absent]
  apply foldl_mqttBranch_of_not_found
  intro key member
  rw [branchBody_event, if_pos tokenises]
  have tested : key ∈ mqttBranches := by
    rw [mqttBranches_eq_append mqtt]
    simp [member]
  exact not_found_tokenView line mqtt key tested

/-- The PUBLISH branch sends no flags and leaves the acknowledgement fields
alone. -/
theorem viewOf_publishBranch (driver : Driver) (event : Bytes) :
    viewOf { driver with mqttDevice :=
        (publishBranch { event, device := driver.mqttDevice, entered := [.mqttPublish] }).device }
      (publishBranch { event, device := driver.mqttDevice, entered := [.mqttPublish] }).effects =
      viewOf driver [] := by
  simp only [publishBranch]
  split
  · rfl
  · split
    · rfl
    · by_cases closed : driver.mqttDevice.pubackOpen = 0
      · simp [closed, viewOf, Effect.nbEvent?, Effect.netError?]
      · simp [closed, viewOf]

/-- A PUBLISH line that is not diverted is invisible outside its callback. -/
theorem remoteView_publish (line : UrcLine) (publish : line.urc = .mqttPublish)
    (straight : ¬ Diverted line) (driver : Driver) :
    remoteView line.text driver = viewOf driver [] := by
  have mqtt : line.urc ∈ mqttBranches := by simp [publish, mqttBranches]
  have alone := (disposition_mqtt_iff line mqtt driver).mp
    ((disposition_mqtt_iff_not_diverted line mqtt driver).mpr straight)
  rcases alone with ⟨chain, entered⟩
  rw [mqttBranches_eq_append mqtt] at entered
  have own : Found line.text line.urc.cmdPrefix := (found_text_iff line line.urc).mpr (Or.inl rfl)
  have before := ((enteredBy_eq_singleton_iff _ _ _ _ (notMem_branchesBefore mqtt) own).mp
    entered).1
  have run := mqttEventFunc_of_tokenises line mqtt driver.mqttDevice
    (by rw [publish]; rfl) before
  simp only [chainKeys, List.forall_mem_cons] at chain
  rcases chain with ⟨reboot, nping, npingErr, npsmr, _⟩
  simp only [remoteView, qsdkThreadEntry, if_neg reboot, if_neg nping, if_neg npingErr,
    if_neg npsmr, run, publish]
  exact viewOf_publishBranch driver line.text

/-- Exact account of the dispatcher's independence of the body: a line is
handled as its prefix asks if and only if its body does not divert it, and two
PUBLISH lines that differ in their payload only and are not diverted look the
same to the rest of the firmware in every driver state. -/
theorem dispatch_by_prefix_iff (line : UrcLine) (driver : Driver) :
    ((qsdkThreadEntry line.text driver).disposition = dispositionOf line.urc ↔
      ¬ Diverted line) ∧
    ∀ other : UrcLine, DifferInPayload line other → ¬ Diverted line → ¬ Diverted other →
      remoteView line.text driver = remoteView other.text driver := by
  constructor
  · exact disposition_eq_iff_not_diverted line driver
  · intro other differ straight otherStraight
    rw [remoteView_publish line differ.1 straight,
      remoteView_publish other differ.2.1 otherStraight]

/-! ## A forged reboot -/

/-- The payload field dependence that the dispatcher would have to satisfy. -/
def PayloadIndependent : Prop :=
  (∀ first second : UrcLine, first.urc = second.urc → ∀ driver,
    (qsdkThreadEntry first.text driver).disposition =
      (qsdkThreadEntry second.text driver).disposition) ∧
  ∀ first second : UrcLine, DifferInPayload first second →
    ∀ driver, remoteView first.text driver = remoteView second.text driver

/-- A PUBLISH line with a harmless payload. -/
def plainPublish : UrcLine where
  urc := .mqttPublish
  body := ascii "0,0,0,1,rb_sub,7,payload"
  noNul := by decide

/-- The same line with another harmless payload. -/
def otherPublish : UrcLine where
  urc := .mqttPublish
  body := ascii "0,0,0,1,rb_sub,7,PAYLOAD"
  noNul := by decide

/-- The same line with the payload `REBOOT_`. -/
def rebootPublish : UrcLine where
  urc := .mqttPublish
  body := ascii "0,0,0,1,rb_sub,7,REBOOT_"
  noNul := by decide

theorem plainPublish_not_diverted : ¬ Diverted plainPublish := by
  decide +kernel

theorem otherPublish_not_diverted : ¬ Diverted otherPublish := by
  decide +kernel

theorem plainPublish_dispatch :
    (qsdkThreadEntry plainPublish.text {}).disposition = .mqtt [.mqttPublish] ∧
      remoteView plainPublish.text {} = remoteView otherPublish.text {} :=
  ⟨(dispatch_by_prefix_iff plainPublish {}).1.mpr plainPublish_not_diverted,
    (dispatch_by_prefix_iff plainPublish {}).2 otherPublish
      ⟨rfl, rfl, [ascii "0", ascii "0", ascii "0", ascii "1", ascii "rb_sub", ascii "7"],
        ascii "payload", ascii "PAYLOAD", by decide, by decide, by decide, by decide⟩
      plainPublish_not_diverted otherPublish_not_diverted⟩

/-- A payload that spells a prefix of the table makes the dispatcher run
`nb_reboot_func`. -/
theorem rebootPublish_forges_reboot :
    (qsdkThreadEntry rebootPublish.text {}).disposition = .reboot ∧ ¬ PayloadIndependent := by
  have forged : (qsdkThreadEntry rebootPublish.text {}).disposition = .reboot := by
    decide +kernel
  constructor
  · exact forged
  · rintro ⟨sameDisposition, _⟩
    have equal := sameDisposition rebootPublish plainPublish rfl {}
    have plain := (disposition_eq_iff_not_diverted plainPublish {}).mpr plainPublish_not_diverted
    rw [forged, plain] at equal
    exact absurd equal (by decide)

end BerPiNbiot.Modem
