import BerPiNbiot.Modem.Dispatch
import BerPiNbiot.Modem.Mqtt
import BerPiNbiot.Resumption.Handler

/-!
# Waiting for an acknowledgement

The waiting functions of `nb_mqtt.c` against a schedule of notifications.  A
schedule says which lines are handled while the command is under way and in each
of the delays behind it; between two delays the function looks at the field that
it waits for.  In its last turn it does not look: the counter has reached zero,
and zero is what it takes for a timeout.
-/

namespace BerPiNbiot.Modem

open BerPiNbiot.Resumption
open BerPiNbiot.Text

/-! ## Schedules -/

/-- A waiting function among the notifications. -/
structure Wait where
  device : MqttDevice := {}
  /-- the intervals that have passed -/
  elapsed : Nat := 0
  /-- what the topic pointers point to -/
  topics : Option Nat → MqttStream := fun _ => {}

/-- An assignment to `suback_ststus` of a topic. -/
def Wait.mark (wait : Wait) (slot : Option Nat) (subackStatus : Int) : Wait :=
  { wait with topics := Function.update wait.topics slot { wait.topics slot with subackStatus } }

theorem Wait.mark_topics (wait : Wait) (slot : Option Nat) (subackStatus : Int) :
    ((wait.mark slot subackStatus).topics slot).subackStatus = subackStatus := by
  simp [Wait.mark]

section Schedule

variable (arrivals : Nat → List UrcLine)

/-- An interval passes and its notifications are handled. -/
def Wait.pass (wait : Wait) : Wait :=
  { wait with
    device := (arrivals wait.elapsed).foldl (fun device line => mqttDeviceAfter line.text device)
      wait.device
    elapsed := wait.elapsed + 1 }

/-- The answers to the calls of a waiting function.  Its command succeeds and is
the first interval; the calls of other functions change nothing. -/
def Wait.handle (wait : Wait) : (request : Call) → request.Answer × Wait
  | .execCmd _ => (true, wait.pass arrivals)
  | .threadDelay _ => ((), wait.pass arrivals)
  | .readMqtt => (wait.device, wait)
  | .writeMqtt update => ((), { wait with device := update wait.device })
  | .topicRead slot => (wait.topics slot, wait)
  | .topicWrite slot subackStatus => ((), wait.mark slot subackStatus)
  | .malloc _ | .waitConnect _ | .sendDataMailRecv => (true, wait)
  | .respParse .. | .respParseByKw .. => ([], wait)
  | .readSendData => ([], wait)
  | .eventRecv .. => (none, wait)
  | .readTable => ({}, wait)
  | .readPsmStatus => (.moduleInitOk, wait)
  | .topicInit _ => (none, wait)
  | .uninitialised => (fun _ => 0, wait)
  | .deleteResp | .lockTake | .lockRelease | .eventSend .. | .resetPin _ | .writeTable _
  | .writePsmStatus _ | .rtcSetTime _ | .dataUpStartup | .dataUpSuspend | .dataUpResume =>
      ((), wait)

/-! ## Phases -/

/-- The loop of one phase: up to fifty delays, until the field has left its
waiting value. -/
def Wait.poll (waiting : MqttDevice → Bool) (wait : Wait) : Nat × Wait :=
  retry (fun wait => !waiting (wait.pass arrivals).device) (Wait.pass arrivals) 50 wait

theorem run_pollAck (ticks : Nat) (waiting : MqttDevice → Bool) (wait : Wait) :
    (pollAck ticks waiting 50).run (Wait.handle arrivals) wait = wait.poll arrivals waiting := by
  apply Program.run_eq_retry
  · rfl
  · intro left wait
    cases left with
    | zero => cases waiting (wait.pass arrivals).device <;> rfl
    | succ left =>
        have turn : (pollAck ticks waiting (left + 1 + 1)).run (Wait.handle arrivals) wait =
            (if waiting (wait.pass arrivals).device then pollAck ticks waiting (left + 1)
              else return left + 1).run (Wait.handle arrivals) (wait.pass arrivals) := rfl
        rw [turn]
        cases waiting (wait.pass arrivals).device <;> rfl

/-- The phases one behind the other. -/
def Wait.pollPhases : List (MqttDevice → Bool) → Wait → Bool × Wait
  | [], wait => (true, wait)
  | waiting :: rest, wait =>
      if (wait.poll arrivals waiting).1 = 0 then (false, (wait.poll arrivals waiting).2)
      else Wait.pollPhases rest (wait.poll arrivals waiting).2

/-- The test of the phase in which the last poll is made. -/
def Wait.lastTest : List (MqttDevice → Bool) → Wait → MqttDevice → Bool
  | [], _ => fun _ => false
  | [waiting], _ => waiting
  | waiting :: next :: rest, wait =>
      if (wait.poll arrivals waiting).1 = 0 then waiting
      else Wait.lastTest (next :: rest) (wait.poll arrivals waiting).2

/-- The field leaves its waiting value for the first time behind some polls. -/
def Wait.LeavesAt (waiting : MqttDevice → Bool) (wait : Wait) (polls : Nat) : Prop :=
  (∀ earlier < polls, waiting ((Wait.pass arrivals)^[earlier + 1] wait).device = true) ∧
    waiting ((Wait.pass arrivals)^[polls + 1] wait).device = false

/-- A field leaves its waiting value in the last interval of its phase. -/
def Wait.Late : List (MqttDevice → Bool) → Wait → Prop
  | [], _ => False
  | waiting :: rest, wait => wait.LeavesAt arrivals waiting 49 ∨
      ∃ polls < 49, wait.LeavesAt arrivals waiting polls ∧
        Wait.Late rest ((Wait.pass arrivals)^[polls + 1] wait)

variable {arrivals}

theorem Wait.LeavesAt.unique {waiting : MqttDevice → Bool} {wait : Wait} {first second : Nat}
    (one : wait.LeavesAt arrivals waiting first) (two : wait.LeavesAt arrivals waiting second) :
    first = second := by
  rcases Nat.lt_trichotomy first second with before | same | behind
  · have still := two.1 first before
    rw [one.2] at still
    contradiction
  · exact same
  · have still := one.1 second behind
    rw [two.2] at still
    contradiction

/-- Either the field leaves its waiting value before the last poll or it waits
through all the polls before. -/
theorem Wait.leavesAt_or_waits (waiting : MqttDevice → Bool) (wait : Wait) (budget : Nat) :
    (∃ polls < budget, wait.LeavesAt arrivals waiting polls) ∨
      ∀ polls < budget, waiting ((Wait.pass arrivals)^[polls + 1] wait).device = true := by
  induction budget with
  | zero => exact Or.inr fun polls less => absurd less (Nat.not_lt_zero polls)
  | succ budget ih =>
      rcases ih with ⟨polls, less, leaves⟩ | waits
      · exact Or.inl ⟨polls, Nat.lt_succ_of_lt less, leaves⟩
      · cases now : waiting ((Wait.pass arrivals)^[budget + 1] wait).device with
        | false => exact Or.inl ⟨budget, Nat.lt_succ_self budget, waits, now⟩
        | true =>
            refine Or.inr fun polls less => ?_
            rcases Nat.lt_succ_iff_lt_or_eq.mp less with before | rfl
            · exact waits polls before
            · exact now

theorem Wait.poll_of_leavesAt {waiting : MqttDevice → Bool} {wait : Wait} {polls : Nat}
    (inside : polls < 50) (leaves : wait.LeavesAt arrivals waiting polls) :
    wait.poll arrivals waiting = (50 - (polls + 1), (Wait.pass arrivals)^[polls + 1] wait) := by
  apply retry_eq_of_met _ _ inside
  · intro earlier less
    have still := leaves.1 earlier less
    rw [Function.iterate_succ_apply'] at still
    rw [still]
    rfl
  · have left := leaves.2
    rw [Function.iterate_succ_apply'] at left
    rw [left]
    rfl

theorem Wait.poll_of_waits {waiting : MqttDevice → Bool} {wait : Wait}
    (waits : ∀ polls < 49, waiting ((Wait.pass arrivals)^[polls + 1] wait).device = true) :
    wait.poll arrivals waiting = (0, (Wait.pass arrivals)^[50] wait) := by
  apply retry_eq_of_unmet
  intro polls less
  have still := waits polls (by omega)
  rw [Function.iterate_succ_apply'] at still
  rw [still]
  rfl

/-- The phases report what the last poll could see if and only if no field leaves
its waiting value in the last interval of its phase. -/
theorem Wait.pollPhases_iff {phases : List (MqttDevice → Bool)} (some : phases ≠ [])
    (wait : Wait) :
    ((wait.pollPhases arrivals phases).1 = true ↔
      wait.lastTest arrivals phases (wait.pollPhases arrivals phases).2.device = false) ↔
    ¬ wait.Late arrivals phases := by
  induction phases generalizing wait with
  | nil => contradiction
  | cons waiting rest ih =>
      rcases wait.leavesAt_or_waits waiting 49 with ⟨polls, less, leaves⟩ | waits
      · have polled := Wait.poll_of_leavesAt (Nat.lt_succ_of_lt less) leaves
        have counter : ¬ 50 - (polls + 1) = 0 := by omega
        have late : wait.Late arrivals (waiting :: rest) ↔
            ((Wait.pass arrivals)^[polls + 1] wait).Late arrivals rest := by
          constructor
          · rintro (last | ⟨other, _, again, later⟩)
            · have := last.unique leaves
              omega
            · rw [leaves.unique again]
              exact later
          · intro later
            exact Or.inr ⟨polls, less, leaves, later⟩
        rw [late]
        cases rest with
        | nil =>
            simp only [Wait.pollPhases, Wait.lastTest, polled, counter, if_false, leaves.2,
              Wait.Late, not_false_eq_true]
        | cons next more =>
            simp only [Wait.pollPhases, Wait.lastTest, polled, counter, if_false]
            exact ih (List.cons_ne_nil next more) _
      · have polled := Wait.poll_of_waits waits
        have test : wait.lastTest arrivals (waiting :: rest) = waiting := by
          cases rest with
          | nil => rfl
          | cons next more => rw [Wait.lastTest, polled, if_pos rfl]
        have late : wait.Late arrivals (waiting :: rest) ↔
            waiting ((Wait.pass arrivals)^[50] wait).device = false := by
          constructor
          · rintro (last | ⟨polls, less, leaves, _⟩)
            · exact last.2
            · have still := waits polls less
              rw [leaves.2] at still
              contradiction
          · intro left
            exact Or.inl ⟨waits, left⟩
        rw [late, test, Wait.pollPhases, polled, if_pos rfl]
        simp only [Bool.false_eq_true, false_iff]

end Schedule

/-! ## The waiting functions -/

/-- A call of a waiting function that gets as far as its command. -/
inductive Waiter
  | connect
  | sub (topic : Option Nat)
  | unsub (topic : Option Nat)
  | close
  | pubQos1 (mesg : Bytes) (nonempty : mesg ≠ [])
  | pubQos2 (mesg : Bytes) (nonempty : mesg ≠ [])

/-- The function behind a waiter. -/
def Waiter.code : Waiter → Code Bool
  | .connect => qsdkMqttOpen
  | .sub topic => qsdkMqttSub topic
  | .unsub topic => qsdkMqttUnsub topic
  | .close => qsdkMqttClose
  | .pubQos1 mesg _ => qsdkMqttPubStream mesg 1
  | .pubQos2 mesg _ => qsdkMqttPubStream mesg 2

/-- The tests of the phases: the field still has its waiting value. -/
def Waiter.phases : Waiter → List (MqttDevice → Bool)
  | .connect => [fun device => device.connectStatus = 0]
  | .sub _ => [fun device => device.subackStatus = 0x80]
  | .unsub _ => [fun device => device.unsubackStatus = 0]
  | .close => [fun device => device.connectStatus = 1]
  | .pubQos1 .. => [fun device => device.pubackStatus = 0]
  | .pubQos2 .. => [fun device => device.pubrecStatus = 0, fun device => device.pubcompStatus = 0]

/-- What the function does to `mqtt_device` in front of its command. -/
def Waiter.clears (device : MqttDevice) : Waiter → MqttDevice
  | .connect | .close => device
  | .sub _ => { device with subackStatus := 0x80 }
  | .unsub _ => { device with unsubackStatus := 0 }
  | .pubQos1 .. | .pubQos2 .. =>
      { device with pubackStatus := 0, pubcompStatus := 0, pubrecStatus := 0 }

section Schedule

variable (arrivals : Nat → List UrcLine)

/-- The state in front of the first poll. -/
def Waiter.started (waiter : Waiter) (before : Wait) : Wait :=
  Wait.pass arrivals { before with device := waiter.clears before.device }

/-- The state behind the last poll, with what the polls report. -/
def Waiter.polled (waiter : Waiter) (before : Wait) : Bool × Wait :=
  (waiter.started arrivals before).pollPhases arrivals waiter.phases

/-- A phase whose counter is the result. -/
theorem run_phase (ticks : Nat) (waiting : MqttDevice → Bool) (wait : Wait) :
    (pollAck ticks waiting 50 >>= fun count => pure (decide (count ≠ 0))).run (Wait.handle arrivals)
      wait = wait.pollPhases arrivals [waiting] := by
  rw [Program.run_bind, run_pollAck, Wait.pollPhases, Wait.pollPhases]
  by_cases none : (wait.poll arrivals waiting).1 = 0
  · simp [none]
  · simp [none]

/-- A phase whose counter decides what follows. -/
theorem run_phase_then (ticks : Nat) (waiting : MqttDevice → Bool) (next : Code Bool)
    (wait : Wait) :
    (pollAck ticks waiting 50 >>= fun count => if count = 0 then pure false else next).run
        (Wait.handle arrivals) wait =
      if (wait.poll arrivals waiting).1 = 0 then (false, (wait.poll arrivals waiting).2)
      else next.run (Wait.handle arrivals) (wait.poll arrivals waiting).2 := by
  rw [Program.run_bind, run_pollAck, Program.run_ite]
  rfl

/-- A phase that is followed by an assignment to the topic. -/
theorem run_phase_mark (ticks : Nat) (waiting : MqttDevice → Bool) (topic : Option Nat)
    (status : Int) (wait : Wait) :
    (pollAck ticks waiting 50 >>= fun count => if count = 0 then pure false else
        topicWrite topic status >>= fun _ => pure true).run (Wait.handle arrivals) wait =
      let polled := wait.pollPhases arrivals [waiting]
      (polled.1, if polled.1 then polled.2.mark topic status else polled.2) := by
  rw [run_phase_then, Wait.pollPhases, Wait.pollPhases]
  split <;> rfl

theorem run_pubStream {mesg : Bytes} (nonempty : mesg ≠ []) (qos : Int) (before : Wait) :
    (qsdkMqttPubStream mesg qos).run (Wait.handle arrivals) before =
      (pubAck qos).run (Wait.handle arrivals)
        ((Waiter.pubQos1 mesg nonempty).started arrivals before) := by
  rw [qsdkMqttPubStream, Program.run_bind]
  change (ite (mesg = []) _ _ : Code Bool).run _ _ = _
  rw [if_neg nonempty]
  rfl

/-- A function reports what its phases report.  Behind them `qsdk_mqtt_sub` and
`qsdk_mqtt_unsub` assign to their topic. -/
theorem run_code_eq (waiter : Waiter) (before : Wait) :
    waiter.code.run (Wait.handle arrivals) before =
      let polled := waiter.polled arrivals before
      (polled.1, match waiter with
        | .sub topic => if polled.1 then polled.2.mark topic 1 else polled.2
        | .unsub topic => if polled.1 then polled.2.mark topic 0 else polled.2
        | _ => polled.2) := by
  cases waiter with
  | connect => exact run_phase arrivals 50 _ _
  | sub topic => exact run_phase_mark arrivals 50 _ topic 1 _
  | unsub topic => exact run_phase_mark arrivals 50 _ topic 0 _
  | close => exact run_phase arrivals 50 _ _
  | pubQos1 mesg nonempty =>
      rw [Waiter.code, run_pubStream arrivals nonempty]
      exact run_phase arrivals 100 _ _
  | pubQos2 mesg nonempty =>
      rw [Waiter.code, run_pubStream arrivals nonempty, pubAck, if_neg (by decide), if_pos rfl,
        run_phase_then, run_phase]
      rfl

end Schedule

/-! ## Return codes -/

/-- The return code that the branch for SUBACK reads from a text. -/
def subackCode (event : Bytes) : Option Int :=
  (strtok comma (strtok comma (strtok colon (some event)).2).2).1.map atoi

theorem subackStatus_subackBranch (run : MqttRun) :
    (subackBranch run).device.subackStatus =
      (subackCode run.event).getD run.device.subackStatus := by
  unfold subackBranch subackCode
  rcases strtok colon (some run.event) with ⟨_, rest⟩
  simp only
  rcases strtok comma rest with ⟨_, rest⟩
  simp only
  rcases strtok comma rest with ⟨_ | code, _⟩ <;> rfl

/-- The other branches leave the status alone. -/
theorem subackStatus_mqttBranch {key : Urc} (other : key ≠ .mqttSuback) (run : MqttRun) :
    (mqttBranch run key).device.subackStatus = run.device.subackStatus := by
  unfold mqttBranch
  split
  · rfl
  · split
    · cases key <;> simp only [branchBody, id, openBranch, pubackBranch, unsubackBranch, discBranch,
        pubrecBranch, pubcompBranch, publishBranch, pingrespBranch, toBranch, ne_eq,
        not_true_eq_false] at other ⊢
      all_goals repeat' split
      all_goals rfl
    · rfl

theorem subackStatus_foldl {keys : List Urc} (others : .mqttSuback ∉ keys) (run : MqttRun) :
    (keys.foldl mqttBranch run).device.subackStatus = run.device.subackStatus := by
  induction keys generalizing run with
  | nil => rfl
  | cons key rest ih =>
      rw [List.mem_cons, not_or] at others
      rw [List.foldl_cons, ih others.2, subackStatus_mqttBranch (Ne.symm others.1)]

/-- Behind a notification with the code 128 the status has its waiting value. -/
theorem subackStatus_mqttEventFunc (event : Bytes) (device : MqttDevice) :
    (mqttEventFunc event device).device.subackStatus =
      if Found event (Urc.cmdPrefix .mqttSuback) then (subackCode event).getD device.subackStatus
      else device.subackStatus := by
  have first : mqttBranch { event, device } .mqttOpen =
      if Found event (Urc.cmdPrefix .mqttOpen) then
      openBranch { event, device, entered := [.mqttOpen] } else { event, device } := rfl
  have text : (mqttBranch { event, device } .mqttOpen).event = event := by
    rw [first]
    split <;> rfl
  have clean : (mqttBranch { event, device } .mqttOpen).fault = false := by
    rw [first]
    split <;> rfl
  have status := @subackStatus_mqttBranch .mqttOpen (by decide) { event, device }
  have rest : mqttEventFunc event device =
      [Urc.mqttPuback, .mqttUnsuback, .mqttDisc, .mqttPubrec, .mqttPubcomp, .mqttPublish,
        .mqttPingresp, .mqttTo, .mqttRec].foldl mqttBranch
        (mqttBranch (mqttBranch { event, device } .mqttOpen) .mqttSuback) := rfl
  rw [rest, subackStatus_foldl (by decide), mqttBranch, clean, text, if_neg Bool.false_ne_true]
  split
  · rw [branchBody, subackStatus_subackBranch, status]
  · exact status

/-- A SUBACK in the line refuses the subscription. -/
def UrcLine.Refuses (line : UrcLine) : Prop :=
  Found line.text (Urc.cmdPrefix .mqttSuback) → subackCode line.text = some 128

/-- Either a notification is handled by `mqtt_event_func` or it leaves
`mqtt_device` alone. -/
theorem mqttDeviceAfter_cases (event : Bytes) (device : MqttDevice) :
    mqttDeviceAfter event device = device ∨
      mqttDeviceAfter event device = (mqttEventFunc event device).device := by
  unfold mqttDeviceAfter qsdkThreadEntry
  split
  · exact Or.inl (nbRebootFunc_mqttDevice event _)
  split
  · exact Or.inl rfl
  split
  · exact Or.inl rfl
  split
  · exact Or.inl rfl
  · exact Or.inr rfl

theorem subackStatus_of_refuses {line : UrcLine} (refuses : line.Refuses) {device : MqttDevice}
    (waiting : device.subackStatus = 0x80) :
    (mqttDeviceAfter line.text device).subackStatus = 0x80 := by
  rcases mqttDeviceAfter_cases line.text device with same | handled
  · rw [same, waiting]
  · rw [handled, subackStatus_mqttEventFunc]
    split
    · rename_i found
      rw [refuses found]
      rfl
    · exact waiting

section Schedule

variable {arrivals : Nat → List UrcLine}

theorem elapsed_iterate (count : Nat) (wait : Wait) :
    ((Wait.pass arrivals)^[count] wait).elapsed = wait.elapsed + count := by
  induction count with
  | zero => rfl
  | succ count ih =>
      rw [Function.iterate_succ_apply', ← Nat.add_assoc, ← ih]
      rfl

/-- An interval of refusals keeps the status at its waiting value. -/
theorem subackStatus_pass {wait : Wait}
    (refused : ∀ line ∈ arrivals wait.elapsed, line.Refuses)
    (waiting : wait.device.subackStatus = 0x80) :
    (wait.pass arrivals).device.subackStatus = 0x80 := by
  change ((arrivals wait.elapsed).foldl _ wait.device).subackStatus = 0x80
  generalize wait.device = device at waiting ⊢
  generalize arrivals wait.elapsed = lines at refused ⊢
  induction lines generalizing device with
  | nil => exact waiting
  | cons line rest ih =>
      apply ih
      · exact subackStatus_of_refuses (refused line List.mem_cons_self) waiting
      · exact fun other member => refused other (List.mem_cons_of_mem line member)

theorem subackStatus_iterate {wait : Wait} {count : Nat}
    (refused : ∀ interval, wait.elapsed ≤ interval → interval < wait.elapsed + count →
      ∀ line ∈ arrivals interval, line.Refuses)
    (waiting : wait.device.subackStatus = 0x80) :
    ((Wait.pass arrivals)^[count] wait).device.subackStatus = 0x80 := by
  induction count with
  | zero => exact waiting
  | succ count ih =>
      rw [Function.iterate_succ_apply']
      apply subackStatus_pass
      · rw [elapsed_iterate]
        exact refused _ (Nat.le_add_right _ _) (Nat.lt_succ_self _)
      · exact ih fun interval least less => refused interval least (Nat.lt_succ_of_lt less)

/-- Refusals alone do not end the wait of `qsdk_mqtt_sub`. -/
theorem polled_sub_of_refused {topic : Option Nat} {before : Wait}
    (refused : ∀ interval, before.elapsed ≤ interval →
      interval < ((Waiter.sub topic).polled arrivals before).2.elapsed →
      ∀ line ∈ arrivals interval, line.Refuses) :
    ((Waiter.sub topic).polled arrivals before).1 = false := by
  have polls : (Waiter.sub topic).polled arrivals before =
      ((Waiter.sub topic).started arrivals before).pollPhases arrivals
        [fun device => device.subackStatus = 0x80] := rfl
  rw [polls, Wait.pollPhases] at refused ⊢
  rcases Wait.leavesAt_or_waits (fun device => device.subackStatus = 0x80)
    ((Waiter.sub topic).started arrivals before) 49 with ⟨count, less, leaves⟩ | waits
  · rw [Wait.poll_of_leavesAt (Nat.lt_succ_of_lt less) leaves, if_neg (by omega), Wait.pollPhases,
      elapsed_iterate] at refused
    have granted := leaves.2
    rw [Waiter.started, ← Function.iterate_succ_apply, decide_eq_false_iff_not] at granted
    apply absurd _ granted
    apply subackStatus_iterate
    · intro interval least less
      apply refused interval least
      change interval < before.elapsed + (count + 1 + 1) at less
      change interval < before.elapsed + 1 + (count + 1)
      omega
    · rfl
  · rw [Wait.poll_of_waits waits, if_pos rfl]

end Schedule

/-! ## Reports -/

/-- A waiting function returns `RT_EOK` if and only if the field that it waits for
has left its waiting value at the last poll.  For `qsdk_mqtt_sub` this means in
particular that the topic of a granted subscription is marked, and that refusals do
not make it succeed. -/
def Waiter.Reports (waiter : Waiter) (arrivals : Nat → List UrcLine) (before : Wait) : Prop :=
  let after := waiter.code.run (Wait.handle arrivals) before
  (after.1 = true ↔
    (waiter.started arrivals before).lastTest arrivals waiter.phases after.2.device = false) ∧
  ∀ topic, waiter = .sub topic →
    (after.2.device.subackStatus ≠ 0x80 → (after.2.topics topic).subackStatus = 1) ∧
    ((∀ interval, before.elapsed ≤ interval → interval < after.2.elapsed →
      ∀ line ∈ arrivals interval, line.Refuses) → after.1 = false)

/-- The assignment to the topic does not change what the notifications have left. -/
theorem run_code_polled (waiter : Waiter) (arrivals : Nat → List UrcLine) (before : Wait) :
    (waiter.code.run (Wait.handle arrivals) before).1 = (waiter.polled arrivals before).1 ∧
      (waiter.code.run (Wait.handle arrivals) before).2.device =
        (waiter.polled arrivals before).2.device ∧
      (waiter.code.run (Wait.handle arrivals) before).2.elapsed =
        (waiter.polled arrivals before).2.elapsed := by
  rw [run_code_eq]
  cases waiter with
  | sub topic | unsub topic =>
      dsimp only
      split <;> exact ⟨rfl, rfl, rfl⟩
  | _ => exact ⟨rfl, rfl, rfl⟩

/-- The waiting functions report what happened if and only if no field leaves its
waiting value in the last interval of its phase. -/
theorem reports_iff_not_late (waiter : Waiter) (arrivals : Nat → List UrcLine) (before : Wait) :
    waiter.Reports arrivals before ↔
      ¬ (waiter.started arrivals before).Late arrivals waiter.phases := by
  rcases run_code_polled waiter arrivals before with ⟨value, device, elapsed⟩
  have phases : waiter.phases ≠ [] := by
    cases waiter <;> exact List.cons_ne_nil _ _
  rw [← Wait.pollPhases_iff phases]
  dsimp only [Waiter.Reports]
  rw [value, device, elapsed]
  constructor
  · exact And.left
  · intro reports
    refine ⟨reports, ?_⟩
    rintro topic rfl
    constructor
    · intro granted
      have success : ((Waiter.sub topic).polled arrivals before).1 = true :=
        reports.mpr (decide_eq_false granted)
      rw [run_code_eq]
      dsimp only
      rw [if_pos success, Wait.mark_topics]
    · exact polled_sub_of_refused

/-- A SUBACK that grants the subscription, in the last interval. -/
def lastMoment : Nat → List UrcLine
  | 50 => [{ urc := .mqttSuback, body := ascii "1,0,topic", noNul := by decide }]
  | _ => []

/-- It is granted and not reported. -/
theorem lastMoment_not_reported : ¬ (Waiter.sub (some 0)).Reports lastMoment {} := by
  have failed : ((Waiter.sub (some 0)).code.run (Wait.handle lastMoment) {}).1 = false := by
    decide +kernel
  have granted : ((Waiter.sub (some 0)).code.run (Wait.handle lastMoment)
      ({} : Wait)).2.device.subackStatus = 0 := by
    decide +kernel
  rintro ⟨reports, _⟩
  rw [failed] at reports
  apply Bool.false_ne_true
  rw [reports]
  change decide (((Waiter.sub (some 0)).code.run (Wait.handle lastMoment)
      ({} : Wait)).2.device.subackStatus = 0x80) = false
  rw [granted]
  rfl

end BerPiNbiot.Modem
