import BerPiNbiot.App.Outline
import BerPiNbiot.Modem.Dispatch
import BerPiNbiot.Resumption.Observer

/-!
# Connected and subscribed

A pass through `mqtt_recon` opens the MQTT connection and subscribes to the
control topic, but goes on to the wait loop when one of the two fails; and the
branch of `EVENT_SEND_ERROR` opens the connection again without subscribing.

The history keeps `mqtt_device` and the milestones of the connection.  It also
records whether the thread has a subscription in front of it before it waits
again, which is the case behind every jump back.
-/

namespace BerPiNbiot.App

open BerPiNbiot.Kernel
open BerPiNbiot.Modem
open BerPiNbiot.Resumption
open BerPiNbiot.Text
open BerPiNbiot.Transition

/-! ## Milestones -/

/-- Milestones of the MQTT connection. -/
inductive Milestone
  /-- `AT+MQTTOPEN` is sent -/
  | opens
  /-- a `+MQTTOPEN:OK` has been handled -/
  | connected
  /-- `qsdk_mqtt_sub` has returned `RT_EOK` -/
  | subscribed
  deriving DecidableEq, Repr

/-- An `AT+MQTTOPEN` has established the connection; `after` is what came behind
it. -/
def Established (after : List Milestone) : Prop :=
  .connected ∈ after.takeWhile (· ≠ .opens)

/-- The subscription has succeeded since the connection was established.  It is
required of every `AT+MQTTOPEN` that established it, which is to say of the last
one. -/
def Subscribed (log : List Milestone) : Prop :=
  ∀ before after, log = before ++ .opens :: after → Established after → .subscribed ∈ after

/-- The subscription has succeeded since the last `AT+MQTTOPEN`. -/
def UpToDate (log : List Milestone) : Prop :=
  .subscribed ∈ log.reverse.takeWhile (· ≠ .opens)

instance : DecidablePred UpToDate := fun log =>
  inferInstanceAs (Decidable (.subscribed ∈ log.reverse.takeWhile (· ≠ .opens)))

theorem mem_of_mem_takeWhile {milestone : Milestone} {first second : List Milestone}
    (member : milestone ∈ (first ++ .opens :: second).takeWhile (· ≠ .opens)) :
    milestone ∈ first := by
  induction first with
  | nil => simp at member
  | cons head rest ih =>
      rw [List.cons_append, List.takeWhile_cons] at member
      split at member
      · rcases List.mem_cons.mp member with rfl | later
        · exact List.mem_cons_self
        · exact List.mem_cons_of_mem head (ih later)
      · exact absurd member List.not_mem_nil

namespace UpToDate

variable {log : List Milestone}

theorem subscribed (upToDate : UpToDate log) : Subscribed log := by
  rintro before after rfl _
  rw [UpToDate, List.reverse_append, List.reverse_cons, List.append_assoc,
    List.singleton_append] at upToDate
  exact List.mem_reverse.mp (mem_of_mem_takeWhile upToDate)

theorem connected (upToDate : UpToDate log) : UpToDate (log ++ [.connected]) := by
  rw [UpToDate, List.reverse_concat, List.takeWhile_cons_of_pos (by decide)]
  exact List.mem_cons_of_mem _ upToDate

end UpToDate

theorem upToDate_subscribed (log : List Milestone) : UpToDate (log ++ [.subscribed]) := by
  rw [UpToDate, List.reverse_concat, List.takeWhile_cons_of_pos (by decide)]
  exact List.mem_cons_self

theorem takeWhile_concat_opens (log : List Milestone) :
    (log ++ [Milestone.opens]).takeWhile (· ≠ .opens) = log.takeWhile (· ≠ .opens) := by
  induction log with
  | nil => rfl
  | cons head rest ih =>
      rw [List.cons_append, List.takeWhile_cons, List.takeWhile_cons, ih]

/-- A new `AT+MQTTOPEN` has not established anything yet. -/
theorem Subscribed.opens {log : List Milestone} (subscribed : Subscribed log) :
    Subscribed (log ++ [.opens]) := by
  intro before after split established
  rcases List.eq_nil_or_concat after with rfl | ⟨rest, last, rfl⟩
  · exact absurd established List.not_mem_nil
  · rw [List.concat_eq_append, ← List.cons_append, ← List.append_assoc] at split
    rcases List.append_inj' split rfl with ⟨shorter, same⟩
    cases same
    rw [List.concat_eq_append]
    apply List.mem_append_left
    apply subscribed before rest shorter
    rw [List.concat_eq_append, Established, takeWhile_concat_opens] at established
    exact established

/-! ## The history -/

/-- `mqtt_device` and the milestones so far. -/
structure Subscription where
  device : MqttDevice := {}
  log : List Milestone := []
  /-- the thread calls `qsdk_mqtt_sub` before it waits again -/
  due : Bool := true
  deriving DecidableEq, Repr

/-- What happens next to the network thread. -/
inductive NetNotice
  /-- `qsdk_thread_entry` handles a notification -/
  | urc (event : Bytes)
  /-- the uploader enters `qsdk_mqtt_pub_stream` -/
  | publish
  deriving DecidableEq, Repr

/-- The text goes to `mqtt_event_func`. -/
def Disposition.isMqtt : Disposition → Bool
  | .mqtt _ => true
  | _ => false

/-- The handler sees a `+MQTTOPEN:OK`. -/
def ReportsOpen (event : Bytes) : Prop :=
  Disposition.isMqtt (qsdkThreadEntry event {}).disposition = true ∧
    Found event (ascii "+MQTTOPEN:OK")

instance : DecidablePred ReportsOpen := fun event =>
  inferInstanceAs (Decidable (Disposition.isMqtt (qsdkThreadEntry event {}).disposition = true ∧
    Found event (ascii "+MQTTOPEN:OK")))

/-- A subscription is due behind a failure for which the wait loop jumps back,
until `qsdk_mqtt_sub` has returned. -/
def NetCall.dueAfter : (request : NetCall) → request.Answer → Bool → Bool
  | .sub _, _, _ => false
  | .waitConnect, ok, due | .quickConnect, ok, due | .open, ok, due
  | .getNetConnectStatus, ok, due => due || !ok
  | _, _, due => due

/-- The function is `qsdk_mqtt_sub` and returns `RT_EOK`. -/
def NetCall.subscribes : (request : NetCall) → request.Answer → Bool
  | .sub _, ok => ok
  | _, _ => false

/-- The function is `qsdk_mqtt_sub` and fails. -/
def NetCall.misses : (request : NetCall) → request.Answer → Bool
  | .sub _, ok => !ok
  | _, _ => false

/-- A new connection is due from the reconnecting labels on. -/
def Subscription.arrive (history : Subscription) : NetLabel → Subscription
  | .waitLoop _ => history
  | .netRecon _ | .mqttRecon _ => { history with due := true }

/-- A call begins. -/
def Subscription.enter (history : Subscription) (request : NetCall) : Subscription :=
  { history with
    device := request.writes history.device
    log := if request = .open then history.log ++ [.opens] else history.log }

/-- A call returns. -/
def Subscription.leave (history : Subscription) (request : NetCall) (answer : request.Answer) :
    Subscription :=
  { history with
    log := if request.subscribes answer then history.log ++ [.subscribed] else history.log
    due := request.dueAfter answer history.due }

/-- A notification is handled, or another thread publishes. -/
def Subscription.notice (history : Subscription) : NetNotice → Subscription
  | .urc event =>
      { history with
        device := mqttDeviceAfter event history.device
        log := if ReportsOpen event then history.log ++ [.connected] else history.log }
  | .publish =>
      { history with device :=
          { history.device with pubackStatus := 0, pubcompStatus := 0, pubrecStatus := 0 } }

/-- The observer of the subscription.  Any call may return any answer. -/
def subscriptionObserver : Observer netCalls NetLabel Subscription NetNotice where
  arrive := Subscription.arrive
  enter := Subscription.enter
  leave history request answer := some (history.leave request answer)
  notice history event := some (history.notice event)

/-- A move of the network thread, watched for its subscription. -/
def subscriptionStep : Step (Watched netCalls NetLabel Subscription) (Watch netCalls NetNotice) :=
  subscriptionObserver.step netOutline

/-- The start of `net_entry`. -/
def subscriptionStart : Watched netCalls NetLabel Subscription where
  phase := .outside (netOutline (.netRecon 0))
  history := {}

/-! ## When a subscription is due -/

/-- The thread waits only when no subscription is due. -/
abbrev FollowsDue : Phase netCalls NetLabel → Bool → Prop :=
  Follows (fun due request => request = .eventRecv → due = false) (fun due _ => due)
    (fun before request answer after => after = NetCall.dueAfter request answer before)
    (fun label due => ∀ count, label = .waitLoop count → due = false)

theorem followsDue_recon (count : Nat) (due : Bool) :
    FollowsDue (.outside (outlineRecon count)) due := by
  simp [Follows, outlineRecon, netCall]

theorem followsDue_mqtt (count : Nat) (due : Bool) :
    FollowsDue (.outside (outlineMqtt count)) due := by
  simp [Follows, outlineMqtt, netCall, NetCall.dueAfter]

theorem followsDue_wait (count : Nat) : FollowsDue (.outside (outlineWait count)) false := by
  simp only [Follows, outlineWait, netCall, Program.call_bind, Program.ret_bind,
    Program.along_call]
  constructor
  · exact fun _ => trivial
  · rintro received after rfl
    cases received with
    | none => exact fun _ _ => rfl
    | some set =>
        simp [outlineHandle, outlineSendError, outlineNbReboot, outlineFinish, netCall,
          NetCall.dueAfter]

/-- Every segment subscribes before it waits, or starts where it may wait. -/
theorem followsDue_netOutline {label : NetLabel} {due : Bool}
    (fits : ∀ count, label = .waitLoop count → due = false) :
    FollowsDue (.outside (netOutline label)) due := by
  cases label with
  | netRecon count => exact followsDue_recon count due
  | mqttRecon count => exact followsDue_mqtt count due
  | waitLoop count =>
      rw [fits count rfl]
      exact followsDue_wait count

/-! ## The invariant -/

/-- The thread waits in `rt_event_recv`. -/
def Waiting (state : Watched netCalls NetLabel Subscription) : Prop :=
  ∃ resume, state.phase = .inside .eventRecv resume

/-- A notification connects the device, or reports that it is connected. -/
def Connects (event : Bytes) (device : MqttDevice) : Prop :=
  ReportsOpen event ∨
    device.connectStatus ≠ 1 ∧ (mqttDeviceAfter event device).connectStatus = 1

instance (event : Bytes) (device : MqttDevice) : Decidable (Connects event device) :=
  inferInstanceAs (Decidable (ReportsOpen event ∨
    device.connectStatus ≠ 1 ∧ (mqttDeviceAfter event device).connectStatus = 1))

/-- `qsdk_mqtt_sub` fails only while the device is not connected; and when no
subscription is due, the device is connected only if the last `AT+MQTTOPEN` has
been followed by a subscription. -/
def Prompt (state : Watched netCalls NetLabel Subscription) : Watch netCalls NetNotice → Prop
  | .leave request answer =>
      NetCall.misses request answer = true → state.history.device.connectStatus ≠ 1
  | .notice (.urc event) =>
      state.history.due = false → Connects event state.history.device →
        UpToDate state.history.log
  | _ => True

instance (state : Watched netCalls NetLabel Subscription) : DecidablePred (Prompt state)
  | .leave request answer =>
      inferInstanceAs (Decidable
        (NetCall.misses request answer = true → state.history.device.connectStatus ≠ 1))
  | .notice (.urc event) =>
      inferInstanceAs (Decidable (state.history.due = false →
        Connects event state.history.device → UpToDate state.history.log))
  | .jump => isTrue trivial
  | .enter => isTrue trivial
  | .notice .publish => isTrue trivial

/-- When no subscription is due, a connected device is a subscribed one. -/
def Subscription.Settled (history : Subscription) : Prop :=
  history.due = false → history.device.connectStatus = 1 → Subscribed history.log

namespace Subscription.Settled

variable {history : Subscription}

theorem arrive (settled : history.Settled) (label : NetLabel) :
    (history.arrive label).Settled := by
  cases label with
  | waitLoop count => exact settled
  | netRecon count =>
      intro due
      contradiction
  | mqttRecon count =>
      intro due
      contradiction

/-- A function connects nothing when it is entered. -/
theorem enter (settled : history.Settled) (request : NetCall) :
    (history.enter request).Settled := by
  intro due connected
  have before : history.device.connectStatus = 1 := by
    cases request with
    | config =>
        have zero : (0 : Int) = 1 := connected
        contradiction
    | _ => exact connected
  have subscribed := settled due before
  simp only [Subscription.enter]
  split
  · exact subscribed.opens
  · exact subscribed

theorem leave (settled : history.Settled) {request : NetCall} {answer : request.Answer}
    (prompt : request.misses answer = true → history.device.connectStatus ≠ 1) :
    (history.leave request answer).Settled := by
  intro due connected
  simp only [Subscription.leave]
  split
  · exact (upToDate_subscribed history.log).subscribed
  · rename_i missed
    cases request with
    | sub topic =>
        cases answer with
        | true => exact absurd rfl missed
        | false => exact absurd connected (prompt rfl)
    | waitConnect | quickConnect | «open» | getNetConnectStatus =>
        exact settled (Bool.or_eq_false_iff.mp due).1 connected
    | _ => exact settled due connected

theorem notice (settled : history.Settled) (event : NetNotice)
    (prompt : ∀ text, event = .urc text → history.due = false →
      Connects text history.device → UpToDate history.log) :
    (history.notice event).Settled := by
  intro due connected
  cases event with
  | publish => exact settled due connected
  | urc text =>
      simp only [Subscription.notice]
      by_cases connects : Connects text history.device
      · have upToDate := prompt text rfl due connects
        split
        · exact upToDate.connected.subscribed
        · exact upToDate.subscribed
      · -- The device was connected before, and nothing reports it anew.
        rw [Connects, not_or, not_and] at connects
        rw [if_neg connects.1]
        apply settled due
        by_contra before
        exact connects.2 before connected

end Subscription.Settled

/-- The thread follows its outline, waits only when no subscription is due, and
the history is settled. -/
structure Prepared (state : Watched netCalls NetLabel Subscription) : Prop where
  follows : FollowsDue state.phase state.history.due
  waits : Waiting state → state.history.due = false
  settled : state.history.Settled

theorem not_waiting_outside {rest : NetCode NetLabel} {history : Subscription} :
    ¬ Waiting ⟨.outside rest, history⟩ := by
  rintro ⟨resume, same⟩
  contradiction

theorem prepared_start : Prepared subscriptionStart := by
  refine ⟨followsDue_netOutline ?_, ?_, ?_⟩
  · intro count same
    contradiction
  · intro waiting
    exact absurd waiting not_waiting_outside
  · intro due
    contradiction

theorem prepared_step {state target : Watched netCalls NetLabel Subscription}
    {move : Watch netCalls NetNotice} (prepared : Prepared state) (prompt : Prompt state move)
    (moved : subscriptionStep state move = some target) : Prepared target := by
  rcases state with ⟨phase, history⟩
  rcases prepared with ⟨follows, waits, settled⟩
  rcases Observer.step_cases moved with
    ⟨label, rfl, place, rfl⟩ | ⟨request, resume, rfl, place, rfl⟩
      | ⟨request, resume, answer, after, rfl, place, left, rfl⟩ | ⟨event, after, rfl, noticed, rfl⟩
  · dsimp only at place
    subst place
    refine ⟨followsDue_netOutline ?_, fun waiting => absurd waiting not_waiting_outside,
      settled.arrive label⟩
    rintro count rfl
    exact follows count rfl
  · dsimp only at place
    subst place
    rcases follows_enter follows with ⟨allowed, inside⟩
    refine ⟨inside, ?_, settled.enter request⟩
    rintro ⟨later, same⟩
    cases same
    exact allowed rfl
  · dsimp only at place
    subst place
    cases left
    exact ⟨follows_leave follows rfl, fun waiting => absurd waiting not_waiting_outside,
      settled.leave prompt⟩
  · cases noticed
    have same : (history.notice event).due = history.due := by
      cases event <;> rfl
    constructor
    · change FollowsDue phase (history.notice event).due
      rw [same]
      exact follows
    · intro waiting
      exact same.trans (waits waiting)
    · apply settled.notice event
      rintro text rfl
      exact prompt

/-- In every run of the network thread in which `qsdk_mqtt_sub` fails only while
the device is not connected, and in which the device gets connected outside the
passes through `mqtt_recon` only with a subscription behind the last
`AT+MQTTOPEN`, a device that is connected while the thread waits has been
subscribed since the connection was established. -/
theorem connected_is_subscribed (run : List (Watch netCalls NetNotice))
    (final : Watched netCalls NetLabel Subscription)
    (prompt : Guarded subscriptionStep Prompt subscriptionStart run)
    (executed : exec subscriptionStep subscriptionStart run = some final)
    (waiting : Waiting final) (connected : final.history.device.connectStatus = 1) :
    Subscribed final.history.log := by
  have prepared : Prepared final :=
    exec_invariant (fun _ _ _ holds allowed moved => prepared_step holds allowed moved)
      prepared_start prompt executed
  exact prepared.settled (prepared.waits waiting) connected

/-- A module and a broker that work, but for a link that is reported down. -/
def linkLost : (request : NetCall) → request.Answer
  | .delay _ | .startup | .resume | .suspend => ()
  | .topicInit => some 0
  | .eventRecv => some sendError
  | .getConnectStatus => 5
  | .quickConnect | .setPsmModeOff | .config | .openAckDis | .setAckTimeout | .open | .unsub _
  | .sub _ | .waitConnect | .reboot | .close | .getNetConnectStatus => true

/-- The next moves of the thread. -/
def goOn (moves : Nat) (run : List (Watch netCalls NetNotice)) : List (Watch netCalls NetNotice) :=
  match exec subscriptionStep subscriptionStart run with
  | none => run
  | some state => run ++ subscriptionObserver.drive netOutline (fun _ => linkLost) moves state

/-- The next moves of the thread, and then a notification. -/
def hear (moves : Nat) (event : String) (run : List (Watch netCalls NetNotice)) :
    List (Watch netCalls NetNotice) :=
  goOn moves run ++ [.notice (.urc (ascii event ++ [13]))]

/-- The first pass through `mqtt_recon`, with the answers of the broker. -/
def firstPass : List (Watch netCalls NetNotice) :=
  goOn 7 (hear 4 "+MQTTSUBACK:2,0,rb_sub" (hear 4 "+MQTTUNSUBACK:1" (hear 24 "+MQTTOPEN:OK" [])))

theorem firstPass_subscribed :
    ∃ final, exec subscriptionStep subscriptionStart firstPass = some final ∧ Waiting final ∧
      final.history.device.connectStatus = 1 ∧ Subscribed final.history.log := by
  refine ⟨_, rfl, ⟨_, rfl⟩, by decide +kernel, ?_⟩
  exact connected_is_subscribed firstPass _ (by decide +kernel) rfl ⟨_, rfl⟩ (by decide +kernel)

/-- The link is lost; behind `EVENT_SEND_ERROR` the connection is opened again. -/
def reopening : List (Watch netCalls NetNotice) :=
  goOn 5 (hear 10 "+MQTTOPEN:OK" (hear 0 "+MQTTTO:5" firstPass))

/-- The thread waits again, connected but not subscribed. -/
theorem reopening_not_subscribed :
    ¬ ∀ run final, exec subscriptionStep subscriptionStart run = some final → Waiting final →
      final.history.device.connectStatus = 1 → Subscribed final.history.log := by
  intro always
  have subscribed := always reopening _ rfl ⟨_, rfl⟩ (by decide +kernel)
  have missing := subscribed [.opens, .connected, .subscribed] [.connected] (by decide +kernel)
    (by simp [Established])
  exact absurd missing (by decide)

end BerPiNbiot.App
