import BerPiNbiot.Modem.Flags
import BerPiNbiot.Modem.Mqtt
import BerPiNbiot.Resumption.Typestate
import BerPiNbiot.Transition.Core

/-!
# Requests to the broker

Threads that call the functions of `nb_mqtt.c`, interleaved call by call with
the notifications of the module.  A request is outstanding from the moment at
which its AT command is written, whatever the command returns.  Each
acknowledgement of a request is emitted at most once, or lost; acknowledgements
of one kind are emitted in the order of the requests, with any delay.

The code keeps no packet identifiers.  The system numbers the calls and keeps
for each of them the acknowledgements that were handled for it, so that a return
value can be compared with what has really happened.
-/

namespace BerPiNbiot.Modem

open BerPiNbiot.Resumption
open BerPiNbiot.Text
open BerPiNbiot.Transition

/-! ## The functions -/

/-- The functions that write to `mqtt_device` or wait for a change of it. -/
inductive MqttCall
  | mqttConfig
  | mqttOpen
  | mqttSub (topic : Option Nat)
  | mqttUnsub (topic : Option Nat)
  | mqttPubStream (mesg : Bytes) (qos : Int)
  | mqttClose
  deriving DecidableEq, Repr

/-- The function behind a call. -/
def MqttCall.code : MqttCall → Code Bool
  | .mqttConfig => qsdkMqttConfig
  | .mqttOpen => qsdkMqttOpen
  | .mqttSub topic => qsdkMqttSub topic
  | .mqttUnsub topic => qsdkMqttUnsub topic
  | .mqttPubStream mesg qos => qsdkMqttPubStream mesg qos
  | .mqttClose => qsdkMqttClose

/-- The acknowledgements that the request of a function asks for. -/
def MqttCall.awaits : MqttCall → List Urc
  | .mqttOpen => [.mqttOpen]
  | .mqttSub _ => [.mqttSuback]
  | .mqttUnsub _ => [.mqttUnsuback]
  | .mqttPubStream _ qos =>
      if qos = 1 then [.mqttPuback] else if qos = 2 then [.mqttPubrec, .mqttPubcomp] else []
  | .mqttConfig | .mqttClose => []

/-- The call from which on a function relies on its flags.  It clears them there,
but for `qsdk_mqtt_open`, which clears none. -/
def MqttCall.begins : MqttCall → Call → Bool
  | .mqttOpen, .execCmd _ => true
  | .mqttSub _, .writeMqtt _ | .mqttUnsub _, .writeMqtt _ | .mqttPubStream .., .writeMqtt _ => true
  | _, _ => false

/-- What is remembered of the calls that a function has made. -/
structure AckView where
  /-- it relies on its flags -/
  waits : Bool := false
  /-- the awaited flags that it has read as set -/
  seen : List Urc := []
  deriving DecidableEq, Repr

/-- What a function has seen behind one more call. -/
def AckView.next (view : AckView) (function : MqttCall) (request : Call)
    (answer : request.Answer) : AckView :=
  let view := { view with waits := view.waits || function.begins request }
  match request, answer with
  | .readMqtt, device => { view with seen := view.seen ++ function.awaits.filter device.flagged }
  | _, _ => view

/-! ## The system -/

/-- A function in progress. -/
structure Requester where
  function : MqttCall
  /-- the number of the call -/
  number : Nat
  rest : Code Bool
  view : AckView := {}
  /-- the acknowledgements that were handled for it -/
  acknowledged : List Urc := []

/-- Everything that the request asked for was handled. -/
def Requester.complete (requester : Requester) : Bool :=
  requester.function.awaits.all (requester.acknowledged.contains ·)

/-- A function that has returned `RT_EOK`. -/
structure MqttResult where
  function : MqttCall
  complete : Bool
  deriving DecidableEq, Repr

/-- `mqtt_device`, the threads and the broker. -/
structure Requests where
  mqttDevice : MqttDevice := {}
  requesters : Thread → Option Requester := fun _ => none
  /-- the calls whose acknowledgement may still come, the oldest first -/
  outstanding : Urc → List Nat := fun _ => []
  /-- the number of the next call -/
  number : Nat := 0
  results : List MqttResult := []

/-- A read sees `mqtt_device` as it is; the other answers are free. -/
def Requests.reply (state : Requests) : (request : Call) → request.Answer → request.Answer
  | .readMqtt, _ => state.mqttDevice
  | _, answer => answer

/-- What a call does to the shared state. -/
def Requests.respond (state : Requests) (requester : Requester) : Call → Requests
  | .writeMqtt update => { state with mqttDevice := update state.mqttDevice }
  | .execCmd _ =>
      { state with outstanding := fun kind =>
          if kind ∈ requester.function.awaits then state.outstanding kind ++ [requester.number]
          else state.outstanding kind }
  | _ => state

/-- The function behind an answered call. -/
def Requester.answered (requester : Requester) (request : Call) (answer : request.Answer)
    (rest : Code Bool) : Requester :=
  { requester with rest, view := requester.view.next requester.function request answer }

/-- The function while it has not returned. -/
def Requester.remaining (requester : Requester) : Option Requester :=
  match requester.rest with
  | .ret _ => none
  | .call .. => some requester

/-- The result of a function that has come to its end. -/
def Requester.result (requester : Requester) : Option MqttResult :=
  match requester.rest with
  | .ret true => some ⟨requester.function, requester.complete⟩
  | _ => none

/-- The system when a function's call has been answered. -/
def Requests.proceed (state : Requests) (thread : Thread) (requester : Requester)
    (request : Call) (answer : request.Answer) (rest : Code Bool) : Requests :=
  let later := requester.answered request answer rest
  { state.respond requester request with
    requesters := Function.update state.requesters thread later.remaining
    results := state.results ++ later.result.toList }

/-- A function's next call is answered. -/
def Requests.turn (state : Requests) (thread : Thread)
    (outcome : (request : Call) → request.Answer) : Option Requests :=
  match state.requesters thread with
  | none => none
  | some requester =>
      match requester.rest with
      | .ret _ => none
      | .call request resume =>
          let answer := state.reply request (outcome request)
          some (state.proceed thread requester request answer (resume answer))

/-- A line is an acknowledgement for a call: a `+MQTTOPEN:OK` for every open
call that has sent its command, any other one for the call it answers. -/
def Requester.hears (requester : Requester) (line : UrcLine) (number : Nat) : Bool :=
  match line.urc with
  | .mqttOpen => requester.view.waits && decide (Found line.text openOk)
  | _ => requester.number = number

/-- A function in progress hears an acknowledgement. -/
def Requester.notice (line : UrcLine) (number : Nat) (requester : Requester) : Requester :=
  if requester.hears line number then
    { requester with acknowledged := requester.acknowledged ++ [line.urc] }
  else requester

/-- The handler is given a line. -/
def Requests.handle (state : Requests) (line : UrcLine) : Requests :=
  { state with mqttDevice := mqttDeviceAfter line.text state.mqttDevice }

/-- The acknowledgement of a call is handled. -/
def Requests.acknowledge (state : Requests) (line : UrcLine) (number : Nat)
    (later : List Nat) : Requests :=
  { state.handle line with
    requesters := fun thread => (state.requesters thread).map (Requester.notice line number)
    outstanding := Function.update state.outstanding line.urc later }

/-- The moves of the system. -/
inductive RequestsMove
  | start (thread : Thread) (function : MqttCall)
  | turn (thread : Thread) (outcome : (request : Call) → request.Answer)
  /-- the oldest outstanding acknowledgement of the line's kind -/
  | acknowledge (line : UrcLine)
  /-- the oldest outstanding acknowledgement of a kind will not come -/
  | lose (kind : Urc)
  /-- a line that is no acknowledgement -/
  | urc (line : UrcLine)

/-- One move of the threads or of the parser. -/
def requestsStep : Step Requests RequestsMove
  | state, .start thread function =>
      match state.requesters thread with
      | some _ => none
      | none =>
          some { state with
            requesters := Function.update state.requesters thread
              (some { function, number := state.number, rest := function.code })
            number := state.number + 1 }
  | state, .turn thread outcome => state.turn thread outcome
  | state, .acknowledge line =>
      match state.outstanding line.urc with
      | [] => none
      | number :: later => some (state.acknowledge line number later)
  | state, .lose kind =>
      match state.outstanding kind with
      | [] => none
      | _ :: later =>
          some { state with outstanding := Function.update state.outstanding kind later }
  | state, .urc line => if line.urc.acknowledges then none else some (state.handle line)

/-! ## What the functions do -/

/-- The calls of a function.  An assignment clears the flags that the function
awaits and sets none, but for the one of `qsdk_mqtt_config`, whose zero is not
the value that stands for a missing SUBACK. -/
def MqttCall.Allows (function : MqttCall) (view : AckView) : Call → Prop
  | .writeMqtt update => ∀ device kind, (update device).flagged kind = true →
      device.flagged kind = true ∧ kind ∉ function.awaits ∨
        function = .mqttConfig ∧ kind = .mqttSuback
  | .execCmd _ => function = .mqttOpen ∨ function.awaits = [] ∨ view.waits = true
  | .readMqtt => function.awaits = [] ∨ view.waits = true
  | _ => True

/-- The view is a function of the call and its answer. -/
def MqttCall.Moves (function : MqttCall) (view : AckView) (request : Call)
    (answer : request.Answer) (after : AckView) : Prop :=
  after = view.next function request answer

/-- A function returns `RT_EOK` when it has seen all that it awaits. -/
def MqttCall.Returns (function : MqttCall) (value : Bool) (view : AckView) : Prop :=
  value = true → ∀ kind ∈ function.awaits, kind ∈ view.seen

/-- From a view on, the rest of a function behaves. -/
abbrev MqttCall.Behaves (function : MqttCall) (view : AckView) (rest : Code Bool) : Prop :=
  rest.Along function.Allows function.Moves function.Returns view

theorem waits_next (view : AckView) (function : MqttCall) (request : Call)
    (answer : request.Answer) :
    (view.next function request answer).waits = (view.waits || function.begins request) := by
  cases request <;> rfl

theorem waits_next_of_waits {view : AckView} (waits : view.waits = true) (function : MqttCall)
    (request : Call) (answer : request.Answer) :
    (view.next function request answer).waits = true := by
  rw [waits_next, waits, Bool.true_or]

/-- Only a read adds to what a function has seen. -/
theorem seen_next {state : Requests} {view : AckView} {function : MqttCall} {request : Call}
    {outcome : request.Answer} {kind : Urc}
    (seen : kind ∈ (view.next function request (state.reply request outcome)).seen) :
    kind ∈ view.seen ∨
      request = .readMqtt ∧ kind ∈ function.awaits ∧ state.mqttDevice.flagged kind = true := by
  cases request with
  | readMqtt =>
      rcases List.mem_append.mp seen with before | now
      · exact Or.inl before
      · exact Or.inr ⟨rfl, List.mem_filter.mp now⟩
  | _ => exact Or.inl seen

/-- What a loop that waits for a flag leaves behind. -/
structure AckView.Polled (before : AckView) (kind : Urc) (count : Nat) (after : AckView) :
    Prop where
  waits : after.waits = true
  seen : ∀ other ∈ before.seen, other ∈ after.seen
  found : count ≠ 0 → kind ∈ after.seen

/-- A loop that ends with a positive counter has read the flag as set. -/
theorem along_pollAck {function : MqttCall} {kind : Urc} (awaited : kind ∈ function.awaits)
    {waiting : MqttDevice → Bool}
    (ends : ∀ device, waiting device = false → device.flagged kind = true) (ticks count : Nat)
    {view : AckView} (waits : view.waits = true) :
    (pollAck ticks waiting count).Along function.Allows function.Moves (view.Polled kind) view := by
  induction count generalizing view with
  | zero => exact ⟨waits, fun _ => id, fun positive => absurd rfl positive⟩
  | succ count ih =>
      refine ⟨trivial, ?_⟩
      rintro _ _ rfl
      have delayed := waits_next_of_waits waits function (.threadDelay ticks) ()
      by_cases last : count = 0
      · rw [last]
        exact ⟨delayed, fun _ => id, fun positive => absurd rfl positive⟩
      · rw [if_neg last]
        refine ⟨Or.inr delayed, ?_⟩
        rintro device _ rfl
        have read := waits_next_of_waits delayed function .readMqtt device
        have kept : ∀ other ∈ view.seen,
            other ∈ ((view.next function (.threadDelay ticks) ()).next function .readMqtt
              device).seen := fun other member => List.mem_append_left _ member
        change Program.Along _ _ _ _
          (if waiting device = true then pollAck ticks waiting count else .ret count)
        cases flag : waiting device with
        | true =>
            refine (ih read).mono fun left after polled => ?_
            exact ⟨polled.waits, fun other member => polled.seen other (kept other member),
              polled.found⟩
        | false =>
            refine ⟨read, kept, fun _ => ?_⟩
            apply List.mem_append_right
            exact List.mem_filter.mpr ⟨awaited, ends device flag⟩

/-- A wait for a flag: the function fails when the counter is zero, and otherwise
goes on having seen the flag. -/
theorem behaves_poll {function : MqttCall} (kind : Urc) (awaited : kind ∈ function.awaits)
    {waiting : MqttDevice → Bool}
    (ends : ∀ device, waiting device = false → device.flagged kind = true) {ticks count : Nat}
    {view : AckView} (waits : view.waits = true) {next : Nat → Code Bool}
    (fails : next 0 = .ret false)
    (goesOn : ∀ left after, left ≠ 0 → view.Polled kind left after →
      function.Behaves after (next left)) :
    function.Behaves view (pollAck ticks waiting count >>= next) := by
  rw [MqttCall.Behaves, Program.along_bind]
  refine (along_pollAck awaited ends ticks count waits).mono fun left after polled => ?_
  by_cases last : left = 0
  · rw [last, fails]
    exact fun success => absurd success Bool.false_ne_true
  · exact goesOn left after last polled

theorem returns_false (function : MqttCall) (view : AckView) : function.Returns false view :=
  fun success => absurd success Bool.false_ne_true

/-- A function that awaits one flag may return when it has seen it. -/
theorem returns_of_seen {function : MqttCall} {kind : Urc} (single : function.awaits = [kind])
    {view : AckView} (seen : kind ∈ view.seen) (value : Bool) : function.Returns value view := by
  intro _ other member
  rw [single, List.mem_singleton] at member
  rw [member]
  exact seen

theorem returns_of_nothing {function : MqttCall} (nothing : function.awaits = []) (value : Bool)
    (view : AckView) : function.Returns value view := by
  intro _ kind member
  rw [nothing] at member
  contradiction

theorem behaves_config : MqttCall.Behaves .mqttConfig {} qsdkMqttConfig := by
  constructor
  · intro device kind flagged
    cases kind with
    | mqttSuback => exact Or.inr ⟨rfl, rfl⟩
    | _ => contradiction
  · rintro _ _ rfl
    refine ⟨Or.inr (Or.inl rfl), ?_⟩
    rintro configured _ rfl
    exact returns_of_nothing rfl configured _

theorem behaves_open : MqttCall.Behaves .mqttOpen {} qsdkMqttOpen := by
  refine ⟨Or.inl rfl, ?_⟩
  rintro sent _ rfl
  cases sent with
  | false => exact returns_false _ _
  | true =>
      apply behaves_poll .mqttOpen (List.mem_singleton_self _) ?_ rfl rfl
      · intro left after positive polled
        exact returns_of_seen rfl (polled.found positive) _
      · intro device ended
        simpa [MqttDevice.flagged] using ended

/-- The shape of `qsdk_mqtt_sub` and `qsdk_mqtt_unsub`. -/
theorem behaves_topic {function : MqttCall} {kind : Urc} (single : function.awaits = [kind])
    {update : MqttDevice → MqttDevice} (begins : function.begins (.writeMqtt update) = true)
    (clears : ∀ device other, (update device).flagged other = true →
      device.flagged other = true ∧ other ≠ kind)
    {waiting : MqttDevice → Bool}
    (ends : ∀ device, waiting device = false → device.flagged kind = true)
    (topic : Option Nat) (cmd : MqttStream → Bytes) (status : Int) :
    function.Behaves {} (do
      writeMqtt update
      let stream ← topicRead topic
      if !(← atObjExecCmd (cmd stream)) then
        return false
      let count ← pollAck 50 waiting 50
      if count = 0 then
        return false
      topicWrite topic status
      return true) := by
  constructor
  · intro device other flagged
    left
    rw [single, List.mem_singleton]
    exact clears device other flagged
  · rintro _ _ rfl
    have waits : (AckView.next {} function (.writeMqtt update) ()).waits = true := by
      rw [waits_next, begins]
      rfl
    refine ⟨trivial, ?_⟩
    rintro stream _ rfl
    have read := waits_next_of_waits waits function (.topicRead topic) stream
    refine ⟨Or.inr (Or.inr read), ?_⟩
    rintro sent _ rfl
    cases sent with
    | false => exact returns_false _ _
    | true =>
        apply behaves_poll kind (single ▸ List.mem_singleton_self kind) ends
        · exact waits_next_of_waits read function (.execCmd (cmd stream)) true
        · rfl
        · intro left after positive polled
          rw [if_neg positive]
          refine ⟨trivial, ?_⟩
          rintro _ _ rfl
          exact returns_of_seen single (polled.found positive) _

theorem behaves_sub (topic : Option Nat) :
    MqttCall.Behaves (.mqttSub topic) {} (qsdkMqttSub topic) := by
  refine @behaves_topic _ .mqttSuback rfl _ rfl ?_ _ ?_ topic _ 1
  · intro device other flagged
    refine ⟨?_, fun own => ?_⟩
    · cases other <;> first | exact flagged | contradiction
    · subst own
      contradiction
  · intro device ended
    simpa [MqttDevice.flagged] using ended

theorem behaves_unsub (topic : Option Nat) :
    MqttCall.Behaves (.mqttUnsub topic) {} (qsdkMqttUnsub topic) := by
  refine @behaves_topic _ .mqttUnsuback rfl _ rfl ?_ _ ?_ topic _ 0
  · intro device other flagged
    refine ⟨?_, fun own => ?_⟩
    · cases other <;> first | exact flagged | contradiction
    · subst own
      contradiction
  · intro device ended
    simpa [MqttDevice.flagged] using ended

/-- The acknowledgement phases of a publication. -/
theorem behaves_pubAck (mesg : Bytes) (qos : Int) {view : AckView} (waits : view.waits = true) :
    MqttCall.Behaves (.mqttPubStream mesg qos) view (pubAck qos) := by
  unfold pubAck
  split
  · rename_i one
    have single : (MqttCall.mqttPubStream mesg qos).awaits = [.mqttPuback] := if_pos one
    apply behaves_poll .mqttPuback (single ▸ List.mem_singleton_self _) ?_ waits rfl
    · intro left after positive polled
      exact returns_of_seen single (polled.found positive) _
    · intro device ended
      simpa [MqttDevice.flagged] using ended
  · split
    · rename_i notOne two
      have both : (MqttCall.mqttPubStream mesg qos).awaits = [.mqttPubrec, .mqttPubcomp] := by
        rw [MqttCall.awaits, if_neg notOne, if_pos two]
      apply behaves_poll .mqttPubrec (by simp [both]) ?_ waits rfl
      · intro left after positive received
        rw [if_neg positive]
        apply behaves_poll .mqttPubcomp (by simp [both]) ?_ received.waits rfl
        · intro later final another completed _ kind member
          rw [both, List.mem_cons, List.mem_singleton] at member
          rcases member with rfl | rfl
          · exact completed.seen _ (received.found positive)
          · exact completed.found another
        · intro device ended
          simpa [MqttDevice.flagged] using ended
      · intro device ended
        simpa [MqttDevice.flagged] using ended
    · rename_i notOne notTwo
      have nothing : (MqttCall.mqttPubStream mesg qos).awaits = [] := by
        rw [MqttCall.awaits, if_neg notOne, if_neg notTwo]
      exact returns_of_nothing nothing true view

theorem mem_of_awaits_pubStream {mesg : Bytes} {qos : Int} {kind : Urc}
    (member : kind ∈ (MqttCall.mqttPubStream mesg qos).awaits) :
    kind ∈ [Urc.mqttPuback, .mqttPubrec, .mqttPubcomp] := by
  rw [MqttCall.awaits] at member
  split at member
  · exact List.mem_cons.mpr (Or.inl (List.mem_singleton.mp member))
  · split at member
    · exact List.mem_cons_of_mem _ member
    · contradiction

theorem behaves_pubStream (mesg : Bytes) (qos : Int) :
    MqttCall.Behaves (.mqttPubStream mesg qos) {} (qsdkMqttPubStream mesg qos) := by
  refine ⟨trivial, ?_⟩
  rintro allocated _ rfl
  cases allocated with
  | false => exact returns_false _ _
  | true =>
      change Program.Along _ _ _ _ (if mesg = [] then .ret false else _)
      split
      · exact returns_false _ _
      · constructor
        · intro device kind flagged
          left
          cases kind with
          | mqttPuback | mqttPubrec | mqttPubcomp => contradiction
          | _ =>
              refine ⟨flagged, fun member => ?_⟩
              have published := mem_of_awaits_pubStream member
              contradiction
        · rintro _ _ rfl
          refine ⟨Or.inr (Or.inr rfl), ?_⟩
          rintro sent _ rfl
          cases sent with
          | false => exact returns_false _ _
          | true => exact behaves_pubAck mesg qos rfl

/-- A function that awaits nothing behaves as long as it makes no assignment. -/
theorem behaves_of_nothing {function : MqttCall} (nothing : function.awaits = [])
    {program : Code Bool} (view : AckView)
    (keeps : program.Always (fun _ _ => True)
      (fun request => ∃ update, request = Call.writeMqtt update) fun _ => True) :
    function.Behaves view program := by
  induction program generalizing view with
  | ret value => exact returns_of_nothing nothing value view
  | call request resume ih =>
      rcases keeps with ⟨fine, later⟩
      constructor
      · cases request with
        | writeMqtt update => exact absurd ⟨update, rfl⟩ fine
        | execCmd cmd => exact Or.inr (Or.inl nothing)
        | readMqtt => exact Or.inl nothing
        | _ => trivial
      · intro answer after _
        exact ih answer after (later answer trivial)

theorem behaves_close : MqttCall.Behaves .mqttClose {} qsdkMqttClose := by
  apply behaves_of_nothing rfl
  simp [qsdkMqttClose, atObjExecCmd, always_pollAck]

/-- Every function behaves from its start on. -/
theorem behaves_code (function : MqttCall) : function.Behaves {} function.code := by
  cases function with
  | mqttConfig => exact behaves_config
  | mqttOpen => exact behaves_open
  | mqttSub topic => exact behaves_sub topic
  | mqttUnsub topic => exact behaves_unsub topic
  | mqttPubStream mesg qos => exact behaves_pubStream mesg qos
  | mqttClose => exact behaves_close

end BerPiNbiot.Modem
