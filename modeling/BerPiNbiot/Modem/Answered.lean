import BerPiNbiot.Modem.Callers
import BerPiNbiot.Modem.Requests

/-!
# Answers to the request at hand

The acknowledgement of a request that has timed out sets the same flag as the
acknowledgement of the next one.  A function therefore takes it for its own when
it arrives behind the reset of the flag.  `qsdk_mqtt_open` does not even reset
its flag, a `+MQTTPINGRESP:` sets it as well, `qsdk_mqtt_config` sets the flag of
a SUBACK by clearing the record, and the searches of the handler find an
acknowledgement inside the body of any other line.

Where requests are kept apart from all of these, every return of `RT_EOK` is
covered by the acknowledgements of that very call.
-/

namespace BerPiNbiot.Modem

open BerPiNbiot.Resumption
open BerPiNbiot.Text
open BerPiNbiot.Transition

/-! ## Requests that are kept apart -/

/-- The function relies on a flag that it awaits. -/
def Requester.Waits (requester : Requester) (kind : Urc) : Prop :=
  requester.view.waits = true ∧ kind ∈ requester.function.awaits

instance (requester : Requester) (kind : Urc) : Decidable (requester.Waits kind) :=
  inferInstanceAs (Decidable (_ ∧ _))

/-- Some function relies on the flag. -/
def Requests.Awaited (state : Requests) (kind : Urc) : Prop :=
  ∃ thread ∈ threads, ∃ requester ∈ state.requesters thread, requester.Waits kind

instance (state : Requests) (kind : Urc) : Decidable (state.Awaited kind) :=
  inferInstanceAs (Decidable (∃ thread ∈ threads, ∃ requester ∈ state.requesters thread, _))

theorem awaited_of_waits {state : Requests} {thread : Thread} {requester : Requester} {kind : Urc}
    (place : state.requesters thread = some requester) (waits : requester.Waits kind) :
    state.Awaited kind :=
  ⟨thread, mem_threads thread, requester, place, waits⟩

/-- A request may rely on the flag: the connection is closed, or nobody else waits
for such an acknowledgement and none is still to come. -/
def Requests.Vacant (state : Requests) (kind : Urc) : Prop :=
  if kind = .mqttOpen then state.mqttDevice.connectStatus = 0
  else state.outstanding kind = [] ∧ ¬ state.Awaited kind

instance (state : Requests) (kind : Urc) : Decidable (state.Vacant kind) :=
  inferInstanceAs (Decidable (if kind = .mqttOpen then _ else _))

/-- The line is an acknowledgement of the kind. -/
def UrcLine.Acknowledges (line : UrcLine) (kind : Urc) : Prop :=
  line.urc = kind ∧ (kind = .mqttOpen → Found line.text openOk)

instance (line : UrcLine) (kind : Urc) : Decidable (line.Acknowledges kind) :=
  inferInstanceAs (Decidable (_ ∧ _))

/-- The line contains a text that sets an awaited flag only where it is such an
acknowledgement. -/
def Requests.Clean (state : Requests) (line : UrcLine) : Prop :=
  ∀ kind ∈ nbUrcTable, state.Awaited kind → Sets line.text kind → line.Acknowledges kind

instance (state : Requests) (line : UrcLine) : Decidable (state.Clean line) :=
  inferInstanceAs (Decidable (∀ kind ∈ nbUrcTable, _))

/-- The call writes to `mqtt_device`. -/
def Call.assigns : Call → Bool
  | .writeMqtt _ => true
  | _ => false

/-- The next call of a function begins a request only on vacant flags, and does
not clear the record while a SUBACK is awaited. -/
def Requester.Apart (requester : Requester) (state : Requests) : Prop :=
  match requester.rest with
  | .ret _ => True
  | .call request _ =>
      (requester.function.begins request = true →
        ∀ kind ∈ requester.function.awaits, state.Vacant kind) ∧
      (requester.function = .mqttConfig → request.assigns = true → ¬ state.Awaited .mqttSuback)

instance (requester : Requester) (state : Requests) : Decidable (requester.Apart state) :=
  match requester with
  | ⟨_, _, .ret _, _, _⟩ => isTrue trivial
  | ⟨function, _, .call request _, _, _⟩ =>
      inferInstanceAs (Decidable
        ((function.begins request = true → ∀ kind ∈ function.awaits, state.Vacant kind) ∧
          (function = .mqttConfig → Call.assigns request = true →
            ¬ state.Awaited .mqttSuback)))

/-- The move keeps the requests apart. -/
def Apart (state : Requests) : RequestsMove → Prop
  | .turn thread _ => ∀ requester ∈ state.requesters thread, requester.Apart state
  | .acknowledge line | .urc line => state.Clean line
  | .start _ _ | .lose _ => True

instance (state : Requests) : DecidablePred (Apart state)
  | .turn thread _ =>
      inferInstanceAs (Decidable (∀ requester ∈ state.requesters thread, requester.Apart state))
  | .acknowledge line => inferInstanceAs (Decidable (state.Clean line))
  | .urc line => inferInstanceAs (Decidable (state.Clean line))
  | .start _ _ => isTrue trivial
  | .lose _ => isTrue trivial

theorem apart_turn {state : Requests} {thread : Thread}
    {outcome : (request : Call) → request.Answer} (apart : Apart state (.turn thread outcome))
    {requester : Requester} (place : state.requesters thread = some requester) {request : Call}
    {resume : request.Answer → Code Bool} (rest : requester.rest = .call request resume) :
    (requester.function.begins request = true →
      ∀ kind ∈ requester.function.awaits, state.Vacant kind) ∧
    (requester.function = .mqttConfig → request.assigns = true →
      ¬ state.Awaited .mqttSuback) := by
  have here := apart requester place
  rw [Requester.Apart, rest] at here
  exact here

/-! ## The invariant -/

/-- What holds of a function in progress: the flags it relies on and those it
has seen stand for acknowledgements handled for it, and no acknowledgement that
may still come and that it would take for its own is another's. -/
structure Requester.Sound (requester : Requester) (device : MqttDevice)
    (outstanding : Urc → List Nat) : Prop where
  behaves : requester.function.Behaves requester.view requester.rest
  current : ∀ kind, requester.Waits kind → device.flagged kind = true →
    kind ∈ requester.acknowledged
  seen : ∀ kind ∈ requester.view.seen, kind ∈ requester.acknowledged
  own : ∀ kind, requester.Waits kind → kind ≠ .mqttOpen →
    ∀ number ∈ outstanding kind, number = requester.number

/-- What holds along runs that keep the requests apart. -/
structure Requests.Sound (state : Requests) : Prop where
  requesters : ∀ thread requester, state.requesters thread = some requester →
    requester.Sound state.mqttDevice state.outstanding
  alone : ∀ kind, kind ≠ .mqttOpen → ∀ first one, state.requesters first = some one →
    one.Waits kind → ∀ second other, state.requesters second = some other →
    other.Waits kind → first = second
  results : ∀ result ∈ state.results, result.complete = true

/-- Functions await acknowledgements only. -/
theorem acknowledges_of_awaits {function : MqttCall} {kind : Urc}
    (member : kind ∈ function.awaits) : kind.acknowledges = true := by
  cases function with
  | mqttPubStream mesg qos =>
      have published := mem_of_awaits_pubStream member
      cases kind <;> first | rfl | contradiction
  | _ => cases kind <;> first | rfl | contradiction

/-- A function is not affected by what sets no flag that it relies on and leaves
no acknowledgement of another to come. -/
theorem Requester.Sound.mono {requester : Requester} {device after : MqttDevice}
    {outstanding later : Urc → List Nat} (sound : requester.Sound device outstanding)
    (lowers : ∀ kind, requester.Waits kind → after.flagged kind = true →
      device.flagged kind = true)
    (shrinks : ∀ kind, requester.Waits kind → kind ≠ .mqttOpen →
      ∀ number ∈ later kind, number ∈ outstanding kind) :
    requester.Sound after later where
  behaves := sound.behaves
  current kind waits flagged := sound.current kind waits (lowers kind waits flagged)
  seen := sound.seen
  own kind waits other number member :=
    sound.own kind waits other number (shrinks kind waits other number member)

/-- A function that has returned `RT_EOK` has been acknowledged. -/
theorem Requester.Sound.complete {requester : Requester} {device : MqttDevice}
    {outstanding : Urc → List Nat} (sound : requester.Sound device outstanding)
    {result : MqttResult} (returned : requester.result = some result) :
    result.complete = true := by
  have behaves := sound.behaves
  unfold Requester.result at returned
  split at returned
  · rename_i rest
    rw [rest] at behaves
    cases returned
    apply List.all_eq_true.mpr
    intro kind member
    apply List.elem_iff.mpr
    exact sound.seen kind (behaves rfl kind member)
  · contradiction

/-! ## Calls of the functions -/

/-- Everything that a turn can do. -/
theorem Requests.turn_cases {state target : Requests} {thread : Thread}
    {outcome : (request : Call) → request.Answer}
    (moved : state.turn thread outcome = some target) :
    ∃ (requester : Requester) (request : Call) (resume : request.Answer → Code Bool),
      state.requesters thread = some requester ∧ requester.rest = .call request resume ∧
      target = state.proceed thread requester request (state.reply request (outcome request))
        (resume (state.reply request (outcome request))) := by
  unfold Requests.turn at moved
  split at moved
  · contradiction
  · rename_i requester place
    split at moved
    · contradiction
    · rename_i request resume rest
      cases moved
      exact ⟨requester, request, resume, place, rest, rfl⟩

/-- An assignment leaves no flag set that the function awaits. -/
theorem flagged_respond {state : Requests} {requester : Requester} {request : Call}
    (allows : requester.function.Allows requester.view request) {kind : Urc}
    (flagged : (state.respond requester request).mqttDevice.flagged kind = true) :
    state.mqttDevice.flagged kind = true ∧
        (kind ∈ requester.function.awaits → request.assigns = false) ∨
      requester.function = .mqttConfig ∧ request.assigns = true ∧ kind = .mqttSuback := by
  cases request with
  | writeMqtt update =>
      rcases allows state.mqttDevice kind flagged with ⟨before, foreign⟩ | ⟨config, suback⟩
      · exact Or.inl ⟨before, fun member => absurd member foreign⟩
      · exact Or.inr ⟨config, rfl, suback⟩
  | _ => exact Or.inl ⟨flagged, fun _ => rfl⟩

/-- A command makes the acknowledgements of its request outstanding. -/
theorem mem_outstanding_respond {state : Requests} {requester : Requester} {request : Call}
    (allows : requester.function.Allows requester.view request) {kind : Urc} {number : Nat}
    (notOpen : kind ≠ .mqttOpen)
    (member : number ∈ (state.respond requester request).outstanding kind) :
    number ∈ state.outstanding kind ∨ requester.Waits kind ∧ number = requester.number := by
  cases request with
  | execCmd cmd =>
      simp only [Requests.respond] at member
      split at member
      · rename_i awaited
        rcases List.mem_append.mp member with before | now
        · exact Or.inl before
        · right
          refine ⟨⟨?_, awaited⟩, List.mem_singleton.mp now⟩
          rcases allows with opens | nothing | waits
          · rw [opens] at awaited
            exact absurd (List.mem_singleton.mp awaited) notOpen
          · rw [nothing] at awaited
            contradiction
          · exact waits
      · exact Or.inl member
  | _ => exact Or.inl member

/-- A request that begins finds its flags vacant or clears them. -/
theorem waits_answered {requester : Requester} {request : Call} {answer : request.Answer}
    {rest : Code Bool} {kind : Urc} (waits : (requester.answered request answer rest).Waits kind) :
    requester.Waits kind ∨ requester.function.begins request = true := by
  rcases waits with ⟨waits, awaited⟩
  change (requester.view.next requester.function request answer).waits = true at waits
  rw [waits_next, Bool.or_eq_true] at waits
  exact waits.imp_left fun before => ⟨before, awaited⟩

/-- A function that begins a request other than by an assignment opens the
connection. -/
theorem eq_mqttOpen_of_begins {function : MqttCall} {request : Call}
    (begins : function.begins request = true) (plain : request.assigns = false) :
    function = .mqttOpen := by
  cases function <;> cases request <;> first | rfl | contradiction

/-- A notice changes nothing but the acknowledgements. -/
theorem notice_frame (requester : Requester) (line : UrcLine) (number : Nat) :
    (requester.notice line number).function = requester.function ∧
      (requester.notice line number).view = requester.view ∧
      (requester.notice line number).rest = requester.rest ∧
      (requester.notice line number).number = requester.number := by
  unfold Requester.notice
  split <;> exact ⟨rfl, rfl, rfl, rfl⟩

theorem waits_notice {requester : Requester} {line : UrcLine} {number : Nat} {kind : Urc} :
    (requester.notice line number).Waits kind ↔ requester.Waits kind := by
  rcases notice_frame requester line number with ⟨function, view, _, _⟩
  rw [Requester.Waits, Requester.Waits, function, view]

theorem mem_acknowledged_notice {requester : Requester} {line : UrcLine} {number : Nat}
    {kind : Urc} : kind ∈ (requester.notice line number).acknowledged ↔
      kind ∈ requester.acknowledged ∨ requester.hears line number = true ∧ kind = line.urc := by
  unfold Requester.notice
  split
  · rename_i hears
    simp [hears]
  · rename_i deaf
    simp [deaf]

/-- An acknowledgement is heard by a function that waits for it, if it answers
its request. -/
theorem hears_of_acknowledges {requester : Requester} {line : UrcLine} {number : Nat} {kind : Urc}
    (waits : requester.Waits kind) (acknowledges : line.Acknowledges kind)
    (answers : kind ≠ .mqttOpen → number = requester.number) :
    requester.hears line number = true := by
  rcases acknowledges with ⟨rfl, ok⟩
  unfold Requester.hears
  split
  · rename_i opens
    rw [waits.1, decide_eq_true (ok opens)]
    rfl
  · rename_i other
    exact decide_eq_true (answers other).symm

/-- Dropping the oldest acknowledgement leaves some of those that were there. -/
theorem mem_of_dropped {outstanding : Urc → List Nat} {kind other : Urc} {number left : Nat}
    {later : List Nat} (oldest : outstanding kind = number :: later)
    (member : left ∈ Function.update outstanding kind later other) : left ∈ outstanding other := by
  by_cases here : other = kind
  · subst here
    rw [Function.update_self] at member
    rw [oldest]
    exact List.mem_cons_of_mem number member
  · rw [Function.update_of_ne here] at member
    exact member

theorem remaining_eq {requester next : Requester} (remains : requester.remaining = some next) :
    next = requester := by
  unfold Requester.remaining at remains
  split at remains
  · contradiction
  · exact (Option.some.inj remains).symm

/-- Waiting alone behind an update of one thread. -/
theorem alone_update {requesters : Thread → Option Requester} {thread : Thread}
    {next : Option Requester} {kind : Urc}
    (before : ∀ first one, requesters first = some one → one.Waits kind →
      ∀ second other, requesters second = some other → other.Waits kind → first = second)
    (here : ∀ one, next = some one → one.Waits kind →
      ∀ second other, requesters second = some other → other.Waits kind → thread = second) :
    ∀ first one, Function.update requesters thread next first = some one → one.Waits kind →
      ∀ second other, Function.update requesters thread next second = some other →
        other.Waits kind → first = second := by
  intro first one foundOne waitsOne second other foundOther waitsOther
  by_cases isFirst : first = thread
  · by_cases isSecond : second = thread
    · rw [isFirst, isSecond]
    · subst isFirst
      rw [Function.update_self] at foundOne
      rw [Function.update_of_ne isSecond] at foundOther
      exact here one foundOne waitsOne second other foundOther waitsOther
  · rw [Function.update_of_ne isFirst] at foundOne
    by_cases isSecond : second = thread
    · subst isSecond
      rw [Function.update_self] at foundOther
      exact (here other foundOther waitsOther first one foundOne waitsOne).symm
    · rw [Function.update_of_ne isSecond] at foundOther
      exact before first one foundOne waitsOne second other foundOther waitsOther

namespace Requests.Sound

variable {state target : Requests}

/-- The function itself behind its call. -/
theorem answered (sound : state.Sound) {thread : Thread} {requester : Requester}
    (place : state.requesters thread = some requester) {request : Call}
    {resume : request.Answer → Code Bool} (rest : requester.rest = .call request resume)
    (vacant : requester.function.begins request = true →
      ∀ kind ∈ requester.function.awaits, state.Vacant kind) (outcome : request.Answer) :
    (requester.answered request (state.reply request outcome)
      (resume (state.reply request outcome))).Sound
      (state.respond requester request).mqttDevice
      (state.respond requester request).outstanding := by
  have before := sound.requesters thread requester place
  have behaves := before.behaves
  rw [rest] at behaves
  rcases behaves with ⟨allows, later⟩
  refine ⟨later _ _ rfl, ?_, ?_, ?_⟩
  · intro kind waits flagged
    have awaited : kind ∈ requester.function.awaits := waits.2
    rcases flagged_respond allows flagged with ⟨held, plain⟩ | ⟨config, _, _⟩
    · rcases waits_answered waits with already | begins
      · exact before.current kind already held
      · have opens := eq_mqttOpen_of_begins begins (plain awaited)
        have closed := vacant begins kind awaited
        rw [opens] at awaited
        rw [List.mem_singleton.mp awaited] at closed held
        rw [Requests.Vacant, if_pos rfl] at closed
        simp [MqttDevice.flagged, closed] at held
    · rw [config] at awaited
      contradiction
  · intro kind member
    rcases seen_next member with earlier | ⟨rfl, awaited, held⟩
    · exact before.seen kind earlier
    · rcases allows with nothing | waits
      · rw [nothing] at awaited
        contradiction
      · exact before.current kind ⟨waits, awaited⟩ held
  · intro kind waits notOpen number member
    have awaited : kind ∈ requester.function.awaits := waits.2
    rcases mem_outstanding_respond allows notOpen member with earlier | ⟨_, same⟩
    · rcases waits_answered waits with already | begins
      · exact before.own kind already notOpen number earlier
      · have none := vacant begins kind awaited
        rw [Requests.Vacant, if_neg notOpen] at none
        rw [none.1] at earlier
        contradiction
    · exact same

/-- The functions of the other threads behind the call. -/
theorem others (sound : state.Sound) {thread other : Thread} {requester bystander : Requester}
    (place : state.requesters thread = some requester)
    (elsewhere : state.requesters other = some bystander) (differs : other ≠ thread)
    {request : Call} {resume : request.Answer → Code Bool}
    (rest : requester.rest = .call request resume)
    (config : requester.function = .mqttConfig → request.assigns = true →
      ¬ state.Awaited .mqttSuback) :
    bystander.Sound (state.respond requester request).mqttDevice
      (state.respond requester request).outstanding := by
  have behaves := (sound.requesters thread requester place).behaves
  rw [rest] at behaves
  apply (sound.requesters other bystander elsewhere).mono
  · intro kind waits flagged
    rcases flagged_respond behaves.1 flagged with ⟨held, _⟩ | ⟨configures, assigns, rfl⟩
    · exact held
    · exact absurd (awaited_of_waits elsewhere waits) (config configures assigns)
  · intro kind waits notOpen number member
    rcases mem_outstanding_respond behaves.1 notOpen member with earlier | ⟨asks, _⟩
    · exact earlier
    · have same := sound.alone kind notOpen other bystander elsewhere waits thread requester place
        asks
      exact absurd same differs

/-- A function whose request has begun waits alone. -/
theorem alone_answered (sound : state.Sound) {thread other : Thread}
    {requester bystander : Requester} (place : state.requesters thread = some requester)
    (elsewhere : state.requesters other = some bystander) {request : Call}
    (vacant : requester.function.begins request = true →
      ∀ kind ∈ requester.function.awaits, state.Vacant kind)
    {answer : request.Answer} {rest : Code Bool} {kind : Urc} (notOpen : kind ≠ .mqttOpen)
    (waits : (requester.answered request answer rest).Waits kind)
    (others : bystander.Waits kind) : thread = other := by
  rcases waits_answered waits with already | begins
  · exact sound.alone kind notOpen thread requester place already other bystander elsewhere others
  · have nobody := vacant begins kind waits.2
    rw [Requests.Vacant, if_neg notOpen] at nobody
    exact absurd (awaited_of_waits elsewhere others) nobody.2

theorem turn (sound : state.Sound) {thread : Thread}
    {outcome : (request : Call) → request.Answer} (apart : Apart state (.turn thread outcome))
    (moved : state.turn thread outcome = some target) : target.Sound := by
  rcases Requests.turn_cases moved with ⟨requester, request, resume, place, rest, rfl⟩
  rcases apart_turn apart place rest with ⟨vacant, config⟩
  have own := sound.answered place rest vacant (outcome request)
  constructor
  · intro other bystander found
    by_cases same : other = thread
    · subst same
      simp only [Requests.proceed, Function.update_self] at found
      rw [remaining_eq found]
      exact own
    · simp only [Requests.proceed, Function.update_of_ne same] at found
      exact sound.others place found same rest config
  · intro kind notOpen
    apply alone_update (sound.alone kind notOpen)
    intro later remains waits second other found
    rw [remaining_eq remains] at waits
    exact sound.alone_answered place found vacant notOpen waits
  · intro result member
    rcases List.mem_append.mp member with earlier | now
    · exact sound.results result earlier
    · exact own.complete (Option.mem_toList.mp now)

/-! ## Notifications -/

/-- The function behind an acknowledgement that is handled. -/
theorem noticed (sound : state.Sound) {thread : Thread} {requester : Requester}
    (place : state.requesters thread = some requester) {line : UrcLine} (clean : state.Clean line)
    {number : Nat} {later : List Nat} (oldest : state.outstanding line.urc = number :: later) :
    (requester.notice line number).Sound (mqttDeviceAfter line.text state.mqttDevice)
      (Function.update state.outstanding line.urc later) := by
  have before := sound.requesters thread requester place
  rcases notice_frame requester line number with ⟨function, view, rest, same⟩
  refine ⟨?_, ?_, ?_, ?_⟩
  · rw [function, view, rest]
    exact before.behaves
  · intro kind waits flagged
    rw [waits_notice] at waits
    rw [mem_acknowledged_notice]
    rcases flagged_mqttDeviceAfter flagged with held | sets
    · exact Or.inl (before.current kind waits held)
    · have acknowledges := clean kind (mem_nbUrcTable kind) (awaited_of_waits place waits) sets
      right
      refine ⟨hears_of_acknowledges waits acknowledges fun notOpen => ?_, acknowledges.1.symm⟩
      apply before.own kind waits notOpen
      rw [← acknowledges.1, oldest]
      exact List.mem_cons_self
  · intro kind member
    rw [view] at member
    rw [mem_acknowledged_notice]
    exact Or.inl (before.seen kind member)
  · intro kind waits notOpen other member
    rw [waits_notice] at waits
    rw [same]
    apply before.own kind waits notOpen
    exact mem_of_dropped oldest member

theorem acknowledge (sound : state.Sound) {line : UrcLine} (clean : state.Clean line)
    {number : Nat} {later : List Nat} (oldest : state.outstanding line.urc = number :: later) :
    (state.acknowledge line number later).Sound := by
  constructor
  · intro thread requester found
    rcases Option.map_eq_some_iff.mp found with ⟨before, place, rfl⟩
    exact sound.noticed place clean oldest
  · intro kind notOpen first one foundOne waitsOne second other foundOther waitsOther
    rcases Option.map_eq_some_iff.mp foundOne with ⟨beforeOne, placeOne, rfl⟩
    rcases Option.map_eq_some_iff.mp foundOther with ⟨beforeOther, placeOther, rfl⟩
    rw [waits_notice] at waitsOne waitsOther
    exact sound.alone kind notOpen first beforeOne placeOne waitsOne second beforeOther placeOther
      waitsOther
  · exact sound.results

/-- A line that is no acknowledgement sets no awaited flag. -/
theorem handle (sound : state.Sound) {line : UrcLine} (clean : state.Clean line)
    (other : line.urc.acknowledges = false) : (state.handle line).Sound := by
  refine ⟨fun thread requester place => ?_, sound.alone, sound.results⟩
  apply (sound.requesters thread requester place).mono
  · intro kind waits flagged
    rcases flagged_mqttDeviceAfter flagged with held | sets
    · exact held
    · have acknowledges := clean kind (mem_nbUrcTable kind) (awaited_of_waits place waits) sets
      rw [acknowledges.1, acknowledges_of_awaits waits.2] at other
      contradiction
  · exact fun _ _ _ _ member => member

theorem lose (sound : state.Sound) {kind : Urc} {number : Nat} {later : List Nat}
    (oldest : state.outstanding kind = number :: later) :
    Requests.Sound
      { state with outstanding := Function.update state.outstanding kind later } := by
  refine ⟨fun thread requester place => ?_, sound.alone, sound.results⟩
  apply (sound.requesters thread requester place).mono
  · exact fun _ _ flagged => flagged
  · intro other _ _ left member
    exact mem_of_dropped oldest member

/-! ## Runs -/

theorem start (sound : state.Sound) (thread : Thread) (function : MqttCall) (number : Nat) :
    Requests.Sound { state with
      requesters := Function.update state.requesters thread
        (some { function, number := state.number, rest := function.code })
      number } := by
  have idle (kind : Urc) : ¬ Requester.Waits
      { function, number := state.number, rest := function.code } kind := by
    rintro ⟨waits, _⟩
    contradiction
  constructor
  · intro other requester found
    dsimp only at found
    by_cases same : other = thread
    · subst same
      rw [Function.update_self] at found
      cases found
      exact ⟨behaves_code function, fun kind waits => absurd waits (idle kind),
        fun _ member => absurd member List.not_mem_nil,
        fun kind waits => absurd waits (idle kind)⟩
    · rw [Function.update_of_ne same] at found
      exact sound.requesters other requester found
  · intro kind notOpen
    apply alone_update (sound.alone kind notOpen)
    rintro _ started waits
    cases started
    exact absurd waits (idle kind)
  · exact sound.results

theorem step (sound : state.Sound) {move : RequestsMove} (apart : Apart state move)
    (moved : requestsStep state move = some target) : target.Sound := by
  cases move with
  | start thread function =>
      simp only [requestsStep] at moved
      split at moved
      · contradiction
      · cases moved
        exact sound.start thread function _
  | turn thread outcome => exact sound.turn apart moved
  | acknowledge line =>
      simp only [requestsStep] at moved
      split at moved
      · contradiction
      · rename_i number later oldest
        cases moved
        exact sound.acknowledge apart oldest
  | lose kind =>
      simp only [requestsStep] at moved
      split at moved
      · contradiction
      · rename_i number later oldest
        cases moved
        exact sound.lose oldest
  | urc line =>
      rw [requestsStep, Option.ite_none_left_eq_some] at moved
      rcases moved with ⟨other, equal⟩
      cases equal
      exact sound.handle apart (Bool.not_eq_true _ ▸ other)

end Requests.Sound

theorem sound_empty : Requests.Sound {} := by
  constructor
  · intro thread requester found
    contradiction
  · intro kind _ first one found
    contradiction
  · intro result member
    contradiction

/-- In every interleaving of requests, timeouts and notifications that keeps the
requests apart, each function that has returned `RT_EOK` was acknowledged: an
open by a `+MQTTOPEN:OK` behind its command, the others by what the broker sent
for that very call. -/
theorem successes_acknowledged (run : List RequestsMove) (final : Requests)
    (apart : Guarded requestsStep Apart {} run)
    (executed : exec requestsStep {} run = some final) :
    ∀ result ∈ final.results, result.complete = true := by
  have sound : final.Sound :=
    exec_invariant (fun _ _ _ holds allowed moved => holds.step allowed moved) sound_empty
      apart executed
  exact sound.results

theorem packetId_noNul : 0 ∉ ascii "1" := by
  decide

/-- The acknowledgement of a publication. -/
def pubackLine : UrcLine where
  urc := .mqttPuback
  body := ascii "1"
  noNul := packetId_noNul

/-- A publication of the uploader up to its command, and the next turns of the
uploader. -/
def publishing (turns : Nat) : List RequestsMove :=
  .start .dataUp (.mqttPubStream (ascii "payload") 1) ::
    List.replicate (3 + turns) (.turn .dataUp (workingModule none))

/-- A publication that is acknowledged before the first look at its flag. -/
def acknowledgedPublish : List RequestsMove :=
  publishing 0 ++ .acknowledge pubackLine ::
    List.replicate 2 (.turn .dataUp (workingModule none))

theorem acknowledgedPublish_results :
    (exec requestsStep {} acknowledgedPublish).map Requests.results =
      some [⟨.mqttPubStream (ascii "payload") 1, true⟩] := by
  decide +kernel

theorem acknowledgedPublish_acknowledged :
    ∃ final, exec requestsStep {} acknowledgedPublish = some final ∧ final.results ≠ [] ∧
      ∀ result ∈ final.results, result.complete = true := by
  rcases Option.map_eq_some_iff.mp acknowledgedPublish_results with ⟨final, executed, results⟩
  refine ⟨final, executed, ?_, ?_⟩
  · rw [results]
    exact List.cons_ne_nil _ _
  · exact successes_acknowledged acknowledgedPublish final (by decide +kernel) executed

/-- A publication that times out, and a second one.  The acknowledgement of the
first arrives when the second has sent its command. -/
def latePublish : List RequestsMove :=
  publishing 99 ++ acknowledgedPublish

theorem latePublish_results :
    (exec requestsStep {} latePublish).map Requests.results =
      some [⟨.mqttPubStream (ascii "payload") 1, false⟩] := by
  decide +kernel

theorem latePublish_taken_for_own :
    ¬ ∀ run final, exec requestsStep {} run = some final →
      ∀ result ∈ final.results, result.complete = true := by
  intro always
  rcases Option.map_eq_some_iff.mp latePublish_results with ⟨final, executed, results⟩
  have complete := always latePublish final executed ⟨.mqttPubStream (ascii "payload") 1, false⟩
  rw [results] at complete
  exact Bool.false_ne_true (complete List.mem_cons_self)

end BerPiNbiot.Modem
