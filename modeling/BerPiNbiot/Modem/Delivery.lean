import BerPiNbiot.Kernel.Mailbox
import BerPiNbiot.Modem.Parser
import BerPiNbiot.Transition.Core

/-!
# Delivery of notifications

`nb_event_func` posts a pointer to the parser's line buffer, and the parser
begins the next line at once, in the same buffer.  `qsdk_thread_entry` reads the
buffer when it gets to the mail.  A mail that is still queued, or still being
handled, when the parser goes on shows whatever line is in the buffer by then.

The system interleaves the bytes of the modem, the AT commands that install
their response object, and the dispatcher, which may stay inside a handler for
any time.
-/

namespace BerPiNbiot.Modem.Delivery

open BerPiNbiot.Kernel
open BerPiNbiot.Text
open BerPiNbiot.Transition

/-- The words of `nb_mail`. -/
inductive Pointer
  | recvLineBuf
  deriving DecidableEq, Repr

/-- Where `qsdk_thread_entry` stands: in `rt_mb_recv`, behind it, or inside the
handler that it chose for a text. -/
inductive Dispatcher
  | waiting
  | received
  | handling (text : Bytes)
  deriving DecidableEq, Repr

/-- Parser, mailbox and dispatcher, with the texts accepted by `nb_event_func`
and the texts dispatched. -/
structure State where
  client : AtClient := {}
  nbMail : Mailbox Pointer 10 := rtMbCreate Pointer 10
  dispatcher : Dispatcher := .waiting
  accepted : List Bytes := []
  dispatched : List Bytes := []
  deriving DecidableEq

/-- The moves of the system. -/
inductive Move
  /-- `at_recv_readline` zeroes the line buffer -/
  | beginLine
  /-- a byte arrives -/
  | byte (ch : UInt8)
  /-- a command installs or removes its response object -/
  | setResp (resp : Option AtResponse)
  /-- `rt_mb_recv(nb_mail, &event, RT_WAITING_FOREVER)` -/
  | receive
  /-- the text behind `event` is searched for its kind -/
  | dispatch
  /-- the handler returns -/
  | finish
  deriving DecidableEq, Repr

/-- `nb_event_func` -/
def nbEventFunc (state : State) : State :=
  match rtMbSend .recvLineBuf state.nbMail with
  | (true, nbMail) =>
      { state with nbMail := nbMail, accepted := state.accepted ++ [state.client.text] }
  | (false, nbMail) => { state with nbMail := nbMail }

/-- The moves of parser, commands and dispatcher. -/
def step : Step State Move
  | state, .beginLine =>
      if state.client.reading then none
      else some { state with client := state.client.beginLine }
  | state, .byte ch =>
      if state.client.reading then
        match state.client.receiveByte ch with
        | (client, some (.notification _)) => some (nbEventFunc { state with client := client })
        | (client, _) => some { state with client := client }
      else
        none
  | state, .setResp resp => some { state with client := { state.client with resp := resp } }
  | state, .receive =>
      match state.dispatcher, rtMbRecv state.nbMail with
      | .waiting, some (_, nbMail) => some { state with nbMail := nbMail, dispatcher := .received }
      | _, _ => none
  | state, .dispatch =>
      match state.dispatcher with
      | .received =>
          some { state with
            dispatcher := .handling state.client.text
            dispatched := state.dispatched ++ [state.client.text] }
      | _ => none
  | state, .finish =>
      match state.dispatcher with
      | .handling _ => some { state with dispatcher := .waiting }
      | _ => none

/-- The mails that are accepted and not dispatched yet. -/
def State.outstanding (state : State) : Nat :=
  state.nbMail.words.length + if state.dispatcher = .received then 1 else 0

/-- The dispatched texts are the accepted ones in order, up to the outstanding
mails, and a handler still finds its text in the buffer. -/
structure Faithful (state : State) : Prop where
  inOrder : ∃ rest, state.accepted = state.dispatched ++ rest ∧ rest.length = state.outstanding
  intact : ∀ text, state.dispatcher = .handling text → state.client.text = text

/-- The parser begins a line only while no mail is queued or in work. -/
def Unused (state : State) : Move → Prop
  | .beginLine => state.nbMail.words = [] ∧ state.dispatcher = .waiting
  | _ => True

instance (state : State) : DecidablePred (Unused state)
  | .beginLine => inferInstanceAs (Decidable (_ ∧ _))
  | .byte _ | .setResp _ | .receive | .dispatch | .finish => isTrue trivial

/-! ## The invariant -/

/-- What the dispatcher's position says about the buffer and the texts. -/
def Position (state : State) : Dispatcher → Prop
  | .waiting =>
      state.nbMail.words = [] ∧ state.accepted = state.dispatched ∨
        state.nbMail.words = [.recvLineBuf] ∧ state.client.reading = false ∧
          state.accepted = state.dispatched ++ [state.client.text]
  | .received =>
      state.nbMail.words = [] ∧ state.client.reading = false ∧
        state.accepted = state.dispatched ++ [state.client.text]
  | .handling text =>
      state.nbMail.words = [] ∧ state.client.reading = false ∧
        state.accepted = state.dispatched ∧ state.client.text = text

/-- At most one mail is on its way, and the buffer shows its text. -/
def OneMail (state : State) : Prop :=
  Position state state.dispatcher

/-- While the parser reads, everything accepted has been dispatched. -/
theorem OneMail.of_reading {state : State} (one : OneMail state)
    (reading : state.client.reading = true) :
    state.dispatcher = .waiting ∧ state.nbMail.words = [] ∧
      state.accepted = state.dispatched := by
  unfold OneMail at one
  cases place : state.dispatcher with
  | waiting =>
      rw [place] at one
      rcases one with ⟨empty, same⟩ | ⟨_, stopped, _⟩
      · exact ⟨rfl, empty, same⟩
      · rw [reading] at stopped
        contradiction
  | received =>
      rw [place] at one
      have stopped := one.2.1
      rw [reading] at stopped
      contradiction
  | handling text =>
      rw [place] at one
      have stopped := one.2.1
      rw [reading] at stopped
      contradiction

theorem oneMail_initial : OneMail {} :=
  Or.inl ⟨rfl, rfl⟩

/-- A parser state for which everything accepted has been dispatched. -/
theorem oneMail_of_dispatched {state : State} (waiting : state.dispatcher = .waiting)
    (empty : state.nbMail.words = []) (same : state.accepted = state.dispatched) :
    OneMail state := by
  rw [OneMail, waiting]
  exact Or.inl ⟨empty, same⟩

/-- A notification is posted behind the dispatched ones. -/
theorem oneMail_nbEventFunc {state : State} (waiting : state.dispatcher = .waiting)
    (empty : state.nbMail.words = []) (same : state.accepted = state.dispatched)
    (stopped : state.client.reading = false) : OneMail (nbEventFunc state) := by
  have room : state.nbMail.words.length < 10 := by
    rw [empty]
    decide
  have words : (rtMbSend .recvLineBuf state.nbMail).2.words = [.recvLineBuf] := by
    rw [rtMbSend_of_room _ room, empty]
    rfl
  have sent : rtMbSend .recvLineBuf state.nbMail =
      (true, (rtMbSend .recvLineBuf state.nbMail).2) := by
    rw [rtMbSend, dif_pos room]
  rw [nbEventFunc, sent, OneMail]
  simp only [waiting]
  exact Or.inr ⟨words, stopped, by rw [same]⟩

theorem oneMail_byte {state target : State} {ch : UInt8} (one : OneMail state)
    (moved : step state (.byte ch) = some target) : OneMail target := by
  simp only [step] at moved
  split at moved
  · rename_i reading
    rcases one.of_reading reading with ⟨waiting, empty, same⟩
    split at moved
    · rename_i client urc received
      cases moved
      exact oneMail_nbEventFunc waiting empty same (receiveByte_notification received)
    · cases moved
      exact oneMail_of_dispatched waiting empty same
  · contradiction

theorem oneMail_receive {state target : State} (one : OneMail state)
    (moved : step state .receive = some target) : OneMail target := by
  simp only [step] at moved
  split at moved
  · rename_i word nbMail waiting received
    cases moved
    rw [OneMail, waiting] at one
    have words := rtMbRecv_eq_some received
    rcases one with ⟨empty, _⟩ | ⟨single, stopped, behind⟩
    · rw [empty] at words
      contradiction
    · rw [single] at words
      exact ⟨(List.cons.inj words).2.symm, stopped, behind⟩
  · contradiction

theorem oneMail_dispatch {state target : State} (one : OneMail state)
    (moved : step state .dispatch = some target) : OneMail target := by
  simp only [step] at moved
  split at moved
  · rename_i received
    cases moved
    rw [OneMail, received] at one
    exact ⟨one.1, one.2.1, one.2.2, rfl⟩
  · contradiction

theorem oneMail_finish {state target : State} (one : OneMail state)
    (moved : step state .finish = some target) : OneMail target := by
  simp only [step] at moved
  split at moved
  · rename_i text handling
    cases moved
    rw [OneMail, handling] at one
    exact Or.inl ⟨one.1, one.2.2.1⟩
  · contradiction

/-- Every move that begins lines only in an unused buffer keeps the invariant. -/
theorem oneMail_step {state target : State} {move : Move} (one : OneMail state)
    (unused : Unused state move) (moved : step state move = some target) : OneMail target := by
  cases move with
  | beginLine =>
      have same : state.accepted = state.dispatched := by
        rw [OneMail, unused.2] at one
        rcases one with ⟨_, same⟩ | ⟨single, _⟩
        · exact same
        · rw [unused.1] at single
          contradiction
      simp only [step] at moved
      split at moved
      · contradiction
      · cases moved
        exact oneMail_of_dispatched unused.2 unused.1 same
  | byte ch => exact oneMail_byte one moved
  | setResp resp =>
      cases moved
      exact one
  | receive => exact oneMail_receive one moved
  | dispatch => exact oneMail_dispatch one moved
  | finish => exact oneMail_finish one moved

theorem OneMail.faithful {state : State} (one : OneMail state) : Faithful state := by
  rw [OneMail] at one
  cases place : state.dispatcher with
  | waiting =>
      rw [place] at one
      constructor
      · rcases one with ⟨empty, same⟩ | ⟨single, _, behind⟩
        · exact ⟨[], by simp [same], by simp [State.outstanding, place, empty]⟩
        · exact ⟨_, behind, by simp [State.outstanding, place, single]⟩
      · simp [place]
  | received =>
      rw [place] at one
      constructor
      · exact ⟨_, one.2.2, by simp [State.outstanding, place, one.1]⟩
      · simp [place]
  | handling text =>
      rw [place] at one
      constructor
      · exact ⟨[], by simp [one.2.2.1], by simp [State.outstanding, place, one.1]⟩
      · intro other equal
        rw [place] at equal
        cases equal
        exact one.2.2.2

/-- In every interleaving of bytes, commands and dispatcher in which the parser
begins a line only while no mail is queued or in work, the dispatched texts are
the accepted ones. -/
theorem faithful_of_unused (run : List Move) (state : State)
    (unused : Guarded step Unused {} run) (executed : exec step {} run = some state) :
    Faithful state := by
  have one : OneMail state :=
    exec_invariant (fun _ _ _ one unused moved => oneMail_step one unused moved) oneMail_initial
      unused executed
  exact one.faithful

/-- The arrival of a line. -/
def arrival (text : Bytes) : List Move :=
  .beginLine :: text.map .byte

/-- The handling of a mail. -/
def handling : List Move :=
  [.receive, .dispatch, .finish]

/-- Two notifications, each handled before the next begins. -/
def calmRun : List Move :=
  arrival (ascii "+NPING:1\r") ++ handling ++ (arrival (ascii "+NPING:2\r") ++ handling)

theorem calmRun_faithful :
    ∃ state, exec step {} calmRun = some state ∧
      state.dispatched = [ascii "+NPING:1\r", ascii "+NPING:2\r"] ∧ Faithful state := by
  refine ⟨_, rfl, rfl, faithful_of_unused calmRun _ ?_ rfl⟩
  decide +kernel

/-- Two notifications arrive while the handler of a first one is blocked. -/
def blockedRun : List Move :=
  arrival (ascii "+NPING:1\r") ++ [.receive, .dispatch] ++
    (arrival (ascii "+NPING:2\r") ++ arrival (ascii "+NPING:3\r")) ++
    (.finish :: (handling ++ handling))

/-- The last notification is dispatched twice and the one before it never. -/
theorem blockedRun_dispatches_twice :
    ∃ state, exec step {} blockedRun = some state ∧
      state.accepted = [ascii "+NPING:1\r", ascii "+NPING:2\r", ascii "+NPING:3\r"] ∧
      state.dispatched = [ascii "+NPING:1\r", ascii "+NPING:3\r", ascii "+NPING:3\r"] ∧
      ¬ Faithful state := by
  have reached : ∃ state, exec step {} blockedRun = some state ∧
      state.accepted = [ascii "+NPING:1\r", ascii "+NPING:2\r", ascii "+NPING:3\r"] ∧
      state.dispatched = [ascii "+NPING:1\r", ascii "+NPING:3\r", ascii "+NPING:3\r"] :=
    ⟨_, rfl, rfl, rfl⟩
  rcases reached with ⟨state, executed, accepted, dispatched⟩
  refine ⟨state, executed, accepted, dispatched, fun faithful => ?_⟩
  rcases faithful.inOrder with ⟨rest, behind, _⟩
  rw [accepted, dispatched] at behind
  have second : some (ascii "+NPING:2\r") = some (ascii "+NPING:3\r") :=
    congrArg (fun texts : List Bytes => texts[1]?) behind
  exact absurd second (by decide)

end BerPiNbiot.Modem.Delivery
