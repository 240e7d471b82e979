import BerPiNbiot.Kernel.Mailbox
import BerPiNbiot.Text.Search
import BerPiNbiot.Transition.Core

/-!
# Telemetry uplink

`send_data_entry` formats a snapshot into `NB_SendDataBuff` and posts a pointer
to it; `data_up_entry` takes a pointer and publishes what it points to, again
and again until the publish succeeds.  There is one buffer, so a pointer that is
published late publishes whatever has been formatted since.  The text is read only
behind the allocation of the hex string, for which the uploader may have to wait.

The snapshots are numbered in the order in which they are formatted, and what is
read from the buffer is recorded with the number of the snapshot it shows.
-/

namespace BerPiNbiot.App.Uplink

open BerPiNbiot.Kernel
open BerPiNbiot.Text
open BerPiNbiot.Transition

/-- The words of `Send_data_mailbox`. -/
inductive Pointer
  | nbSendDataBuff
  deriving DecidableEq, Repr

/-- Where `send_data_entry` stands. -/
inductive Producer
  | delayed
  | formatted
  deriving DecidableEq, Repr

/-- A snapshot with its number. -/
abbrev Snapshot := Nat × Bytes

/-- Where `data_up_entry` stands: outside its publish loop, at the label `stat`,
or inside `qsdk_mqtt_pub_stream`, in front of `string_to_hex` with the snapshot
that the pointer shows at the call, or behind it with the one that has been read.
The failed attempts are those for the mail at hand. -/
inductive Uploader
  | idle
  | stat (failed : List Snapshot)
  | called (failed : List Snapshot) (passed : Snapshot)
  | publishing (failed : List Snapshot) (current : Snapshot)
  deriving DecidableEq, Repr

/-- The two threads and what they share, with the history of snapshots and of
successful publishes. -/
structure State where
  nbSendDataBuff : Bytes := []
  sendDataMailbox : Mailbox Pointer 4 := rtMbCreate Pointer 4
  producer : Producer := .delayed
  uploader : Uploader := .idle
  snapshots : List Bytes := []
  published : List Snapshot := []
  deriving DecidableEq

/-- The moves of the two threads. -/
inductive Move
  /-- `rt_sprintf((char *) NB_SendDataBuff, ...)` -/
  | format (text : Bytes)
  /-- `rt_mb_send(Send_data_mailbox, NB_SendDataBuff)` -/
  | post
  /-- `rt_mb_recv(Send_data_mailbox, &receive_buf, RT_WAITING_FOREVER)` -/
  | receive
  /-- `qsdk_mqtt_pub_stream(receive_buf, 1)` is called -/
  | publish
  /-- its `string_to_hex`, behind `rt_malloc`, reads the text -/
  | read
  /-- it returns an error, and the thread jumps to `stat` -/
  | fail
  /-- it returns `RT_EOK` -/
  | succeed
  deriving DecidableEq, Repr

/-- The last snapshot, as the buffer shows it. -/
def State.shown (state : State) : Snapshot :=
  (state.snapshots.length - 1, state.nbSendDataBuff)

/-- The moves of `send_data_entry` and `data_up_entry`. -/
def step : Step State Move
  | state, .format text =>
      match state.producer with
      | .delayed =>
          some { state with
            nbSendDataBuff := text
            producer := .formatted
            snapshots := state.snapshots ++ [text] }
      | .formatted => none
  | state, .post =>
      match state.producer with
      | .delayed => none
      | .formatted =>
          some { state with
            sendDataMailbox := (rtMbSend .nbSendDataBuff state.sendDataMailbox).2
            producer := .delayed }
  | state, .receive =>
      match state.uploader, rtMbRecv state.sendDataMailbox with
      | .idle, some (_, rest) =>
          some { state with sendDataMailbox := rest, uploader := .stat [] }
      | _, _ => none
  | state, .publish =>
      match state.uploader with
      | .stat failed => some { state with uploader := .called failed state.shown }
      | _ => none
  | state, .read =>
      match state.uploader with
      | .called failed _ => some { state with uploader := .publishing failed state.shown }
      | _ => none
  | state, .fail =>
      match state.uploader with
      -- without memory for the hex string nothing has been read
      | .called failed current | .publishing failed current =>
          some { state with uploader := .stat (failed ++ [current]) }
      | _ => none
  | state, .succeed =>
      match state.uploader with
      | .publishing _ current =>
          some { state with uploader := .idle, published := state.published ++ [current] }
      | _ => none

/-- All attempts for the mail at hand show the same snapshot. -/
def Uploader.SameSnapshot : Uploader → Prop
  | .idle => True
  | .stat failed => ∀ first ∈ failed, ∀ second ∈ failed, first = second
  | .called failed current | .publishing failed current => ∀ attempt ∈ failed, attempt = current

/-- Publishes are snapshots with increasing numbers, unaltered, and a retry
repeats the failed attempt. -/
structure InOrder (state : State) : Prop where
  increasing : state.published.Pairwise fun first second => first.1 < second.1
  unaltered : ∀ entry ∈ state.published, state.snapshots[entry.1]? = some entry.2
  retried : state.uploader.SameSnapshot

/-- The uploader is going to read the buffer for the mail at hand. -/
def Uploader.Needs : Uploader → Prop
  | .stat _ | .called .. => True
  | .idle | .publishing .. => False

/-- The attempt that is under way. -/
def Uploader.attempt : Uploader → Option Snapshot
  | .called _ current | .publishing _ current => some current
  | .idle | .stat _ => none

/-- The buffer is left alone while it is needed: nothing is formatted while a
mail is queued or has been taken and not yet read, and a publish fails only while
the buffer still shows the snapshot that it tried. -/
def Undisturbed (state : State) : Move → Prop
  | .format _ => state.sendDataMailbox.words = [] ∧ ¬ state.uploader.Needs
  | .fail => ∀ current, state.uploader.attempt = some current →
      current.1 + 1 = state.snapshots.length
  | _ => True

/-! ## The invariant -/

/-- The buffer shows a snapshot that has not been published. -/
def Fresh (state : State) : Prop :=
  state.snapshots ≠ [] ∧ ∀ entry ∈ state.published, entry.1 + 1 < state.snapshots.length

/-- Nothing is on its way but the snapshot in the buffer, and every attempt so
far has shown it. -/
structure Steady (state : State) (failed : List Snapshot) : Prop where
  empty : state.sendDataMailbox.words = []
  delayed : state.producer = .delayed
  fresh : Fresh state
  same : ∀ attempt ∈ failed, attempt = state.shown

/-- What the uploader's position says about the rest. -/
def Uploader.Consistent (state : State) : Uploader → Prop
  | .idle => True
  | .stat failed => Steady state failed
  | .called failed passed => Steady state failed ∧ passed = state.shown
  | .publishing failed current =>
      (∀ attempt ∈ failed, attempt = current) ∧
        state.snapshots[current.1]? = some current.2 ∧
        (∀ entry ∈ state.published, entry.1 < current.1) ∧
        (state.sendDataMailbox.words ≠ [] ∨ state.producer = .formatted →
          current.1 + 1 < state.snapshots.length)

/-- At most one snapshot is on its way. -/
structure Tidy (state : State) : Prop where
  buffered : state.snapshots ≠ [] →
    state.snapshots[state.snapshots.length - 1]? = some state.nbSendDataBuff
  increasing : state.published.Pairwise fun first second => first.1 < second.1
  unaltered : ∀ entry ∈ state.published, state.snapshots[entry.1]? = some entry.2
  single : state.sendDataMailbox.words.length ≤ 1
  unposted : state.producer = .formatted → state.sendDataMailbox.words = []
  fresh : state.sendDataMailbox.words ≠ [] ∨ state.producer = .formatted → Fresh state
  position : state.uploader.Consistent state

theorem tidy_initial : Tidy {} where
  buffered nonempty := absurd rfl nonempty
  increasing := List.Pairwise.nil
  unaltered _ member := absurd member List.not_mem_nil
  single := Nat.zero_le 1
  unposted _ := rfl
  fresh busy := by
    rcases busy with queued | formatted
    · exact absurd rfl queued
    · contradiction
  position := trivial

/-- A published snapshot has a number that has been given. -/
theorem Tidy.below {state : State} (tidy : Tidy state) :
    ∀ entry ∈ state.published, entry.1 < state.snapshots.length := by
  intro entry member
  exact (List.getElem?_eq_some_iff.mp (tidy.unaltered entry member)).1

theorem getElem?_concat {texts : List Bytes} {index : Nat} {found : Bytes}
    (present : texts[index]? = some found) (text : Bytes) :
    (texts ++ [text])[index]? = some found := by
  rcases List.getElem?_eq_some_iff.mp present with ⟨bound, _⟩
  rw [List.getElem?_append_left bound]
  exact present

theorem tidy_format {state : State} (tidy : Tidy state)
    (quiet : state.sendDataMailbox.words = [] ∧ ¬ state.uploader.Needs)
    (text : Bytes) :
    Tidy { state with
      nbSendDataBuff := text
      producer := .formatted
      snapshots := state.snapshots ++ [text] } where
  buffered _ := by simp
  increasing := tidy.increasing
  unaltered entry member := getElem?_concat (tidy.unaltered entry member) text
  single := tidy.single
  unposted _ := quiet.1
  fresh _ := by
    refine ⟨by simp, fun entry member => ?_⟩
    have bound := tidy.below entry member
    simp only [List.length_append, List.length_cons, List.length_nil]
    omega
  position := by
    have position := tidy.position
    cases place : state.uploader with
    | idle => trivial
    | stat failed | called failed passed =>
        have needs := quiet.2
        rw [place] at needs
        exact absurd trivial needs
    | publishing failed current =>
        rw [place] at position
        rcases position with ⟨same, present, above, _⟩
        refine ⟨same, getElem?_concat present text, above, fun _ => ?_⟩
        have bound := (List.getElem?_eq_some_iff.mp present).1
        simp only [List.length_append, List.length_cons, List.length_nil]
        omega

theorem tidy_post {state : State} (tidy : Tidy state) (formatted : state.producer = .formatted) :
    Tidy { state with
      sendDataMailbox := (rtMbSend .nbSendDataBuff state.sendDataMailbox).2
      producer := .delayed } := by
  have empty := tidy.unposted formatted
  have room : state.sendDataMailbox.words.length < 4 := by
    rw [empty]
    decide
  have queued := rtMbSend_of_room Pointer.nbSendDataBuff room
  have fresh : Fresh state := tidy.fresh (Or.inr formatted)
  have position := tidy.position
  refine ⟨tidy.buffered, tidy.increasing, tidy.unaltered, ?_, nofun, fun _ => fresh, ?_⟩
  · simp only [queued, empty]
    decide
  · cases place : state.uploader with
    | idle => trivial
    | stat failed =>
        rw [place] at position
        rw [position.delayed] at formatted
        contradiction
    | called failed passed =>
        rw [place] at position
        rw [position.1.delayed] at formatted
        contradiction
    | publishing failed current =>
        rw [place] at position
        rcases position with ⟨same, present, above, ahead⟩
        exact ⟨same, present, above, fun _ => ahead (Or.inr formatted)⟩

theorem tidy_receive {state : State} (tidy : Tidy state) {word : Pointer}
    {rest : Mailbox Pointer 4} (received : rtMbRecv state.sendDataMailbox = some (word, rest)) :
    Tidy { state with sendDataMailbox := rest, uploader := .stat [] } := by
  have words := rtMbRecv_eq_some received
  have queued : state.sendDataMailbox.words ≠ [] := by
    rw [words]
    exact List.cons_ne_nil _ _
  have empty : rest.words = [] := by
    have single := tidy.single
    rw [words, List.length_cons] at single
    exact List.eq_nil_of_length_eq_zero (by omega)
  have delayed : state.producer = .delayed := by
    cases place : state.producer with
    | delayed => rfl
    | formatted => exact absurd (tidy.unposted place) queued
  have fresh : Fresh state := tidy.fresh (Or.inl queued)
  refine ⟨tidy.buffered, tidy.increasing, tidy.unaltered, ?_, fun _ => empty, fun _ => fresh, ?_⟩
  · simp only [empty]
    exact Nat.zero_le 1
  · exact ⟨empty, delayed, fresh, fun _ member => absurd member List.not_mem_nil⟩

theorem tidy_publish {state : State} (tidy : Tidy state) {failed : List Snapshot}
    (place : state.uploader = .stat failed) :
    Tidy { state with uploader := .called failed state.shown } := by
  have position := tidy.position
  rw [place] at position
  rcases position with ⟨empty, delayed, fresh, same⟩
  exact ⟨tidy.buffered, tidy.increasing, tidy.unaltered, tidy.single, tidy.unposted, tidy.fresh,
    ⟨empty, delayed, fresh, same⟩, rfl⟩

theorem tidy_read {state : State} (tidy : Tidy state) {failed : List Snapshot}
    {passed : Snapshot} (place : state.uploader = .called failed passed) :
    Tidy { state with uploader := .publishing failed state.shown } := by
  have position := tidy.position
  rw [place] at position
  rcases position with ⟨⟨empty, delayed, ⟨nonempty, below⟩, same⟩, _⟩
  refine ⟨tidy.buffered, tidy.increasing, tidy.unaltered, tidy.single, tidy.unposted, tidy.fresh,
    same, tidy.buffered nonempty, fun entry member => ?_, fun busy => ?_⟩
  · have bound := below entry member
    simp only [State.shown]
    omega
  · rcases busy with queued | formatted
    · exact absurd empty queued
    · rw [delayed] at formatted
      contradiction

/-- One more attempt that shows the same snapshot has failed. -/
theorem tidy_stat {state : State} (tidy : Tidy state) {failed : List Snapshot}
    (steady : Steady state failed) :
    Tidy { state with uploader := .stat (failed ++ [state.shown]) } := by
  rcases steady with ⟨empty, delayed, fresh, same⟩
  refine ⟨tidy.buffered, tidy.increasing, tidy.unaltered, tidy.single, tidy.unposted, tidy.fresh,
    empty, delayed, fresh, fun attempt member => ?_⟩
  rcases List.mem_append.mp member with earlier | last
  · exact same attempt earlier
  · exact List.mem_singleton.mp last

/-- The buffer still shows the snapshot that has been read. -/
theorem Tidy.steady_of_publishing {state : State} (tidy : Tidy state) {failed : List Snapshot}
    {current : Snapshot} (place : state.uploader = .publishing failed current)
    (undisturbed : current.1 + 1 = state.snapshots.length) :
    Steady state failed ∧ current = state.shown := by
  have position := tidy.position
  rw [place] at position
  rcases position with ⟨same, present, above, ahead⟩
  have idle : ¬ (state.sendDataMailbox.words ≠ [] ∨ state.producer = .formatted) := by
    intro busy
    have later := ahead busy
    omega
  rw [not_or, not_not] at idle
  have delayed : state.producer = .delayed := by
    cases producer : state.producer with
    | delayed => rfl
    | formatted => exact absurd producer idle.2
  have nonempty : state.snapshots ≠ [] := by
    intro none
    rw [none] at undisturbed
    contradiction
  have number : state.snapshots.length - 1 = current.1 := by omega
  have shown : current = state.shown := by
    have last := tidy.buffered nonempty
    rw [number, present] at last
    rw [State.shown, number, ← Option.some.inj last]
  have fresh : Fresh state := by
    refine ⟨nonempty, fun entry member => ?_⟩
    have bound := above entry member
    omega
  exact ⟨⟨idle.1, delayed, fresh, shown ▸ same⟩, shown⟩

theorem tidy_fail {state : State} (tidy : Tidy state) {failed : List Snapshot}
    {current : Snapshot}
    (place : state.uploader = .called failed current ∨
      state.uploader = .publishing failed current)
    (undisturbed : current.1 + 1 = state.snapshots.length) :
    Tidy { state with uploader := .stat (failed ++ [current]) } := by
  have steady : Steady state failed ∧ current = state.shown := by
    rcases place with place | place
    · have position := tidy.position
      rw [place] at position
      exact position
    · exact tidy.steady_of_publishing place undisturbed
  rw [steady.2]
  exact tidy_stat tidy steady.1

theorem tidy_succeed {state : State} (tidy : Tidy state) {failed : List Snapshot}
    {current : Snapshot} (place : state.uploader = .publishing failed current) :
    Tidy { state with uploader := .idle, published := state.published ++ [current] } := by
  have position := tidy.position
  rw [place] at position
  rcases position with ⟨_, present, above, ahead⟩
  refine ⟨tidy.buffered, ?_, ?_, tidy.single, tidy.unposted, ?_, trivial⟩
  · rw [List.pairwise_append]
    refine ⟨tidy.increasing, List.pairwise_singleton _ _, fun entry member other last => ?_⟩
    rw [List.mem_singleton.mp last]
    exact above entry member
  · intro entry member
    rcases List.mem_append.mp member with earlier | last
    · exact tidy.unaltered entry earlier
    · rw [List.mem_singleton.mp last]
      exact present
  · intro busy
    rcases tidy.fresh busy with ⟨nonempty, below⟩
    refine ⟨nonempty, fun entry member => ?_⟩
    rcases List.mem_append.mp member with earlier | last
    · exact below entry earlier
    · rw [List.mem_singleton.mp last]
      exact ahead busy

/-- Every undisturbed move keeps at most one snapshot on its way. -/
theorem tidy_step {state target : State} {move : Move} (tidy : Tidy state)
    (undisturbed : Undisturbed state move) (moved : step state move = some target) :
    Tidy target := by
  cases move with
  | format text =>
      rw [step] at moved
      split at moved
      · cases moved
        exact tidy_format tidy undisturbed text
      · contradiction
  | post =>
      rw [step] at moved
      split at moved
      · contradiction
      · rename_i formatted
        cases moved
        exact tidy_post tidy formatted
  | receive =>
      rw [step] at moved
      split at moved
      · rename_i received
        cases moved
        exact tidy_receive tidy received
      · contradiction
  | publish =>
      rw [step] at moved
      split at moved
      · rename_i failed place
        cases moved
        exact tidy_publish tidy place
      · contradiction
  | read =>
      rw [step] at moved
      split at moved
      · rename_i failed passed place
        cases moved
        exact tidy_read tidy place
      · contradiction
  | fail =>
      rw [step] at moved
      split at moved
      · rename_i failed current place
        cases moved
        exact tidy_fail tidy (Or.inl place) (undisturbed current (by rw [place]; rfl))
      · rename_i failed current place
        cases moved
        exact tidy_fail tidy (Or.inr place) (undisturbed current (by rw [place]; rfl))
      · contradiction
  | succeed =>
      rw [step] at moved
      split at moved
      · rename_i failed current place
        cases moved
        exact tidy_succeed tidy place
      · contradiction

theorem Tidy.inOrder {state : State} (tidy : Tidy state) : InOrder state where
  increasing := tidy.increasing
  unaltered := tidy.unaltered
  retried := by
    have position := tidy.position
    cases place : state.uploader with
    | idle => trivial
    | stat failed =>
        rw [place] at position
        intro first firstMem second secondMem
        rw [position.same first firstMem, position.same second secondMem]
    | called failed passed =>
        rw [place] at position
        rw [position.2]
        exact position.1.same
    | publishing failed current =>
        rw [place] at position
        exact position.1

/-- In every interleaving of the two threads that leaves the buffer alone while
it is needed, the published texts are snapshots with increasing numbers and
every retry repeats its failed attempt. -/
theorem inOrder_of_undisturbed (run : List Move) (state : State)
    (undisturbed : Guarded step Undisturbed {} run) (executed : exec step {} run = some state) :
    InOrder state := by
  have tidy : Tidy state :=
    exec_invariant (fun _ _ _ tidy undisturbed moved => tidy_step tidy undisturbed moved)
      tidy_initial undisturbed executed
  exact tidy.inOrder

/-- A publish that fails once, and a second snapshot whose first publish finds no
memory. -/
def quietRun : List Move :=
  [.format (ascii "first"), .post, .receive, .publish, .read, .fail, .publish, .read, .succeed,
    .format (ascii "second"), .post, .receive, .publish, .fail, .publish, .read, .succeed]

theorem quietRun_inOrder :
    ∃ state, exec step {} quietRun = some state ∧
      state.published = [(0, ascii "first"), (1, ascii "second")] ∧ InOrder state := by
  refine ⟨_, rfl, rfl, inOrder_of_undisturbed quietRun _ ?_ rfl⟩
  simp [quietRun, Guarded, step, Undisturbed, Uploader.Needs, Uploader.attempt, State.shown,
    rtMbCreate, rtMbSend, rtMbRecv]

/-- Two snapshots are posted before the first is taken: the second is published
twice. -/
theorem queuedSnapshots_published_twice :
    ∃ state, exec step {} [.format (ascii "first"), .post, .format (ascii "second"), .post,
        .receive, .publish, .read, .succeed, .receive, .publish, .read, .succeed] = some state ∧
      state.published = [(1, ascii "second"), (1, ascii "second")] ∧ ¬ InOrder state := by
  refine ⟨_, rfl, rfl, fun inOrder => ?_⟩
  have increasing : List.Pairwise (fun first second : Snapshot => first.1 < second.1)
      [(1, ascii "second"), (1, ascii "second")] := inOrder.increasing
  exact absurd (List.rel_of_pairwise_cons increasing (List.mem_singleton_self _))
    (Nat.lt_irrefl 1)

end BerPiNbiot.App.Uplink
