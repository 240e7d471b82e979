import BerPiNbiot.Kernel.MailboxRing
import BerPiNbiot.Kernel.MessageQueue
import BerPiNbiot.Transition.Core
import BerPiNbiot.Waiting.Core

/-!
# Message queues

`rt_mq_send_wait`, `rt_mq_urgent`, `rt_mq_recv` and `rt_mq_control` on the pool of a message
queue and its two lists of suspended threads.  What runs with interrupts disabled is one step,
and the copy of a message between two such sections is another one.  Whether a waiting time is
over, and how many waiting threads are in front of a new one, are parts of the label.
-/

namespace BerPiNbiot.Kernel

open BerPiNbiot.Linked
open BerPiNbiot.Transition
open BerPiNbiot.Waiting

/-- A message queue with the threads that are suspended in its calls, those that have been
resumed and have not run again, the messages of the senders, the messages in the hands of the
calls, and what has been copied out. -/
structure QueueState where
  queue : MessageQueue
  receivers : List Nat
  retrying : List Nat
  senders : List Nat
  resending : List Nat
  messages : Nat → List UInt8
  holds : List Hold
  given : List (List UInt8)

namespace QueueState

/-- A waiting receiver is resumed. -/
def resumeReceiver (state : QueueState) : QueueState :=
  match state.receivers with
  | [] => state
  | first :: rest => { state with receivers := rest, retrying := first :: state.retrying }

/-- A waiting sender is resumed. -/
def resumeSender (state : QueueState) : QueueState :=
  match state.senders with
  | [] => state
  | first :: rest => { state with senders := rest, resending := first :: state.resending }

/-- `rt_mq_send_wait` up to the copy, from its call or from where it has been resumed.  The
flag says that there is waiting time left. -/
def send (state : QueueState) (party : Nat) (message : List UInt8) (wait : Bool) (ahead : Nat) :
    QueueState :=
  if state.queue.msgSize < message.length then state
  else
    let state := { state with
      resending := state.resending.erase party
      messages := Function.update state.messages party message }
    match state.queue.free with
    | none => if wait then { state with senders := behind ahead party state.senders } else state
    | some slot =>
        { state with
          queue := state.queue.takeFree slot
          holds := ⟨party, slot, .write message false⟩ :: state.holds }

/-- `rt_mq_urgent` up to the copy -/
def urgent (state : QueueState) (party : Nat) (message : List UInt8) : QueueState :=
  if state.queue.msgSize < message.length then state
  else
    match state.queue.free with
    | none => state
    | some slot =>
        { state with
          queue := state.queue.takeFree slot
          holds := ⟨party, slot, .write message true⟩ :: state.holds }

/-- `rt_mq_recv` up to the copy, from its call or from where it has been resumed. -/
def recv (state : QueueState) (party : Nat) (wait : Bool) (ahead : Nat) : QueueState :=
  let state := { state with retrying := state.retrying.erase party }
  if state.queue.entry = 0 then
    if wait then { state with receivers := behind ahead party state.receivers } else state
  else
    match state.queue.head with
    | none => state
    | some slot =>
        { state with
          queue := { state.queue.unlinkHead slot with entry := state.queue.entry - 1 }
          holds := ⟨party, slot, .copy (state.queue.body slot)⟩ :: state.holds }

/-- How much `rt_mq_recv` copies into a buffer. -/
def copied (state : QueueState) (size : Nat) : Nat :=
  if state.queue.msgSize < size then state.queue.msgSize else size

/-- A call with a message goes on: the copy, or its second critical section. -/
def proceed (state : QueueState) (hold : Hold) (size : Nat) : QueueState :=
  let rest := state.holds.erase hold
  match hold.stage with
  | .write message urgent =>
      { state with
        queue := state.queue.write hold.slot message urgent
        holds := { hold with stage := .link message urgent } :: rest }
  | .link _ urgent =>
      resumeReceiver { state with
        queue := if urgent then state.queue.linkHead hold.slot else state.queue.linkTail hold.slot
        holds := rest }
  | .copy _ =>
      { state with
        holds := { hold with stage := .giveBack } :: rest
        given := state.given ++ [(state.queue.body hold.slot).take (state.copied size)] }
  | .giveBack => resumeSender { state with queue := state.queue.putFree hold.slot, holds := rest }

/-- The waiting time of a suspended thread is over. -/
def timeout (state : QueueState) (party : Nat) : QueueState :=
  { state with
    receivers := state.receivers.erase party
    senders := state.senders.erase party }

/-- `rt_mq_control` with `RT_IPC_CMD_RESET` -/
def reset (state : QueueState) : QueueState :=
  { state with
    queue := { state.queue.releaseAll state.queue.maxMsgs with entry := 0 }
    receivers := []
    senders := [] }

end QueueState

/-- What threads and interrupts do with a message queue. -/
inductive QueueEvent where
  | send (party : Nat) (message : List UInt8) (wait : Bool) (ahead : Nat)
  | resend (party : Nat) (wait : Bool) (ahead : Nat)
  | urgent (party : Nat) (message : List UInt8)
  | recv (party : Nat) (wait : Bool) (ahead : Nat)
  | proceed (hold : Hold) (size : Nat)
  | timeout (party : Nat)
  | reset

/-! ## The queue of messages -/

/-- What the users see of a message queue: the messages that have been sent, those in the hands
of the calls, what has been copied out, and the message of every thread that has called
`rt_mq_send_wait`. -/
structure QueueView where
  contents : List (List UInt8)
  holds : List Hold
  given : List (List UInt8)
  messages : Nat → List UInt8

namespace QueueView

/-- A call with a message takes a free one for it, if the message is not too large and there is
a free one. -/
def Takes (msgSize maxMsgs : Nat) (before : QueueView) (party : Nat) (message : List UInt8)
    (urgent : Bool) (after : QueueView) : Prop :=
  if msgSize < message.length ∨ before.contents.length + before.holds.length = maxMsgs then
    after = before
  else ∃ slot, after = { before with
    holds := ⟨party, slot, .write message urgent⟩ :: before.holds }

/-- A thread calls with a message. -/
def note (msgSize : Nat) (before : QueueView) (party : Nat) (message : List UInt8) : QueueView :=
  if msgSize < message.length then before
  else { before with messages := Function.update before.messages party message }

/-- What an event does to the queue.  A sender puts its message behind the others, or in front
of them; behind its end are the bytes that an earlier message has left.  A receiver takes the
first message, and gets it later as it was then. -/
def Moves (msgSize maxMsgs : Nat) (before : QueueView) (event : QueueEvent) (after : QueueView) :
    Prop :=
  match event with
  | .send party message _ _ =>
      (before.note msgSize party message).Takes msgSize maxMsgs party message false after
  | .resend party _ _ => before.Takes msgSize maxMsgs party (before.messages party) false after
  | .urgent party message => before.Takes msgSize maxMsgs party message true after
  | .recv party _ _ =>
      match before.contents with
      | [] => after = before
      | value :: rest => ∃ slot, after = { before with
          contents := rest
          holds := ⟨party, slot, .copy value⟩ :: before.holds }
  | .proceed hold size =>
      let others := before.holds.erase hold
      match hold.stage with
      | .write message urgent => after = { before with
          holds := { hold with stage := .link message urgent } :: others }
      | .link message urgent => ∃ rest, (message ++ rest).length = msgSize ∧ after = { before with
          contents := if urgent then (message ++ rest) :: before.contents
            else before.contents ++ [message ++ rest]
          holds := others }
      | .copy value => after = { before with
          holds := { hold with stage := .giveBack } :: others
          given := before.given ++ [value.take (min size msgSize)] }
      | .giveBack => after = { before with holds := others }
  | .timeout _ => after = before
  | .reset => after = { before with contents := [] }

end QueueView

/-! ## Critical sections -/

namespace QueueState

/-- One critical section, or the copy between two of them. -/
def step (state : QueueState) : QueueEvent → Option QueueState
  | .send party message wait ahead => some (state.send party message wait ahead)
  | .resend party wait ahead => some (state.send party (state.messages party) wait ahead)
  | .urgent party message => some (state.urgent party message)
  | .recv party wait ahead => some (state.recv party wait ahead)
  | .proceed hold size => if hold ∈ state.holds then some (state.proceed hold size) else none
  | .timeout party => some (state.timeout party)
  | .reset => some state.reset

/-- A thread is in one call at a time. -/
def allowed (state : QueueState) : QueueEvent → Prop
  | .recv party _ _ => party ∉ state.receivers ∧ party ∉ state.senders ∧ party ∉ state.resending ∧
      ∀ hold ∈ state.holds, hold.party ≠ party
  | .send party _ _ _ => party ∉ state.receivers ∧ party ∉ state.senders ∧
      party ∉ state.retrying ∧ party ∉ state.resending ∧ ∀ hold ∈ state.holds, hold.party ≠ party
  | .resend party _ _ => party ∈ state.resending
  | .urgent party _ => ∀ hold ∈ state.holds, hold.party ≠ party
  | .proceed hold _ => hold ∈ state.holds
  | .timeout _ | .reset => True

instance (state : QueueState) : DecidablePred state.allowed
  | .recv .. => inferInstanceAs (Decidable (_ ∧ _))
  | .send .. => inferInstanceAs (Decidable (_ ∧ _))
  | .resend party _ _ => inferInstanceAs (Decidable (party ∈ state.resending))
  | .urgent party _ => inferInstanceAs (Decidable (∀ hold ∈ state.holds, hold.party ≠ party))
  | .proceed hold _ => inferInstanceAs (Decidable (hold ∈ state.holds))
  | .timeout _ | .reset => inferInstanceAs (Decidable True)

/-- The pool is in order, and no wake-up is lost at either end of the queue. -/
structure Stocked (state : QueueState) (free sent : List Nat) : Prop where
  pooled : Pooled state.queue free sent state.holds
  entry : state.queue.entry = sent.length
  small : state.queue.maxMsgs < 65536
  entries : Gate.Prompt ⟨state.queue.entry, state.receivers, state.retrying⟩
  room : Gate.Prompt ⟨free.length, state.senders, state.resending⟩

/-- What the users see. -/
def view (state : QueueState) : QueueView :=
  ⟨state.queue.contents, state.holds, state.given, state.messages⟩

/-- A step is one of the queue of messages. -/
def Moves (before : QueueState) (event : QueueEvent) (after : QueueState) : Prop :=
  before.view.Moves before.queue.msgSize before.queue.maxMsgs event after.view

variable {state : QueueState} {free sent : List Nat} {party : Nat}

theorem resumeReceiver_eq (state : QueueState) : ∃ receivers retrying,
    state.resumeReceiver = { state with receivers := receivers, retrying := retrying } ∧
    ∀ units, Gate.give ⟨units, state.receivers, state.retrying⟩ =
      ⟨units + 1, receivers, retrying⟩ := by
  rcases state with ⟨queue, receivers, retrying, senders, resending, messages, holds, given⟩
  cases receivers with
  | nil => exact ⟨[], retrying, rfl, fun _ => rfl⟩
  | cons first rest => exact ⟨rest, first :: retrying, rfl, fun _ => rfl⟩

theorem resumeSender_eq (state : QueueState) : ∃ senders resending,
    state.resumeSender = { state with senders := senders, resending := resending } ∧
    ∀ units, Gate.give ⟨units, state.senders, state.resending⟩ =
      ⟨units + 1, senders, resending⟩ := by
  rcases state with ⟨queue, receivers, retrying, senders, resending, messages, holds, given⟩
  cases senders with
  | nil => exact ⟨[], resending, rfl, fun _ => rfl⟩
  | cons first rest => exact ⟨rest, first :: resending, rfl, fun _ => rfl⟩

theorem maxMsgs_releaseAll (rounds : Nat) (queue : MessageQueue) :
    (queue.releaseAll rounds).maxMsgs = queue.maxMsgs := by
  induction rounds generalizing queue with
  | zero => rfl
  | succ rounds ih =>
      unfold MessageQueue.releaseAll
      split
      · rfl
      · exact ih _

/-- A receiver copies no more than its buffer and the message hold. -/
theorem copied_eq (state : QueueState) (size : Nat) :
    state.copied size = min size state.queue.msgSize := by
  unfold copied
  split <;> omega

namespace Stocked

theorem contents (stocked : Stocked state free sent) :
    state.queue.contents = sent.map state.queue.body :=
  stocked.pooled.contents stocked.entry

/-- The queue is full when no message is free. -/
theorem full_iff (stocked : Stocked state free sent) :
    state.view.contents.length + state.view.holds.length = state.queue.maxMsgs ↔ free = [] := by
  have shares := stocked.pooled.shares.length_eq
  rw [List.length_append, List.length_append, List.length_map, List.length_range] at shares
  have contents : state.view.contents.length = sent.length := by
    change state.queue.contents.length = _
    rw [stocked.contents, List.length_map]
  have holds : state.view.holds = state.holds := rfl
  rw [← List.length_eq_zero_iff, contents, holds]
  omega

theorem send (stocked : Stocked state free sent) (message : List UInt8) (wait : Bool)
    (ahead : Nat) (absent : party ∉ state.senders) :
    ∃ free, Stocked (state.send party message wait ahead) free sent ∧
      (state.view.note state.queue.msgSize party message).Takes state.queue.msgSize
        state.queue.maxMsgs party message false (state.send party message wait ahead).view := by
  have full := stocked.full_iff
  unfold QueueState.send QueueView.note QueueView.Takes
  by_cases large : state.queue.msgSize < message.length
  · simp only [large, if_true, true_or]
    exact ⟨free, stocked, trivial⟩
  · simp only [large, if_false, false_or]
    cases free with
    | nil =>
        have empty : state.queue.free = none := stocked.pooled.freeLinks
        simp only [empty]
        refine ⟨[], ?_, ?_⟩
        · split
          · exact ⟨stocked.pooled, stocked.entry, stocked.small, stocked.entries,
              stocked.room.wait rfl (Posted.nodup_behind absent stocked.room.once)
                fun _ member => Posted.mem_behind member⟩
          · exact ⟨stocked.pooled, stocked.entry, stocked.small, stocked.entries,
              stocked.room.resign rfl⟩
        · rw [if_pos (full.mpr rfl)]
          split <;> rfl
    | cons slot free =>
        have first : state.queue.free = some slot := stocked.pooled.freeLinks.1
        simp only [first]
        refine ⟨free, ⟨stocked.pooled.takeFree (Nat.le_of_not_lt large), stocked.entry,
          stocked.small, stocked.entries, stocked.room.take (Nat.succ_pos _)⟩, ?_⟩
        rw [if_neg (full.not.mpr (List.cons_ne_nil _ _))]
        exact ⟨slot, rfl⟩

theorem urgent (stocked : Stocked state free sent) (party : Nat) (message : List UInt8) :
    ∃ free, Stocked (state.urgent party message) free sent ∧
      state.view.Takes state.queue.msgSize state.queue.maxMsgs party message true
        (state.urgent party message).view := by
  have full := stocked.full_iff
  unfold QueueState.urgent QueueView.Takes
  by_cases large : state.queue.msgSize < message.length
  · simp only [large, if_true, true_or]
    exact ⟨free, stocked, trivial⟩
  · simp only [large, if_false, false_or]
    cases free with
    | nil =>
        have empty : state.queue.free = none := stocked.pooled.freeLinks
        simp only [empty]
        refine ⟨[], stocked, ?_⟩
        rw [if_pos (full.mpr rfl)]
        trivial
    | cons slot free =>
        have first : state.queue.free = some slot := stocked.pooled.freeLinks.1
        simp only [first]
        refine ⟨free, ⟨stocked.pooled.takeFree (Nat.le_of_not_lt large), stocked.entry,
          stocked.small, stocked.entries, stocked.room.fewer (Nat.le_succ _)⟩, ?_⟩
        rw [if_neg (full.not.mpr (List.cons_ne_nil _ _))]
        exact ⟨slot, rfl⟩

theorem recv (stocked : Stocked state free sent) (wait : Bool) (ahead : Nat)
    (absent : party ∉ state.receivers) :
    ∃ sent, Stocked (state.recv party wait ahead) free sent ∧
      state.Moves (.recv party wait ahead) (state.recv party wait ahead) := by
  have contents : state.view.contents = sent.map state.queue.body := stocked.contents
  have entry := stocked.entry
  unfold QueueState.recv Moves QueueView.Moves
  simp only
  cases sent with
  | nil =>
      have empty : state.queue.entry = 0 := entry
      rw [List.map_nil] at contents
      simp only [empty, contents, if_true]
      refine ⟨[], ?_, ?_⟩
      · split
        · exact ⟨stocked.pooled, entry, stocked.small, empty ▸ stocked.entries.wait empty
            (Posted.nodup_behind absent stocked.entries.once)
            fun _ member => Posted.mem_behind member, stocked.room⟩
        · exact ⟨stocked.pooled, entry, stocked.small, stocked.entries.resign empty, stocked.room⟩
      · split <;> rfl
  | cons slot sent =>
      have some_message : state.queue.entry ≠ 0 := by
        rw [entry]
        exact Nat.succ_ne_zero _
      have first : state.queue.head = some slot := stocked.pooled.sentLinks.1
      rw [List.map_cons] at contents
      simp only [some_message, first, contents, if_false]
      have count : state.queue.entry - 1 = sent.length := by
        rw [entry]
        rfl
      have pooled := stocked.pooled.unlinkHead party
      have kept : Pooled { state.queue.unlinkHead slot with entry := state.queue.entry - 1 } free
          sent (⟨party, slot, .copy (state.queue.body slot)⟩ :: state.holds) :=
        ⟨pooled.freeLinks, pooled.sentLinks, pooled.tail, pooled.shares, pooled.ready,
          pooled.sized⟩
      refine ⟨sent, ⟨kept, count, stocked.small, stocked.entries.take
        (Nat.pos_of_ne_zero some_message), stocked.room⟩, slot, ?_⟩
      unfold QueueState.view
      rw [kept.contents count]
      rfl

theorem length_sent_lt (stocked : Stocked state free sent) {hold : Hold}
    (member : hold ∈ state.holds) : sent.length + 1 < 65536 := by
  have shares := stocked.pooled.shares.length_eq
  rw [List.length_append, List.length_append, List.length_map, List.length_range] at shares
  have some_hold := List.length_pos_of_mem member
  have small := stocked.small
  omega

/-- A sender links its message. -/
theorem proceed_link (stocked : Stocked state free sent) {slot : Nat} {message : List UInt8}
    {urgent : Bool} (member : ⟨party, slot, .link message urgent⟩ ∈ state.holds) (size : Nat) :
    ∃ sent, Stocked (state.proceed ⟨party, slot, .link message urgent⟩ size) free sent ∧
      state.Moves (.proceed ⟨party, slot, .link message urgent⟩ size)
        (state.proceed ⟨party, slot, .link message urgent⟩ size) := by
  have pooled := stocked.pooled
  have contents := stocked.contents
  have counted : (state.queue.entry + 1) % 65536 = sent.length + 1 := by
    rw [stocked.entry]
    exact Nat.mod_eq_of_lt (stocked.length_sent_lt member)
  obtain ⟨ends, rest, filled⟩ := pooled.ready _ member
  have full : (message ++ rest).length = state.queue.msgSize := by
    rw [filled]
    exact pooled.sized slot
  obtain ⟨receivers, retrying, resumed, gives⟩ := resumeReceiver_eq { state with
    queue := if urgent then state.queue.linkHead slot else state.queue.linkTail slot
    holds := state.holds.erase ⟨party, slot, .link message urgent⟩ }
  have gave := stocked.entries.give
  rw [gives] at gave
  have same : state.proceed ⟨party, slot, .link message urgent⟩ size = _ := resumed
  rw [same]
  cases urgent with
  | true =>
      have kept := pooled.linkHead member
      have count : (state.queue.linkHead slot).entry = (slot :: sent).length := counted
      have units : (state.queue.linkHead slot).entry = state.queue.entry + 1 := by
        rw [count, stocked.entry, List.length_cons]
      rw [← units] at gave
      refine ⟨slot :: sent, ⟨kept, count, stocked.small, gave, stocked.room⟩, rest, full,
        ?_⟩
      change QueueView.mk (state.queue.linkHead slot).contents _ _ _ = _
      rw [kept.contents count, List.map_cons, if_pos rfl, filled]
      change QueueView.mk (_ :: sent.map state.queue.body) _ _ _ = _
      rw [← contents]
      rfl
  | false =>
      have kept := pooled.linkTail member (ends rfl)
      have count : (state.queue.linkTail slot).entry = (sent ++ [slot]).length := by
        rw [List.length_append]
        exact counted
      have units : (state.queue.linkTail slot).entry = state.queue.entry + 1 := by
        rw [count, stocked.entry, List.length_append, List.length_singleton]
      rw [← units] at gave
      refine ⟨sent ++ [slot], ⟨kept, count, stocked.small, gave, stocked.room⟩, rest,
        full, ?_⟩
      change QueueView.mk (state.queue.linkTail slot).contents _ _ _ = _
      rw [kept.contents count, List.map_append, if_neg Bool.false_ne_true, filled]
      change QueueView.mk (sent.map state.queue.body ++ _) _ _ _ = _
      rw [← contents]
      rfl

/-- A receiver gives its message back. -/
theorem proceed_giveBack (stocked : Stocked state free sent) {slot : Nat}
    (member : ⟨party, slot, .giveBack⟩ ∈ state.holds) (size : Nat) :
    Stocked (state.proceed ⟨party, slot, .giveBack⟩ size) (slot :: free) sent ∧
      state.Moves (.proceed ⟨party, slot, .giveBack⟩ size)
        (state.proceed ⟨party, slot, .giveBack⟩ size) := by
  obtain ⟨senders, resending, resumed, gives⟩ := resumeSender_eq { state with
    queue := state.queue.putFree slot
    holds := state.holds.erase ⟨party, slot, .giveBack⟩ }
  have gave := stocked.room.give
  rw [gives] at gave
  have kept := stocked.pooled.putFree member
  have same : state.proceed ⟨party, slot, .giveBack⟩ size = _ := resumed
  rw [same]
  refine ⟨⟨kept, stocked.entry, stocked.small, stocked.entries, gave⟩, ?_⟩
  change QueueView.mk (state.queue.putFree slot).contents _ _ _ = _
  rw [kept.contents stocked.entry]
  change QueueView.mk (sent.map state.queue.body) _ _ _ = _
  rw [← stocked.contents]
  rfl

/-- A call with a message goes on. -/
theorem proceed (stocked : Stocked state free sent) {hold : Hold} (member : hold ∈ state.holds)
    (size : Nat) :
    ∃ free sent, Stocked (state.proceed hold size) free sent ∧
      state.Moves (.proceed hold size) (state.proceed hold size) := by
  have pooled := stocked.pooled
  have contents := stocked.contents
  have ready := pooled.ready hold member
  obtain ⟨notFree, notSent, -⟩ := pooled.apart member
  obtain ⟨party, slot, stage⟩ := hold
  cases stage with
  | write message urgent =>
      have kept := pooled.write member rfl
      refine ⟨free, sent, ⟨kept, stocked.entry, stocked.small, stocked.entries, stocked.room⟩, ?_⟩
      have same : (state.queue.write slot message urgent).contents = state.queue.contents := by
        rw [contents, kept.contents stocked.entry]
        exact List.map_congr_left fun other inside =>
          Function.update_of_ne (ne_of_mem_of_not_mem inside notSent) ..
      change QueueView.mk (state.queue.write slot message urgent).contents _ _ _ = _
      rw [same]
      rfl
  | link message urgent =>
      obtain ⟨sent, kept, moves⟩ := stocked.proceed_link member size
      exact ⟨free, sent, kept, moves⟩
  | copy value =>
      have kept := pooled.advance member (fun _ _ => rfl) (fun _ _ => rfl)
        ⟨rfl, rfl, rfl, rfl, rfl⟩ (pooled.sized slot) (show Hold.Ready state.queue
          ⟨party, slot, .giveBack⟩ from trivial)
      refine ⟨free, sent, ⟨kept, stocked.entry, stocked.small, stocked.entries, stocked.room⟩, ?_⟩
      change QueueView.mk _ _ (state.given ++ [(state.queue.body slot).take (state.copied size)]) _
        = _
      rw [show state.queue.body slot = value from ready, copied_eq]
      rfl
  | giveBack => exact ⟨slot :: free, sent, stocked.proceed_giveBack member size⟩

theorem reset (stocked : Stocked state free sent) :
    Stocked state.reset (sent.reverse ++ free) [] := by
  have enough : sent.length ≤ state.queue.maxMsgs := by
    have shares := stocked.pooled.shares.length_eq
    rw [List.length_append, List.length_append, List.length_range] at shares
    omega
  have pooled := stocked.pooled.releaseAll enough
  refine ⟨⟨pooled.freeLinks, pooled.sentLinks, pooled.tail, pooled.shares, pooled.ready,
    pooled.sized⟩, rfl, ?_, stocked.entries.clear 0, stocked.room.clear _⟩
  change (state.queue.releaseAll state.queue.maxMsgs).maxMsgs < 65536
  rw [maxMsgs_releaseAll]
  exact stocked.small

/-- Every step keeps the invariant, and is a step of the queue. -/
theorem step (stocked : Stocked state free sent) {event : QueueEvent}
    (allowed : state.allowed event) :
    ∃ target free sent, state.step event = some target ∧ Stocked target free sent ∧
      state.Moves event target := by
  cases event with
  | send party message wait ahead =>
      obtain ⟨free, kept, moves⟩ := stocked.send message wait ahead allowed.2.1
      exact ⟨_, free, sent, rfl, kept, moves⟩
  | resend party wait ahead =>
      obtain ⟨free, kept, moves⟩ := stocked.send (state.messages party) wait ahead fun waits =>
        stocked.room.apart party waits allowed
      have noted : state.view.note state.queue.msgSize party (state.messages party) =
          state.view := by
        unfold QueueView.note
        split
        · rfl
        · change QueueView.mk _ _ _ (Function.update state.messages party _) = _
          rw [Function.update_eq_self]
          rfl
      rw [noted] at moves
      exact ⟨_, free, sent, rfl, kept, moves⟩
  | urgent party message =>
      obtain ⟨free, kept, moves⟩ := stocked.urgent party message
      exact ⟨_, free, sent, rfl, kept, moves⟩
  | recv party wait ahead =>
      obtain ⟨sent, kept, moves⟩ := stocked.recv wait ahead allowed.1
      exact ⟨_, free, sent, rfl, kept, moves⟩
  | proceed hold size =>
      obtain ⟨free, sent, kept, moves⟩ := stocked.proceed allowed size
      exact ⟨_, free, sent, if_pos allowed, kept, moves⟩
  | timeout party =>
      exact ⟨_, free, sent, rfl, ⟨stocked.pooled, stocked.entry, stocked.small,
        stocked.entries.leave, stocked.room.leave⟩, rfl⟩
  | reset => exact ⟨_, _, _, rfl, stocked.reset, rfl⟩

end Stocked

theorem maxMsgs_send (party : Nat) (message : List UInt8) (wait : Bool) (ahead : Nat) :
    (state.send party message wait ahead).queue.maxMsgs = state.queue.maxMsgs := by
  unfold QueueState.send
  split
  · rfl
  · simp only
    split
    · split <;> rfl
    · rfl

/-- The pool is the same for ever. -/
theorem maxMsgs_step {target : QueueState} {event : QueueEvent}
    (stepped : state.step event = some target) :
    target.queue.maxMsgs = state.queue.maxMsgs := by
  cases event with
  | send party message wait ahead =>
      obtain rfl := Option.some.inj stepped
      exact maxMsgs_send _ _ _ _
  | resend party wait ahead =>
      obtain rfl := Option.some.inj stepped
      exact maxMsgs_send _ _ _ _
  | urgent party message =>
      obtain rfl := Option.some.inj stepped
      unfold QueueState.urgent
      split
      · rfl
      · split <;> rfl
  | recv party wait ahead =>
      obtain rfl := Option.some.inj stepped
      unfold QueueState.recv
      simp only
      split
      · split <;> rfl
      · split <;> rfl
  | proceed hold size =>
      obtain ⟨-, proceeded⟩ := Option.ite_none_right_eq_some.mp stepped
      obtain rfl := Option.some.inj proceeded
      obtain ⟨party, slot, stage⟩ := hold
      cases stage with
      | link message urgent =>
          obtain ⟨receivers, retrying, resumed, -⟩ := resumeReceiver_eq { state with
            queue := if urgent then state.queue.linkHead slot else state.queue.linkTail slot
            holds := state.holds.erase ⟨party, slot, .link message urgent⟩ }
          have same : state.proceed ⟨party, slot, .link message urgent⟩ size = _ := resumed
          rw [same]
          cases urgent <;> rfl
      | giveBack =>
          obtain ⟨senders, resending, resumed, -⟩ := resumeSender_eq { state with
            queue := state.queue.putFree slot
            holds := state.holds.erase ⟨party, slot, .giveBack⟩ }
          have same : state.proceed ⟨party, slot, .giveBack⟩ size = _ := resumed
          rw [same]
          rfl
      | write | copy => rfl
  | timeout party =>
      obtain rfl := Option.some.inj stepped
      rfl
  | reset =>
      obtain rfl := Option.some.inj stepped
      exact maxMsgs_releaseAll _ _

/-- `rt_mq_init` -/
def create (msgSize poolSize : Nat) : QueueState where
  queue := .init msgSize poolSize
  receivers := []
  retrying := []
  senders := []
  resending := []
  messages := fun _ => []
  holds := []
  given := []

theorem stocked_create (msgSize poolSize : Nat) :
    Stocked (create msgSize poolSize)
      (List.range (MessageQueue.init msgSize poolSize).maxMsgs).reverse [] where
  pooled := (pooled_init msgSize poolSize).1
  entry := (pooled_init msgSize poolSize).2.1
  small := (pooled_init msgSize poolSize).2.2
  entries := ⟨fun waits => absurd rfl waits, List.nodup_nil, List.nodup_nil,
    fun _ member => absurd member List.not_mem_nil⟩
  room := ⟨fun waits => absurd rfl waits, List.nodup_nil, List.nodup_nil,
    fun _ member => absurd member List.not_mem_nil⟩

theorem stocked_run {run : List QueueEvent} (stocked : Stocked state free sent)
    (allowed : Guarded step QueueState.allowed state run) :
    ∃ target free sent, exec step state run = some target ∧ Stocked target free sent ∧
      target.queue.maxMsgs = state.queue.maxMsgs := by
  induction run generalizing state free sent with
  | nil => exact ⟨state, free, sent, rfl, stocked, rfl⟩
  | cons event rest ih =>
      obtain ⟨middle, free, sent, stepped, kept, -⟩ := stocked.step allowed.1
      obtain ⟨target, free, sent, executed, last, same⟩ :=
        ih kept (guarded_cons_of_step allowed stepped).2
      refine ⟨target, free, sent, ?_, last, same.trans (maxMsgs_step stepped)⟩
      rw [exec_cons, stepped]
      exact executed

end QueueState

/-- In every interleaving of senders, urgent senders, receivers and interrupts every message of
the pool is free, or sent, or in the hands of one call, and of one only; a receiver sleeps while
messages are there only if a resumed one is on its way to each of them, and a sender sleeps
while messages are free only if a resumed one is on its way to each of them. -/
theorem messageQueue_run {msgSize poolSize : Nat} {run : List QueueEvent}
    (allowed : Guarded QueueState.step QueueState.allowed
      (QueueState.create msgSize poolSize) run) :
    ∃ target free sent,
      exec QueueState.step (QueueState.create msgSize poolSize) run = some target ∧
      Links target.queue.next target.queue.free free ∧
      Links target.queue.next target.queue.head sent ∧
      (free ++ sent ++ target.holds.map Hold.slot).Perm
        (List.range (MessageQueue.init msgSize poolSize).maxMsgs) ∧
      target.queue.entry = sent.length ∧
      (target.receivers ≠ [] → sent.length ≤ target.retrying.length) ∧
      (target.senders ≠ [] → free.length ≤ target.resending.length) := by
  obtain ⟨target, free, sent, executed, stocked, same⟩ :=
    QueueState.stocked_run (QueueState.stocked_create msgSize poolSize) allowed
  change target.queue.maxMsgs = (MessageQueue.init msgSize poolSize).maxMsgs at same
  refine ⟨target, free, sent, executed, stocked.pooled.freeLinks, stocked.pooled.sentLinks, ?_,
    stocked.entry, ?_, stocked.room.enough⟩
  · rw [← same]
    exact stocked.pooled.shares
  · rw [← stocked.entry]
    exact stocked.entries.enough

/-- A receiver waits, and an interrupt sends a message between the two parts of a thread's
`rt_mq_urgent`. -/
theorem messageQueue_run_concrete : ∃ target free sent,
    exec QueueState.step (QueueState.create 4 16)
      [.recv 1 true 0, .urgent 2 [7], .proceed ⟨2, 1, .write [7] true⟩ 0, .send 3 [8] false 0,
        .proceed ⟨3, 0, .write [8] false⟩ 0, .proceed ⟨3, 0, .link [8] false⟩ 0,
        .proceed ⟨2, 1, .link [7] true⟩ 0, .recv 1 true 0] = some target ∧
      Links target.queue.next target.queue.free free ∧
      Links target.queue.next target.queue.head sent ∧
      (free ++ sent ++ target.holds.map Hold.slot).Perm
        (List.range (MessageQueue.init 4 16).maxMsgs) ∧
      target.queue.entry = sent.length ∧
      (target.receivers ≠ [] → sent.length ≤ target.retrying.length) ∧
      (target.senders ≠ [] → free.length ≤ target.resending.length) :=
  messageQueue_run (by decide)

/-- In every reachable state every step is one of the queue: a message that is sent has the
contents that its sender gave, and what a receiver copies is the message that it took, whatever
other calls have done meanwhile. -/
theorem messageQueue_refines {msgSize poolSize : Nat} {run : List QueueEvent}
    {event : QueueEvent} {state target : QueueState}
    (allowed : Guarded QueueState.step QueueState.allowed
      (QueueState.create msgSize poolSize) (run ++ [event]))
    (executed : exec QueueState.step (QueueState.create msgSize poolSize) run = some state)
    (stepped : state.step event = some target) : state.Moves event target := by
  obtain ⟨reached, free, sent, ran, stocked, -⟩ :=
    QueueState.stocked_run (QueueState.stocked_create msgSize poolSize)
      (guarded_of_append allowed)
  obtain rfl : reached = state := Option.some.inj (ran.symm.trans executed)
  have here := guarded_iff_forall.mp allowed run event (List.prefix_refl _) reached executed
  obtain ⟨after, -, -, again, -, moves⟩ := stocked.step here
  obtain rfl : after = target := Option.some.inj (again.symm.trans stepped)
  exact moves

theorem messageQueue_refines_concrete : ∃ state target : QueueState,
    exec QueueState.step (QueueState.create 4 16)
      [.send 2 [7] false 0, .proceed ⟨2, 1, .write [7] false⟩ 0,
        .proceed ⟨2, 1, .link [7] false⟩ 0, .recv 1 true 0] = some state ∧
    state.step (.proceed ⟨1, 1, .copy [7, 0, 0, 0]⟩ 2) = some target ∧
    state.Moves (.proceed ⟨1, 1, .copy [7, 0, 0, 0]⟩ 2) target ∧ target.given = [[7, 0]] :=
  ⟨_, _, rfl, rfl, @messageQueue_refines 4 16
    [.send 2 [7] false 0, .proceed ⟨2, 1, .write [7] false⟩ 0,
      .proceed ⟨2, 1, .link [7] false⟩ 0, .recv 1 true 0] _ _ _ (by decide) rfl rfl, rfl⟩

end BerPiNbiot.Kernel
