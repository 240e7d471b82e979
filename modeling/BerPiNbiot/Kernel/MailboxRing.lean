import BerPiNbiot.Kernel.Mailbox
import BerPiNbiot.Ring.Core
import BerPiNbiot.Transition.Replies
import BerPiNbiot.Waiting.Core

/-!
# Mailboxes as rings with waiting threads

`rt_mb_send_wait` and `rt_mb_recv` on the ring of a mailbox and its two lists of suspended
threads.  What runs with interrupts disabled is one step, so that a thread which has been
woken may find that another one was faster.  Whether a waiting time is over, and how many
waiting threads are in front of a new one, are parts of the label: all of them with
`RT_IPC_FLAG_FIFO`, those of no lower priority with `RT_IPC_FLAG_PRIO`.

`Desk` is the mailbox as its users see it, a first-in first-out queue with the same replies.
-/

namespace BerPiNbiot.Kernel

open BerPiNbiot.Transition
open BerPiNbiot.Waiting

/-- `struct rt_mailbox`; its numbers have 16 bits. -/
structure MailboxRing (Word : Type) where
  pool : Nat → Word
  size : Nat
  entry : Nat
  inOffset : Nat
  outOffset : Nat
  receivers : List Nat
  senders : List Nat

/-- A mailbox with the threads that have been resumed in one of its two calls and have not
run again, and the values of the senders. -/
structure Post (Word : Type) where
  mailbox : MailboxRing Word
  retrying : List Nat
  resending : List Nat
  values : Nat → Word

/-- What a call returns, with the word of a receiver, unless it suspends its thread. -/
inductive PostReply (Word : Type) where
  | eok
  | mail (word : Word)
  | efull
  | etimeout
  | suspended
  deriving DecidableEq

variable {Word : Type}

namespace MailboxRing

/-- The offset after another one. -/
def advance (mailbox : MailboxRing Word) (offset : Nat) : Nat :=
  let next := (offset + 1) % 65536
  if mailbox.size ≤ next then 0 else next

/-- The words in the mailbox. -/
def contents (mailbox : MailboxRing Word) : List Word :=
  Ring.contents mailbox.pool mailbox.size mailbox.outOffset mailbox.entry

end MailboxRing

/-- The list of suspended threads with a new one behind some of them. -/
def behind (ahead : Nat) (thread : Nat) (queue : List Nat) : List Nat :=
  queue.take ahead ++ thread :: queue.drop ahead

namespace Post

/-- A waiting receiver is resumed. -/
def resumeReceiver (post : Post Word) : Post Word :=
  match post.mailbox.receivers with
  | [] => post
  | first :: rest =>
      { post with
        mailbox := { post.mailbox with receivers := rest }
        retrying := first :: post.retrying }

/-- A waiting sender is resumed. -/
def resumeSender (post : Post Word) : Post Word :=
  match post.mailbox.senders with
  | [] => post
  | first :: rest =>
      { post with
        mailbox := { post.mailbox with senders := rest }
        resending := first :: post.resending }

/-- `rt_mb_send_wait` from the point where the mailbox has room -/
def deliver (post : Post Word) (word : Word) : PostReply Word × Post Word :=
  let mailbox := post.mailbox
  (.eok, resumeReceiver { post with
    mailbox := { mailbox with
      pool := Function.update mailbox.pool mailbox.inOffset word
      inOffset := mailbox.advance mailbox.inOffset
      entry := (mailbox.entry + 1) % 65536 } })

/-- `rt_mb_recv` from the point where the mailbox has a word -/
def fetch (post : Post Word) : PostReply Word × Post Word :=
  let mailbox := post.mailbox
  (.mail (mailbox.pool mailbox.outOffset), resumeSender { post with
    mailbox := { mailbox with
      outOffset := mailbox.advance mailbox.outOffset
      entry := mailbox.entry - 1 } })

/-- `rt_mb_recv` of a thread, from its call or from where it has been resumed.  The flag says
that there is waiting time left. -/
def recv (post : Post Word) (thread : Nat) (wait : Bool) (ahead : Nat) :
    PostReply Word × Post Word :=
  let post := { post with retrying := post.retrying.erase thread }
  if post.mailbox.entry = 0 then
    if wait then
      (.suspended, { post with mailbox := { post.mailbox with
          receivers := behind ahead thread post.mailbox.receivers } })
    else (.etimeout, post)
  else post.fetch

/-- `rt_mb_send_wait` of a thread, from its call or from where it has been resumed. -/
def send (post : Post Word) (thread : Nat) (word : Word) (wait : Bool) (ahead : Nat) :
    PostReply Word × Post Word :=
  let post := { post with
    resending := post.resending.erase thread
    values := Function.update post.values thread word }
  if post.mailbox.entry = post.mailbox.size then
    if wait then
      (.suspended, { post with mailbox := { post.mailbox with
          senders := behind ahead thread post.mailbox.senders } })
    else (.efull, post)
  else post.deliver word

/-- `rt_mb_send` of an interrupt -/
def interruptSend (post : Post Word) (word : Word) : PostReply Word × Post Word :=
  if post.mailbox.entry = post.mailbox.size then (.efull, post) else post.deliver word

/-- The waiting time of a suspended thread is over. -/
def timeout (post : Post Word) (thread : Nat) : Post Word :=
  { post with mailbox := { post.mailbox with
      receivers := post.mailbox.receivers.erase thread
      senders := post.mailbox.senders.erase thread } }

/-- `rt_mb_control` with `RT_IPC_CMD_RESET` -/
def reset (post : Post Word) : Post Word :=
  { post with
    mailbox := { post.mailbox with
      receivers := []
      senders := []
      entry := 0
      inOffset := 0
      outOffset := 0 } }

end Post

/-- What threads and interrupts do with a mailbox. -/
inductive PostEvent (Word : Type) where
  | recv (thread : Nat) (wait : Bool) (ahead : Nat)
  | send (thread : Nat) (word : Word) (wait : Bool) (ahead : Nat)
  | resend (thread : Nat) (wait : Bool) (ahead : Nat)
  | interruptSend (word : Word)
  | timeout (thread : Nat)
  | reset

/-- One critical section, with what the call returns behind it.  A thread whose waiting time is
over returns `-RT_ETIMEOUT` when it runs. -/
def Post.serve : Service (Post Word) (PostEvent Word) (PostReply Word)
  | post, .recv thread wait ahead => some (post.recv thread wait ahead)
  | post, .send thread word wait ahead => some (post.send thread word wait ahead)
  | post, .resend thread wait ahead => some (post.send thread (post.values thread) wait ahead)
  | post, .interruptSend word => some (post.interruptSend word)
  | post, .timeout thread => some (.etimeout, post.timeout thread)
  | post, .reset => some (.eok, post.reset)

/-- One critical section. -/
def Post.step : Step (Post Word) (PostEvent Word) :=
  Post.serve.moves

/-- A thread is in one call at a time. -/
def Post.allowed (post : Post Word) : PostEvent Word → Prop
  | .recv thread _ _ => thread ∉ post.mailbox.receivers ∧ thread ∉ post.mailbox.senders ∧
      thread ∉ post.resending
  | .send thread _ _ _ => thread ∉ post.mailbox.receivers ∧ thread ∉ post.mailbox.senders ∧
      thread ∉ post.retrying ∧ thread ∉ post.resending
  | .resend thread _ _ => thread ∈ post.resending
  | .timeout thread => thread ∈ post.mailbox.receivers ∨ thread ∈ post.mailbox.senders
  | .interruptSend _ | .reset => True

instance (post : Post Word) : DecidablePred post.allowed
  | .recv .. | .send .. => inferInstanceAs (Decidable (_ ∧ _))
  | .resend thread _ _ => inferInstanceAs (Decidable (thread ∈ post.resending))
  | .timeout _ => inferInstanceAs (Decidable (_ ∨ _))
  | .interruptSend _ | .reset => inferInstanceAs (Decidable True)

/-! ## The queue that the users see -/

/-- A mailbox as a queue of words, with the word of the last send of every thread. -/
structure Desk (Word : Type) (size : Nat) where
  queue : Mailbox Word size
  values : Nat → Word

namespace Desk

variable {size : Nat}

/-- A word is sent. -/
def send (desk : Desk Word size) (word : Word) (wait : Bool) : PostReply Word × Desk Word size :=
  match rtMbSend word desk.queue with
  | (true, queue) => (.eok, { desk with queue })
  | (false, _) => (if wait then .suspended else .efull, desk)

/-- A word is asked for. -/
def recv (desk : Desk Word size) (wait : Bool) : PostReply Word × Desk Word size :=
  match rtMbRecv desk.queue with
  | some (word, queue) => (.mail word, { desk with queue })
  | none => (if wait then .suspended else .etimeout, desk)

/-- What an event does to the queue, and the reply to it. -/
def serve : Service (Desk Word size) (PostEvent Word) (PostReply Word)
  | desk, .recv _ wait _ => some (desk.recv wait)
  | desk, .send thread word wait _ =>
      some ({ desk with values := Function.update desk.values thread word }.send word wait)
  | desk, .resend thread wait _ => some (desk.send (desk.values thread) wait)
  | desk, .interruptSend word => some (desk.send word false)
  | desk, .timeout _ => some (.etimeout, desk)
  | desk, .reset => some (.eok, { desk with queue := rtMbCreate Word size })

/-- `rt_mb_create` -/
def create (size : Nat) (values : Nat → Word) : Desk Word size where
  queue := rtMbCreate Word size
  values := values

variable {desk : Desk Word size} {word : Word}

theorem send_of_full (full : desk.queue.words.length = size) (word : Word) (wait : Bool) :
    desk.send word wait = (if wait then .suspended else .efull, desk) := by
  unfold send
  rw [rtMbSend, dif_neg (Nat.not_lt_of_le (Nat.le_of_eq full.symm))]

theorem send_of_room (room : desk.queue.words.length < size) (word : Word) (wait : Bool) :
    ∃ queue, desk.send word wait = (.eok, { desk with queue }) ∧
      queue.words = desk.queue.words ++ [word] := by
  unfold send
  rw [rtMbSend, dif_pos room]
  exact ⟨_, rfl, rfl⟩

theorem recv_of_nil (empty : desk.queue.words = []) (wait : Bool) :
    desk.recv wait = (if wait then .suspended else .etimeout, desk) := by
  rcases desk with ⟨⟨words, bounded⟩, values⟩
  cases empty
  rfl

theorem recv_of_cons {rest : List Word} (first : desk.queue.words = word :: rest) (wait : Bool) :
    ∃ queue, desk.recv wait = (.mail word, { desk with queue }) ∧ queue.words = rest := by
  rcases desk with ⟨⟨words, bounded⟩, values⟩
  cases first
  exact ⟨_, rfl, rfl⟩

end Desk

/-! ## The invariant -/

namespace Post

/-- Words for the receivers. -/
def entries (post : Post Word) : Gate Nat :=
  ⟨post.mailbox.entry, post.mailbox.receivers, post.retrying⟩

/-- Places for the senders. -/
def room (post : Post Word) : Gate Nat :=
  ⟨post.mailbox.size - post.mailbox.entry, post.mailbox.senders, post.resending⟩

end Post

/-- The offsets and the number of words of a mailbox fit together. -/
structure Ringed (mailbox : MailboxRing Word) : Prop where
  small : mailbox.size < 65536
  bounded : mailbox.entry ≤ mailbox.size
  out : mailbox.outOffset % mailbox.size = mailbox.outOffset
  input : mailbox.inOffset = (mailbox.outOffset + mailbox.entry) % mailbox.size

theorem MailboxRing.advance_eq {mailbox : MailboxRing Word} (small : mailbox.size < 65536)
    {offset : Nat} (positive : 0 < mailbox.size) (inside : offset % mailbox.size = offset) :
    mailbox.advance offset = (offset + 1) % mailbox.size := by
  have bound : offset < mailbox.size := inside ▸ Nat.mod_lt _ positive
  have kept : (offset + 1) % 65536 = offset + 1 := Nat.mod_eq_of_lt (by omega)
  unfold advance
  simp only [kept]
  split
  · rw [show offset + 1 = mailbox.size by omega, Nat.mod_self]
  · rw [Nat.mod_eq_of_lt (by omega)]

/-- The ring is in order, and no wake-up is lost at either end of it. -/
structure Posted (post : Post Word) : Prop where
  ring : Ringed post.mailbox
  entries : post.entries.Prompt
  room : post.room.Prompt

namespace Ringed

variable {mailbox : MailboxRing Word}

/-- A word is stored. -/
theorem put (ring : Ringed mailbox) (space : mailbox.entry < mailbox.size) (word : Word)
    (receivers senders : List Nat) :
    Ringed { mailbox with
      pool := Function.update mailbox.pool mailbox.inOffset word
      inOffset := mailbox.advance mailbox.inOffset
      entry := mailbox.entry + 1
      receivers := receivers
      senders := senders } ∧
    Ring.contents (Function.update mailbox.pool mailbox.inOffset word) mailbox.size
      mailbox.outOffset (mailbox.entry + 1) = mailbox.contents ++ [word] := by
  have positive : 0 < mailbox.size := Nat.lt_of_le_of_lt (Nat.zero_le _) space
  have inside : mailbox.inOffset % mailbox.size = mailbox.inOffset := by
    rw [ring.input, Nat.mod_mod]
  refine ⟨⟨ring.small, space, ring.out, ?_⟩, ?_⟩
  · change mailbox.advance mailbox.inOffset = _
    rw [MailboxRing.advance_eq ring.small positive inside, ring.input, Nat.mod_add_mod,
      Nat.add_assoc]
  · rw [ring.input]
    exact Ring.contents_concat space word

/-- A word is fetched. -/
theorem get (ring : Ringed mailbox) (some_word : 0 < mailbox.entry)
    (receivers senders : List Nat) :
    Ringed { mailbox with
      outOffset := mailbox.advance mailbox.outOffset
      entry := mailbox.entry - 1
      receivers := receivers
      senders := senders } ∧
    mailbox.contents = mailbox.pool mailbox.outOffset ::
      Ring.contents mailbox.pool mailbox.size (mailbox.advance mailbox.outOffset)
        (mailbox.entry - 1) := by
  have positive : 0 < mailbox.size := Nat.lt_of_lt_of_le some_word ring.bounded
  have next := MailboxRing.advance_eq ring.small positive ring.out
  refine ⟨⟨ring.small, Nat.le_trans (Nat.sub_le _ _) ring.bounded, ?_, ?_⟩, ?_⟩
  · change mailbox.advance mailbox.outOffset % mailbox.size = mailbox.advance mailbox.outOffset
    rw [next, Nat.mod_mod]
  · change mailbox.inOffset = (mailbox.advance mailbox.outOffset + (mailbox.entry - 1)) %
      mailbox.size
    rw [next, Nat.mod_add_mod, ring.input]
    congr 1
    omega
  · rw [next, Ring.contents_mod]
    have split : mailbox.entry = mailbox.entry - 1 + 1 := by omega
    unfold MailboxRing.contents
    rw [split, Ring.contents_succ, ring.out, ← split]

end Ringed

/-- A mailbox in order that holds the words of the queue. -/
structure Holds {size : Nat} (post : Post Word) (desk : Desk Word size) : Prop where
  posted : Posted post
  size : post.mailbox.size = size
  contents : post.mailbox.contents = desk.queue.words
  values : post.values = desk.values

/-! ## Critical sections -/

namespace Posted

variable {post : Post Word} {thread : Nat}

theorem nodup_behind {ahead : Nat} {queue : List Nat} (absent : thread ∉ queue)
    (once : queue.Nodup) : (behind ahead thread queue).Nodup := by
  have perm : (behind ahead thread queue).Perm (thread :: queue) := by
    unfold behind
    refine List.perm_middle.trans ?_
    rw [List.take_append_drop]
  exact perm.nodup_iff.mpr (List.nodup_cons.mpr ⟨absent, once⟩)

theorem mem_behind {ahead other : Nat} {queue : List Nat}
    (member : other ∈ behind ahead thread queue) : other = thread ∨ other ∈ queue := by
  unfold behind at member
  rcases List.mem_append.mp member with before | after
  · exact Or.inr (List.mem_of_mem_take before)
  · exact (List.mem_cons.mp after).imp_right List.mem_of_mem_drop

/-- The resumption of a thread gives a unit to its gate. -/
theorem resumeReceiver_eq (post : Post Word) : ∃ receivers retrying,
    post.resumeReceiver = { post with
      mailbox := { post.mailbox with receivers := receivers }
      retrying := retrying } ∧
    ∀ units, Gate.give ⟨units, post.mailbox.receivers, post.retrying⟩ =
      ⟨units + 1, receivers, retrying⟩ := by
  rcases post with ⟨⟨pool, size, entry, input, out, receivers, senders⟩, retrying, resending,
    values⟩
  cases receivers with
  | nil => exact ⟨[], retrying, rfl, fun _ => rfl⟩
  | cons first rest => exact ⟨rest, first :: retrying, rfl, fun _ => rfl⟩

theorem resumeSender_eq (post : Post Word) : ∃ senders resending,
    post.resumeSender = { post with
      mailbox := { post.mailbox with senders := senders }
      resending := resending } ∧
    ∀ units, Gate.give ⟨units, post.mailbox.senders, post.resending⟩ =
      ⟨units + 1, senders, resending⟩ := by
  rcases post with ⟨⟨pool, size, entry, input, out, receivers, senders⟩, retrying, resending,
    values⟩
  cases senders with
  | nil => exact ⟨[], resending, rfl, fun _ => rfl⟩
  | cons first rest => exact ⟨rest, first :: resending, rfl, fun _ => rfl⟩

theorem length_contents (post : Post Word) :
    post.mailbox.contents.length = post.mailbox.entry :=
  Ring.length_contents

/-- A word comes in. -/
theorem deliver (ring : Ringed post.mailbox) (entries : post.entries.Prompt)
    (space : post.mailbox.entry < post.mailbox.size) (word : Word)
    (room : Gate.Prompt ⟨post.mailbox.size - post.mailbox.entry - 1, post.mailbox.senders,
      post.resending⟩) :
    ∃ target, post.deliver word = (.eok, target) ∧ Posted target ∧
      target.mailbox.contents = post.mailbox.contents ++ [word] ∧
      target.mailbox.size = post.mailbox.size ∧ target.values = post.values := by
  have small := ring.small
  have counted : (post.mailbox.entry + 1) % 65536 = post.mailbox.entry + 1 :=
    Nat.mod_eq_of_lt (by omega)
  obtain ⟨receivers, retrying, resumed, gives⟩ := resumeReceiver_eq { post with
    mailbox := { post.mailbox with
      pool := Function.update post.mailbox.pool post.mailbox.inOffset word
      inOffset := post.mailbox.advance post.mailbox.inOffset
      entry := post.mailbox.entry + 1 } }
  obtain ⟨after, contents⟩ := ring.put space word receivers post.mailbox.senders
  have gave := entries.give
  rw [Post.entries, gives] at gave
  unfold Post.deliver
  simp only [counted]
  rw [resumed]
  exact ⟨_, rfl, ⟨after, gave, room⟩, contents, rfl, rfl⟩

/-- A word goes out, to a thread that may have been resumed for it. -/
theorem fetch (posted : Posted post) (some_word : 0 < post.mailbox.entry) (thread : Nat) :
    ∃ word target,
      Post.fetch { post with retrying := post.retrying.erase thread } = (.mail word, target) ∧
      Posted target ∧ post.mailbox.contents = word :: target.mailbox.contents ∧
      target.mailbox.size = post.mailbox.size ∧ target.values = post.values := by
  obtain ⟨senders, resending, resumed, gives⟩ := resumeSender_eq { post with
    mailbox := { post.mailbox with
      outOffset := post.mailbox.advance post.mailbox.outOffset
      entry := post.mailbox.entry - 1 }
    retrying := post.retrying.erase thread }
  obtain ⟨ring, contents⟩ := posted.ring.get some_word post.mailbox.receivers senders
  have room := posted.room.give
  rw [Post.room, gives] at room
  have entries : (post.entries.take thread).Prompt := posted.entries.take some_word
  have bounded := posted.ring.bounded
  unfold Post.fetch
  simp only
  rw [resumed]
  refine ⟨_, _, rfl, ⟨ring, entries, ?_⟩, contents, rfl, rfl⟩
  unfold Post.room
  rw [show post.mailbox.size - (post.mailbox.entry - 1) =
    post.mailbox.size - post.mailbox.entry + 1 by omega]
  exact room

end Posted

namespace Holds

variable {size : Nat} {post : Post Word} {desk : Desk Word size} {thread : Nat}

theorem length_words (holds : Holds post desk) :
    desk.queue.words.length = post.mailbox.entry := by
  rw [← holds.contents, Posted.length_contents]

/-- A change of the lists of threads alone. -/
theorem of_lists (holds : Holds post desk) {target : Post Word}
    (ring : target.mailbox.pool = post.mailbox.pool ∧ target.mailbox.size = post.mailbox.size ∧
      target.mailbox.entry = post.mailbox.entry ∧
      target.mailbox.inOffset = post.mailbox.inOffset ∧
      target.mailbox.outOffset = post.mailbox.outOffset)
    (values : target.values = post.values)
    (entries : target.entries.Prompt) (room : target.room.Prompt) : Holds target desk := by
  obtain ⟨pool, size, entry, input, out⟩ := ring
  have before := holds.posted.ring
  refine ⟨⟨⟨?_, ?_, ?_, ?_⟩, entries, room⟩, size.trans holds.size, ?_,
    values.trans holds.values⟩
  · rw [size]
    exact before.small
  · rw [entry, size]
    exact before.bounded
  · rw [out, size]
    exact before.out
  · rw [input, out, entry, size]
    exact before.input
  · rw [← holds.contents]
    unfold MailboxRing.contents
    rw [pool, size, entry, out]

theorem recv (holds : Holds post desk) (wait : Bool) (ahead : Nat)
    (absent : thread ∉ post.mailbox.receivers) :
    ∃ reply target counter, post.recv thread wait ahead = (reply, target) ∧
      desk.recv wait = (reply, counter) ∧ Holds target counter := by
  have posted := holds.posted
  unfold Post.recv
  simp only
  by_cases empty : post.mailbox.entry = 0
  · have none_left : desk.queue.words = [] := by
      rw [← List.length_eq_zero_iff, holds.length_words, empty]
    rw [if_pos empty, Desk.recv_of_nil none_left]
    cases wait with
    | true =>
        exact ⟨_, _, _, rfl, rfl, holds.of_lists ⟨rfl, rfl, rfl, rfl, rfl⟩ rfl
          (posted.entries.wait empty (Posted.nodup_behind absent posted.entries.once)
            fun _ member => Posted.mem_behind member) posted.room⟩
    | false =>
        exact ⟨_, _, _, rfl, rfl, holds.of_lists ⟨rfl, rfl, rfl, rfl, rfl⟩ rfl
          (posted.entries.resign empty) posted.room⟩
  · rw [if_neg empty]
    obtain ⟨word, target, fetched, kept, contents, size, values⟩ :=
      posted.fetch (Nat.pos_of_ne_zero empty) thread
    obtain ⟨queue, received, rest⟩ := Desk.recv_of_cons (holds.contents.symm.trans contents) wait
    exact ⟨_, _, _, fetched, received, kept, size.trans holds.size, rest.symm,
      values.trans holds.values⟩

/-- A word that finds room, from a thread that may have been resumed for it. -/
theorem deliver (holds : Holds post desk) (space : post.mailbox.entry < post.mailbox.size)
    (word : Word) (wait : Bool) {resending : List Nat}
    (room : Gate.Prompt ⟨post.mailbox.size - post.mailbox.entry - 1, post.mailbox.senders,
      resending⟩) :
    ∃ reply target counter, Post.deliver { post with resending } word = (reply, target) ∧
      desk.send word wait = (reply, counter) ∧ Holds target counter := by
  obtain ⟨target, delivered, kept, contents, same, values⟩ :=
    @Posted.deliver _ { post with resending } holds.posted.ring holds.posted.entries space word
      room
  have left : desk.queue.words.length < size := by
    rw [holds.length_words, ← holds.size]
    exact space
  obtain ⟨queue, sent, more⟩ := Desk.send_of_room left word wait
  refine ⟨_, _, _, delivered, sent, kept, same.trans holds.size, ?_, values.trans holds.values⟩
  rw [contents, holds.contents]
  exact more.symm

theorem send (holds : Holds post desk) (word : Word) (wait : Bool) (ahead : Nat)
    (absent : thread ∉ post.mailbox.senders) :
    ∃ reply target counter, post.send thread word wait ahead = (reply, target) ∧
      { desk with values := Function.update desk.values thread word }.send word wait =
        (reply, counter) ∧ Holds target counter := by
  have posted := holds.posted
  have bounded := posted.ring.bounded
  have noted : Holds { post with values := Function.update post.values thread word }
      { desk with values := Function.update desk.values thread word } :=
    ⟨⟨posted.ring, posted.entries, posted.room⟩, holds.size, holds.contents, by
      rw [holds.values]⟩
  unfold Post.send
  simp only
  by_cases full : post.mailbox.entry = post.mailbox.size
  · have none_left : post.room.units = 0 := by
      change post.mailbox.size - post.mailbox.entry = 0
      omega
    rw [if_pos full, Desk.send_of_full (by
      rw [noted.length_words, ← holds.size]
      exact full)]
    cases wait with
    | true =>
        exact ⟨_, _, _, rfl, rfl, noted.of_lists ⟨rfl, rfl, rfl, rfl, rfl⟩ rfl posted.entries
          (posted.room.wait none_left (Posted.nodup_behind absent posted.room.once)
            fun _ member => Posted.mem_behind member)⟩
    | false =>
        exact ⟨_, _, _, rfl, rfl, noted.of_lists ⟨rfl, rfl, rfl, rfl, rfl⟩ rfl posted.entries
          (posted.room.resign none_left)⟩
  · rw [if_neg full]
    have space : post.mailbox.entry < post.mailbox.size := by omega
    exact noted.deliver space word wait (posted.room.take (Nat.sub_pos_of_lt space))

theorem interruptSend (holds : Holds post desk) (word : Word) :
    ∃ reply target counter, post.interruptSend word = (reply, target) ∧
      desk.send word false = (reply, counter) ∧ Holds target counter := by
  have bounded := holds.posted.ring.bounded
  unfold Post.interruptSend
  by_cases full : post.mailbox.entry = post.mailbox.size
  · rw [if_pos full, Desk.send_of_full (by
      rw [holds.length_words, ← holds.size]
      exact full)]
    exact ⟨_, _, _, rfl, rfl, holds⟩
  · rw [if_neg full]
    exact holds.deliver (by omega) word false (holds.posted.room.fewer (Nat.sub_le _ _))

/-- Every event is answered as by the queue. -/
theorem implements : Post.serve.Implements Post.allowed Desk.serve (@Holds Word size) := by
  intro post desk event holds allowed
  have posted := holds.posted
  have served {low : PostReply Word × Post Word} {high : PostReply Word × Desk Word size}
      (alike : ∃ reply target counter, low = (reply, target) ∧ high = (reply, counter) ∧
        Holds target counter) :
      ∃ reply target counter, some low = some (reply, target) ∧ some high = some (reply, counter) ∧
        Holds target counter := by
    obtain ⟨reply, target, counter, rfl, rfl, still⟩ := alike
    exact ⟨reply, target, counter, rfl, rfl, still⟩
  cases event with
  | recv thread wait ahead => exact served (holds.recv wait ahead allowed.1)
  | send thread word wait ahead => exact served (holds.send word wait ahead allowed.2.1)
  | resend thread wait ahead =>
      have absent : thread ∉ post.mailbox.senders := fun waits =>
        posted.room.apart thread waits allowed
      obtain ⟨reply, target, counter, sent, replied, still⟩ :=
        holds.send (desk.values thread) wait ahead absent
      rw [Function.update_eq_self] at replied
      rw [← holds.values] at sent
      exact ⟨reply, target, counter, congrArg some sent, congrArg some replied, still⟩
  | interruptSend word => exact served (holds.interruptSend word)
  | timeout thread =>
      exact ⟨_, _, _, rfl, rfl, holds.of_lists ⟨rfl, rfl, rfl, rfl, rfl⟩ rfl
        posted.entries.leave posted.room.leave⟩
  | reset =>
      refine ⟨_, _, _, rfl, rfl, ⟨⟨posted.ring.small, Nat.zero_le _, Nat.zero_mod _,
        (Nat.zero_mod _).symm⟩, posted.entries.clear 0, posted.room.clear _⟩, holds.size, rfl,
        holds.values⟩

end Holds

/-! ## Runs -/

/-- `rt_mb_create` or `rt_mb_init`, which store the size in 16 bits -/
def Post.create (pool : Nat → Word) (size : Nat) (values : Nat → Word) : Post Word where
  mailbox := ⟨pool, size % 65536, 0, 0, 0, [], []⟩
  retrying := []
  resending := []
  values := values

theorem holds_create (pool : Nat → Word) (size : Nat) (values : Nat → Word) :
    Holds (Post.create pool size values) (Desk.create (size % 65536) values) where
  posted :=
    { ring := ⟨Nat.mod_lt _ (Nat.succ_pos _), Nat.zero_le _, Nat.zero_mod _,
        (Nat.zero_mod _).symm⟩
      entries := ⟨fun waits => absurd rfl waits, List.nodup_nil, List.nodup_nil,
        fun _ member => absurd member List.not_mem_nil⟩
      room := ⟨fun waits => absurd rfl waits, List.nodup_nil, List.nodup_nil,
        fun _ member => absurd member List.not_mem_nil⟩ }
  size := rfl
  contents := rfl
  values := rfl

/-- In every interleaving of senders, receivers and interrupts the calls on the ring return what
they would return on the first-in first-out queue, and the ring holds the words of the queue. -/
theorem mailbox_refines {pool : Nat → Word} {size : Nat} {values : Nat → Word}
    {run : List (PostEvent Word)}
    (allowed : Guarded Post.step Post.allowed (Post.create pool size values) run) :
    ∃ target desk, exec Post.step (Post.create pool size values) run = some target ∧
      exec Desk.serve.moves (Desk.create (size % 65536) values) run = some desk ∧
      target.mailbox.contents = desk.queue.words ∧
      Post.serve.transcript (Post.create pool size values) run =
        Desk.serve.transcript (Desk.create (size % 65536) values) run := by
  obtain ⟨target, desk, executed, finished, holds, same⟩ :=
    Holds.implements.transcript_eq (holds_create pool size values) allowed
  exact ⟨target, desk, executed, finished, holds.contents, same⟩

/-- A sender waits until a receiver has made room. -/
theorem mailbox_refines_concrete : ∃ (target : Post Nat) (desk : Desk Nat (1 % 65536)),
    exec Post.step (Post.create (fun _ => 0) 1 fun _ => 0)
      [.send 1 7 true 0, .send 2 8 true 0, .recv 3 false 0, .resend 2 true 0] = some target ∧
    exec Desk.serve.moves (Desk.create (1 % 65536) fun _ => 0)
      [.send 1 7 true 0, .send 2 8 true 0, .recv 3 false 0, .resend 2 true 0] = some desk ∧
    target.mailbox.contents = desk.queue.words ∧
    Post.serve.transcript (Post.create (fun _ => 0) 1 fun _ => 0)
        [.send 1 7 true 0, .send 2 8 true 0, .recv 3 false 0, .resend 2 true 0] =
      Desk.serve.transcript (Desk.create (1 % 65536) fun _ => 0)
        [.send 1 7 true 0, .send 2 8 true 0, .recv 3 false 0, .resend 2 true 0] :=
  mailbox_refines (by decide)

/-! ## Accounts -/

/-- The words that the calls have taken in and given out since the last reset, and the word of the
last send of every thread. -/
structure Books (Word : Type) where
  values : Nat → Word
  sent : List Word
  received : List Word

namespace Books

/-- A call with a word has returned. -/
def credit (books : Books Word) (word : Word) : PostReply Word → Books Word
  | .eok => { books with sent := books.sent ++ [word] }
  | _ => books

/-- The books behind an event and the reply to it. -/
def enter (books : Books Word) : PostEvent Word × PostReply Word → Books Word
  | (.send thread word _ _, reply) =>
      { books with values := Function.update books.values thread word }.credit word reply
  | (.resend thread _ _, reply) => books.credit (books.values thread) reply
  | (.interruptSend word, reply) => books.credit word reply
  | (.recv .., .mail word) => { books with received := books.received ++ [word] }
  | (.reset, _) => { books with sent := books.received }
  | _ => books

/-- The words that have been taken in and not given out are in the queue. -/
structure Balanced {size : Nat} (books : Books Word) (desk : Desk Word size) : Prop where
  values : books.values = desk.values
  order : books.sent = books.received ++ desk.queue.words

variable {size : Nat} {books : Books Word} {desk : Desk Word size}

theorem Balanced.send (balanced : Balanced books desk) (word : Word) (wait : Bool) :
    ∃ reply counter, desk.send word wait = (reply, counter) ∧
      Balanced (books.credit word reply) counter := by
  rcases Nat.lt_or_eq_of_le desk.queue.bounded with room | full
  · obtain ⟨queue, sent, words⟩ := Desk.send_of_room room word wait
    refine ⟨_, _, sent, balanced.values, ?_⟩
    change books.sent ++ [word] = books.received ++ queue.words
    rw [words, balanced.order, List.append_assoc]
  · rw [Desk.send_of_full full]
    cases wait <;> exact ⟨_, _, rfl, balanced.values, balanced.order⟩

theorem Balanced.recv (balanced : Balanced books desk) (thread : Nat) (wait : Bool) (ahead : Nat) :
    ∃ reply counter, desk.recv wait = (reply, counter) ∧
      Balanced (books.enter (.recv thread wait ahead, reply)) counter := by
  cases first : desk.queue.words with
  | nil =>
      rw [Desk.recv_of_nil first]
      cases wait <;> exact ⟨_, _, rfl, balanced.values, balanced.order⟩
  | cons word rest =>
      obtain ⟨queue, received, words⟩ := Desk.recv_of_cons first wait
      refine ⟨_, _, received, balanced.values, ?_⟩
      change books.sent = books.received ++ [word] ++ queue.words
      rw [balanced.order, first, words, List.append_assoc]
      rfl

/-- Every event keeps the balance. -/
theorem Balanced.serve (balanced : Balanced books desk) (event : PostEvent Word) :
    ∃ reply target, Desk.serve desk event = some (reply, target) ∧
      Balanced (books.enter (event, reply)) target := by
  cases event with
  | recv thread wait ahead =>
      obtain ⟨reply, counter, received, kept⟩ := balanced.recv thread wait ahead
      exact ⟨reply, counter, congrArg some received, kept⟩
  | send thread word wait ahead =>
      have noted : Balanced { books with values := Function.update books.values thread word }
          { desk with values := Function.update desk.values thread word } :=
        ⟨by rw [balanced.values], balanced.order⟩
      obtain ⟨reply, counter, sent, kept⟩ := noted.send word wait
      exact ⟨reply, counter, congrArg some sent, kept⟩
  | resend thread wait ahead =>
      obtain ⟨reply, counter, sent, kept⟩ := balanced.send (desk.values thread) wait
      refine ⟨reply, counter, congrArg some sent, ?_⟩
      rw [← balanced.values] at kept
      exact kept
  | interruptSend word =>
      obtain ⟨reply, counter, sent, kept⟩ := balanced.send word false
      exact ⟨reply, counter, congrArg some sent, kept⟩
  | timeout thread => exact ⟨_, _, rfl, balanced.values, balanced.order⟩
  | reset => exact ⟨_, _, rfl, balanced.values, (List.append_nil _).symm⟩

/-- The books of a transcript. -/
def ofTranscript (values : Nat → Word)
    (transcript : List (PostEvent Word × PostReply Word)) : Books Word :=
  transcript.foldl enter ⟨values, [], []⟩

/-- Behind every run the books are balanced. -/
theorem balanced_run (size : Nat) (values : Nat → Word) (run : List (PostEvent Word)) :
    ∃ desk, exec Desk.serve.moves (Desk.create size values) run = some desk ∧
      Balanced (ofTranscript values (Desk.serve.transcript (Desk.create size values) run)) desk :=
  @Service.account _ _ _ _ Desk.serve (fun _ _ => True) enter Balanced
    (fun _ _ event balanced _ => balanced.serve event) ⟨values, [], []⟩ _ run ⟨rfl, rfl⟩
    (guarded_of_forall _ fun _ _ _ => trivial)

end Books

/-- In every interleaving of senders, receivers and interrupts the words with which calls return
come out once each and in the order in which they went in, no more than fit; a receiver sleeps
while there are words only if a resumed one is on its way to each of them, and a sender sleeps
while there is room only if a resumed one is on its way to each place. -/
theorem mailbox_run {pool : Nat → Word} {size : Nat} {values : Nat → Word}
    {run : List (PostEvent Word)}
    (allowed : Guarded Post.step Post.allowed (Post.create pool size values) run) :
    ∃ target books, exec Post.step (Post.create pool size values) run = some target ∧
      books = Books.ofTranscript values
        (Post.serve.transcript (Post.create pool size values) run) ∧
      books.sent = books.received ++ target.mailbox.contents ∧
      target.mailbox.contents.length ≤ size % 65536 ∧
      (target.mailbox.receivers ≠ [] →
        target.mailbox.contents.length ≤ target.retrying.length) ∧
      (target.mailbox.senders ≠ [] →
        size % 65536 - target.mailbox.contents.length ≤ target.resending.length) := by
  obtain ⟨target, desk, executed, finished, holds, same⟩ :=
    Holds.implements.transcript_eq (holds_create pool size values) allowed
  obtain ⟨counter, again, balanced⟩ := Books.balanced_run (size % 65536) values run
  obtain rfl : counter = desk := Option.some.inj (again.symm.trans finished)
  refine ⟨target, _, executed, rfl, ?_, ?_, ?_, ?_⟩
  · rw [same, holds.contents]
    exact balanced.order
  · rw [holds.contents]
    exact counter.queue.bounded
  · rw [Posted.length_contents]
    exact holds.posted.entries.enough
  · rw [Posted.length_contents, ← holds.size]
    exact holds.posted.room.enough

/-- Two receivers wait, two words come from an interrupt, and a third receiver is faster than the
second one. -/
theorem mailbox_run_concrete : ∃ (target : Post Nat) (books : Books Nat),
    exec Post.step (Post.create (fun _ => 0) 2 fun _ => 0)
      [.recv 1 true 0, .recv 2 true 1, .interruptSend 7, .interruptSend 8, .recv 1 true 0,
        .recv 3 true 0] = some target ∧
    books = Books.ofTranscript (fun _ => 0) (Post.serve.transcript
      (Post.create (fun _ => 0) 2 fun _ => 0)
      [.recv 1 true 0, .recv 2 true 1, .interruptSend 7, .interruptSend 8, .recv 1 true 0,
        .recv 3 true 0]) ∧
    books.sent = books.received ++ target.mailbox.contents ∧
    target.mailbox.contents.length ≤ 2 % 65536 ∧
    (target.mailbox.receivers ≠ [] → target.mailbox.contents.length ≤ target.retrying.length) ∧
    (target.mailbox.senders ≠ [] →
      2 % 65536 - target.mailbox.contents.length ≤ target.resending.length) :=
  mailbox_run (by decide)

end BerPiNbiot.Kernel
