import BerPiNbiot.Linked.Core

/-!
# The pool of a message queue

The messages of a queue are linked in two lists, those that have been sent and those that are
free.  A call takes a message out of one list with interrupts disabled, copies its contents
with interrupts enabled, and puts it into the other list with interrupts disabled again.
Meanwhile the message belongs to the call alone.

Messages are numbered in the order of their addresses.
-/

namespace BerPiNbiot.Kernel

open BerPiNbiot.Linked

/-- `struct rt_messagequeue` without its suspended threads, with the link and the contents of
every message of its pool; its numbers have 16 bits. -/
structure MessageQueue where
  msgSize : Nat
  maxMsgs : Nat
  next : Nat → Option Nat
  body : Nat → List UInt8
  head : Option Nat
  tail : Option Nat
  free : Option Nat
  entry : Nat

namespace MessageQueue

variable (queue : MessageQueue) (slot : Nat)

/-- The first free message is taken. -/
def takeFree : MessageQueue :=
  { queue with free := queue.next slot }

/-- A message is filled by `rt_mq_send_wait` or `rt_mq_urgent`. -/
def write (message : List UInt8) (urgent : Bool) : MessageQueue :=
  { queue with
    next := if urgent then queue.next else Function.update queue.next slot none
    body := Function.update queue.body slot
      (message ++ (queue.body slot).drop message.length) }

/-- The end of `rt_mq_send_wait` -/
def linkTail : MessageQueue :=
  { queue with
    next := match queue.tail with
      | some last => Function.update queue.next last (some slot)
      | none => queue.next
    tail := some slot
    head := if queue.head = none then some slot else queue.head
    entry := (queue.entry + 1) % 65536 }

/-- The end of `rt_mq_urgent` -/
def linkHead : MessageQueue :=
  { queue with
    next := Function.update queue.next slot queue.head
    head := some slot
    tail := if queue.tail = none then some slot else queue.tail
    entry := (queue.entry + 1) % 65536 }

/-- The first message leaves the queue. -/
def unlinkHead : MessageQueue :=
  { queue with
    head := queue.next slot
    tail := if queue.tail = some slot then none else queue.tail }

/-- A message becomes free. -/
def putFree : MessageQueue :=
  { queue with next := Function.update queue.next slot queue.free, free := some slot }

/-- The loop of `rt_mq_control` with `RT_IPC_CMD_RESET`, with a bound on its rounds -/
def releaseAll : Nat → MessageQueue → MessageQueue
  | 0, queue => queue
  | rounds + 1, queue =>
      match queue.head with
      | none => queue
      | some slot => releaseAll rounds ((queue.unlinkHead slot).putFree slot)

/-- The pool before its messages are linked. -/
def unlinked (msgSize maxMsgs : Nat) : MessageQueue where
  msgSize := msgSize
  maxMsgs := maxMsgs
  next := fun _ => none
  body := fun _ => List.replicate msgSize 0
  head := none
  tail := none
  free := none
  entry := 0

/-- `rt_mq_init`; a message has a link of four bytes, and sizes are rounded up to whole words
and stored in 16 bits. -/
def init (msgSize poolSize : Nat) : MessageQueue :=
  let msgSize := (msgSize + 3) / 4 * 4 % 65536
  let maxMsgs := poolSize / (msgSize + 4) % 65536
  (List.range maxMsgs).foldl putFree (unlinked msgSize maxMsgs)

/-- The contents of the messages that have been sent. -/
def contents : List (List UInt8) :=
  (walk queue.next queue.entry queue.head).map queue.body

end MessageQueue

/-! ## Calls between their critical sections -/

/-- What a call does next with its message.  The contents at the time when a receiver took the
message are kept for comparison. -/
inductive Stage where
  | write (message : List UInt8) (urgent : Bool)
  | link (message : List UInt8) (urgent : Bool)
  | copy (value : List UInt8)
  | giveBack
  deriving DecidableEq

/-- A message in the hands of a call. -/
structure Hold where
  party : Nat
  slot : Nat
  stage : Stage
  deriving DecidableEq

/-- What a call relies on. -/
def Hold.Ready (queue : MessageQueue) (hold : Hold) : Prop :=
  match hold.stage with
  | .write message _ => message.length ≤ queue.msgSize
  | .link message urgent =>
      (urgent = false → queue.next hold.slot = none) ∧ message <+: queue.body hold.slot
  | .copy value => queue.body hold.slot = value
  | .giveBack => True

/-- The two lists and the calls share the pool among them. -/
structure Pooled (queue : MessageQueue) (free sent : List Nat) (holds : List Hold) : Prop where
  freeLinks : Links queue.next queue.free free
  sentLinks : Links queue.next queue.head sent
  tail : queue.tail = sent.getLast?
  shares : (free ++ sent ++ holds.map Hold.slot).Perm (List.range queue.maxMsgs)
  ready : ∀ hold ∈ holds, hold.Ready queue
  sized : ∀ slot, (queue.body slot).length = queue.msgSize

/-! ## The operations -/

theorem Hold.Ready.frame {queue target : MessageQueue} {hold : Hold} (ready : hold.Ready queue)
    (next : target.next hold.slot = queue.next hold.slot)
    (body : target.body hold.slot = queue.body hold.slot)
    (size : target.msgSize = queue.msgSize) : hold.Ready target := by
  unfold Hold.Ready at ready ⊢
  rw [next, body, size]
  exact ready

namespace Pooled

variable {queue : MessageQueue} {free sent : List Nat} {holds : List Hold} {hold : Hold}
  {slot party : Nat}

theorem once (pooled : Pooled queue free sent holds) :
    (free ++ sent ++ holds.map Hold.slot).Nodup :=
  pooled.shares.nodup_iff.mpr List.nodup_range

/-- A message in the hands of a call is in neither list, and in no other hands. -/
theorem apart (pooled : Pooled queue free sent holds) (member : hold ∈ holds) :
    hold.slot ∉ free ∧ hold.slot ∉ sent ∧ ∀ other ∈ holds.erase hold, other.slot ≠ hold.slot := by
  have once := pooled.once
  have perm := (List.perm_cons_erase member).map Hold.slot
  rw [List.map_cons] at perm
  rw [List.nodup_append, perm.nodup_iff, List.nodup_cons] at once
  obtain ⟨-, ⟨alone, -⟩, lists⟩ := once
  have here : hold.slot ∈ holds.map Hold.slot := List.mem_map_of_mem member
  refine ⟨fun inside => ?_, fun inside => ?_, fun other found same => alone ?_⟩
  · exact lists _ (List.mem_append_left _ inside) _ here rfl
  · exact lists _ (List.mem_append_right _ inside) _ here rfl
  · rw [← same]
    exact List.mem_map_of_mem found

/-- The messages of the lists are in nobody's hands. -/
theorem listed (pooled : Pooled queue free sent holds) (inside : slot ∈ free ++ sent) :
    ∀ hold ∈ holds, hold.slot ≠ slot := by
  intro hold member same
  obtain ⟨notFree, notSent, -⟩ := pooled.apart member
  rw [same] at notFree notSent
  exact (List.mem_append.mp inside).elim notFree notSent

theorem contents (pooled : Pooled queue free sent holds) (entry : queue.entry = sent.length) :
    queue.contents = sent.map queue.body := by
  rw [MessageQueue.contents, entry, pooled.sentLinks.walk]

/-- A call takes a free message. -/
theorem takeFree (pooled : Pooled queue (slot :: free) sent holds) {stage : Stage}
    (ready : Hold.Ready queue ⟨party, slot, stage⟩) :
    Pooled (queue.takeFree slot) free sent (⟨party, slot, stage⟩ :: holds) where
  freeLinks := pooled.freeLinks.2
  sentLinks := pooled.sentLinks
  tail := pooled.tail
  shares := by
    refine List.Perm.trans ?_ pooled.shares
    rw [List.map_cons, List.cons_append, List.cons_append]
    exact List.perm_middle
  ready := by
    intro other member
    rcases List.mem_cons.mp member with rfl | before
    · exact ready
    · exact pooled.ready other before
  sized := pooled.sized

/-- A call goes on to its next stage, after a change of its own message alone. -/
theorem advance (pooled : Pooled queue free sent holds) (member : hold ∈ holds)
    {target : MessageQueue} {stage : Stage}
    (next : ∀ slot, slot ≠ hold.slot → target.next slot = queue.next slot)
    (body : ∀ slot, slot ≠ hold.slot → target.body slot = queue.body slot)
    (same : target.msgSize = queue.msgSize ∧ target.maxMsgs = queue.maxMsgs ∧
      target.head = queue.head ∧ target.tail = queue.tail ∧ target.free = queue.free)
    (size : (target.body hold.slot).length = target.msgSize)
    (ready : Hold.Ready target { hold with stage }) :
    Pooled target free sent ({ hold with stage } :: holds.erase hold) := by
  obtain ⟨notFree, notSent, others⟩ := pooled.apart member
  obtain ⟨msgSize, maxMsgs, head, tail, start⟩ := same
  refine ⟨?_, ?_, ?_, ?_, ?_, ?_⟩
  · rw [start]
    exact pooled.freeLinks.congr fun slot inside => next slot (ne_of_mem_of_not_mem inside notFree)
  · rw [head]
    exact pooled.sentLinks.congr fun slot inside => next slot (ne_of_mem_of_not_mem inside notSent)
  · rw [tail]
    exact pooled.tail
  · rw [maxMsgs]
    refine List.Perm.trans (List.Perm.append_left _ ?_) pooled.shares
    exact ((List.perm_cons_erase member).map Hold.slot).symm
  · intro other found
    rcases List.mem_cons.mp found with rfl | before
    · exact ready
    · have different := others other before
      exact (pooled.ready other (List.mem_of_mem_erase before)).frame (next _ different)
        (body _ different) msgSize
  · intro slot
    by_cases own : slot = hold.slot
    · rw [own]
      exact size
    · rw [body slot own, msgSize]
      exact pooled.sized slot

/-- A message is filled. -/
theorem write (pooled : Pooled queue free sent holds) (member : hold ∈ holds)
    {message : List UInt8} {urgent : Bool} (stage : hold.stage = .write message urgent) :
    Pooled (queue.write hold.slot message urgent) free sent
      ({ hold with stage := .link message urgent } :: holds.erase hold) := by
  have fits := pooled.ready hold member
  rw [Hold.Ready, stage] at fits
  change message.length ≤ queue.msgSize at fits
  have body : (queue.write hold.slot message urgent).body hold.slot =
      message ++ (queue.body hold.slot).drop message.length :=
    Function.update_self ..
  refine pooled.advance member (fun slot different => ?_)
    (fun slot different => Function.update_of_ne different ..) ⟨rfl, rfl, rfl, rfl, rfl⟩ ?_
    ⟨fun plain => ?_, ?_⟩
  · unfold MessageQueue.write
    cases urgent with
    | true => rfl
    | false => exact Function.update_of_ne different ..
  · rw [body, List.length_append, List.length_drop, pooled.sized]
    change _ = queue.msgSize
    omega
  · rw [plain]
    exact Function.update_self ..
  · rw [body]
    exact List.prefix_append _ _

/-- A message leaves the hands of its call for one of the lists. -/
theorem shares_of_erase (pooled : Pooled queue free sent holds) (member : hold ∈ holds)
    {lists : List Nat} (perm : lists.Perm (hold.slot :: (free ++ sent))) :
    (lists ++ (holds.erase hold).map Hold.slot).Perm (List.range queue.maxMsgs) := by
  refine List.Perm.trans ?_ pooled.shares
  refine (List.Perm.append_right _ perm).trans ?_
  rw [List.cons_append]
  refine List.perm_middle.symm.trans (List.Perm.append_left _ ?_)
  exact ((List.perm_cons_erase member).map Hold.slot).symm

/-- A message is sent. -/
theorem linkTail (pooled : Pooled queue free sent holds) (member : hold ∈ holds)
    (ends : queue.next hold.slot = none) :
    Pooled (queue.linkTail hold.slot) free (sent ++ [hold.slot]) (holds.erase hold) := by
  obtain ⟨notFree, notSent, others⟩ := pooled.apart member
  have once := pooled.once
  rw [List.nodup_append, List.nodup_append] at once
  obtain ⟨⟨-, sentOnce, disjoint⟩, -, -⟩ := once
  have shares := @shares_of_erase _ _ _ _ _ pooled member (free ++ (sent ++ [hold.slot])) (by
    rw [← List.append_assoc]
    exact List.perm_append_singleton _ _)
  have tail : (queue.linkTail hold.slot).tail = (sent ++ [hold.slot]).getLast? := by
    rw [List.getLast?_concat]
    rfl
  rcases List.eq_nil_or_concat sent with rfl | ⟨before, last, rfl⟩
  · have empty : queue.tail = none := pooled.tail
    have next : (queue.linkTail hold.slot).next = queue.next := by
      unfold MessageQueue.linkTail
      rw [empty]
    have head : (queue.linkTail hold.slot).head = some hold.slot := by
      unfold MessageQueue.linkTail
      rw [if_pos (show queue.head = none from pooled.sentLinks)]
    refine ⟨?_, ?_, tail, shares, ?_, pooled.sized⟩
    · rw [next]
      exact pooled.freeLinks
    · rw [next, head]
      exact ⟨rfl, ends⟩
    · intro other found
      exact (pooled.ready other (List.mem_of_mem_erase found)).frame (by rw [next]) rfl rfl
  · rw [List.concat_eq_append] at *
    have ended : queue.tail = some last := by rw [pooled.tail, List.getLast?_concat]
    have next : (queue.linkTail hold.slot).next =
        Function.update queue.next last (some hold.slot) := by
      unfold MessageQueue.linkTail
      rw [ended]
    have inside : last ∈ before ++ [last] := List.mem_append_right _ (List.mem_singleton_self _)
    have head : (queue.linkTail hold.slot).head = queue.head := by
      unfold MessageQueue.linkTail
      rw [if_neg]
      intro empty
      have links := pooled.sentLinks
      rw [empty] at links
      cases before with
      | nil => nomatch links.1
      | cons first rest => nomatch links.1
    refine ⟨?_, ?_, tail, shares, ?_, pooled.sized⟩
    · rw [next]
      exact pooled.freeLinks.update (fun found => disjoint _ found _ inside rfl) _
    · rw [next, head]
      exact pooled.sentLinks.concat sentOnce notSent ends
    · intro other found
      have held := List.mem_of_mem_erase found
      have different := pooled.listed (List.mem_append_right _ inside) other held
      exact (pooled.ready other held).frame (by rw [next, Function.update_of_ne different]) rfl rfl

/-- A message is sent in front of the others. -/
theorem linkHead (pooled : Pooled queue free sent holds) (member : hold ∈ holds) :
    Pooled (queue.linkHead hold.slot) free (hold.slot :: sent) (holds.erase hold) := by
  obtain ⟨notFree, notSent, others⟩ := pooled.apart member
  refine ⟨pooled.freeLinks.update notFree _, pooled.sentLinks.push notSent, ?_, ?_, ?_,
    pooled.sized⟩
  · change (if queue.tail = none then some hold.slot else queue.tail) = _
    rw [pooled.tail]
    cases sent with
    | nil => rfl
    | cons first rest =>
        rw [List.getLast?_cons_cons, if_neg]
        rw [List.getLast?_eq_none_iff]
        exact List.cons_ne_nil _ _
  · exact pooled.shares_of_erase member List.perm_middle
  · intro other found
    exact (pooled.ready other (List.mem_of_mem_erase found)).frame
      (Function.update_of_ne (others other found) ..) rfl rfl

/-- The first message goes into the hands of a call. -/
theorem unlinkHead (pooled : Pooled queue free (slot :: sent) holds) (party : Nat) :
    Pooled (queue.unlinkHead slot) free sent
      (⟨party, slot, .copy (queue.body slot)⟩ :: holds) where
  freeLinks := pooled.freeLinks
  sentLinks := pooled.sentLinks.2
  tail := by
    have once := pooled.once
    rw [List.nodup_append, List.nodup_append, List.nodup_cons] at once
    obtain ⟨⟨-, ⟨alone, -⟩, -⟩, -, -⟩ := once
    change (if queue.tail = some slot then none else queue.tail) = _
    rw [pooled.tail]
    cases sent with
    | nil => exact if_pos rfl
    | cons first rest =>
        rw [List.getLast?_cons_cons, if_neg]
        exact fun last => alone (List.mem_of_getLast? last)
  shares := by
    refine List.Perm.trans ?_ pooled.shares
    rw [List.map_cons, List.append_assoc, List.append_assoc]
    refine List.Perm.append_left _ ?_
    exact List.perm_middle
  ready := by
    intro other member
    rcases List.mem_cons.mp member with rfl | before
    · exact rfl
    · exact pooled.ready other before
  sized := pooled.sized

/-- A message becomes free. -/
theorem putFree (pooled : Pooled queue free sent holds) (member : hold ∈ holds) :
    Pooled (queue.putFree hold.slot) (hold.slot :: free) sent (holds.erase hold) := by
  obtain ⟨notFree, notSent, others⟩ := pooled.apart member
  refine ⟨pooled.freeLinks.push notFree, pooled.sentLinks.update notSent _, pooled.tail, ?_, ?_,
    pooled.sized⟩
  · exact pooled.shares_of_erase member (List.Perm.refl _)
  · intro other found
    exact (pooled.ready other (List.mem_of_mem_erase found)).frame
      (Function.update_of_ne (others other found) ..) rfl rfl

/-- A reset ends, and frees every message that has been sent. -/
theorem releaseAll (pooled : Pooled queue free sent holds) {rounds : Nat}
    (enough : sent.length ≤ rounds) :
    Pooled (queue.releaseAll rounds) (sent.reverse ++ free) [] holds := by
  induction sent generalizing queue free rounds with
  | nil =>
      have empty : queue.head = none := pooled.sentLinks
      cases rounds with
      | zero => exact pooled
      | succ rounds =>
          unfold MessageQueue.releaseAll
          rw [empty]
          exact pooled
  | cons slot rest ih =>
      obtain ⟨rounds, rfl⟩ := Nat.exists_eq_succ_of_ne_zero
        (Nat.ne_of_gt (Nat.lt_of_lt_of_le (Nat.succ_pos _) enough))
      have freed := (pooled.unlinkHead 0).putFree List.mem_cons_self
      rw [List.erase_cons_head] at freed
      unfold MessageQueue.releaseAll
      rw [pooled.sentLinks.1]
      simp only
      rw [List.reverse_cons, List.append_assoc]
      exact ih freed (Nat.le_of_succ_le_succ enough)

end Pooled

/-- The pool of a new queue is free. -/
theorem foldl_putFree {queue : MessageQueue} {free slots : List Nat}
    (links : Links queue.next queue.free free) (once : (slots ++ free).Nodup) :
    Links (slots.foldl MessageQueue.putFree queue).next
        (slots.foldl MessageQueue.putFree queue).free (slots.reverse ++ free) ∧
      slots.foldl MessageQueue.putFree queue = { queue with
        next := (slots.foldl MessageQueue.putFree queue).next
        free := (slots.foldl MessageQueue.putFree queue).free } := by
  induction slots generalizing queue free with
  | nil => exact ⟨links, rfl⟩
  | cons slot rest ih =>
      rw [List.cons_append, List.nodup_cons] at once
      have absent : slot ∉ free := fun inside => once.1 (List.mem_append_right _ inside)
      obtain ⟨later, same⟩ := @ih (queue.putFree slot) (slot :: free) (links.push absent) (by
        rw [List.nodup_middle, List.nodup_cons]
        exact once)
      rw [List.reverse_cons, List.append_assoc]
      exact ⟨later, same⟩

theorem init_linked (msgSize poolSize : Nat) :
    Links (MessageQueue.init msgSize poolSize).next (MessageQueue.init msgSize poolSize).free
        (List.range (MessageQueue.init msgSize poolSize).maxMsgs).reverse ∧
      ∃ size count, count < 65536 ∧
        MessageQueue.init msgSize poolSize = { MessageQueue.unlinked size count with
          next := (MessageQueue.init msgSize poolSize).next
          free := (MessageQueue.init msgSize poolSize).free } := by
  let size := (msgSize + 3) / 4 * 4 % 65536
  let count := poolSize / (size + 4) % 65536
  obtain ⟨links, same⟩ := @foldl_putFree (MessageQueue.unlinked size count) [] (List.range count)
    rfl (by rw [List.append_nil]; exact List.nodup_range)
  rw [List.append_nil] at links
  change MessageQueue.init msgSize poolSize = _ at same
  have maxMsgs : (MessageQueue.init msgSize poolSize).maxMsgs = count := by
    rw [same]
    rfl
  refine ⟨?_, size, count, Nat.mod_lt _ (Nat.succ_pos _), same⟩
  rw [maxMsgs]
  exact links

theorem pooled_init (msgSize poolSize : Nat) :
    Pooled (.init msgSize poolSize)
        (List.range (MessageQueue.init msgSize poolSize).maxMsgs).reverse [] [] ∧
      (MessageQueue.init msgSize poolSize).entry = 0 ∧
      (MessageQueue.init msgSize poolSize).maxMsgs < 65536 := by
  obtain ⟨links, size, count, small, same⟩ := init_linked msgSize poolSize
  refine ⟨⟨links, ?_, ?_, ?_, ?_, ?_⟩, ?_, ?_⟩
  · rw [same]
    rfl
  · rw [same]
    rfl
  · rw [List.append_nil, List.map_nil, List.append_nil]
    exact List.reverse_perm _
  · exact fun _ member => absurd member List.not_mem_nil
  · intro slot
    rw [same]
    exact List.length_replicate
  · rw [same]
    rfl
  · rw [same]
    exact small

end BerPiNbiot.Kernel
