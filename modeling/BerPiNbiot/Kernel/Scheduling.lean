import BerPiNbiot.Kernel.ReadyQueue
import BerPiNbiot.Transition.Core

/-!
# Scheduling

Threads are started, suspended, resumed, closed and given other priorities, by each other
and by interrupts, in any order.  The lists and the bits of the scheduler stay in step
through all of it, and `rt_schedule` gives the processor to a thread of the highest
priority that is ready.
-/

namespace BerPiNbiot.Kernel

open BerPiNbiot.Transition

/-- The invariant of the scheduler. -/
structure Orderly (system : System) : Prop where
  queues : Queues system
  single : ∀ thread, (system.threads thread).stat = .running → thread = system.current
  present : (system.threads system.current).stat ≠ .ready ∧
    (system.threads system.current).stat ≠ .init

/-- The current thread runs, and no ready thread has a higher priority. -/
def Highest (system : System) : Prop :=
  (system.threads system.current).stat = .running ∧
    ∀ thread, (system.threads thread).stat = .ready →
      (system.threads system.current).currentPriority ≤ (system.threads thread).currentPriority

/-- A suspended thread in no list and without a timer. -/
structure System.Parked (system : System) (thread : Nat) : Prop where
  suspended : (system.threads thread).stat = .suspend
  untimed : (system.threads thread).timing = false
  unlisted : ∀ object, thread ∉ system.suspended object

/-! ## Where threads are -/

namespace System

variable (system : System) (thread : Nat)

theorem threads_insertThread :
    (system.insertThread thread).threads = Function.update system.threads thread
      { system.threads thread with
        stat := if thread = system.current then .running else .ready } := by
  unfold insertThread
  split
  · rfl
  · rfl

@[simp]
theorem current_insertThread : (system.insertThread thread).current = system.current := by
  unfold insertThread
  split <;> rfl

@[simp]
theorem lockNest_insertThread : (system.insertThread thread).lockNest = system.lockNest := by
  unfold insertThread
  split <;> rfl

end System

namespace Limbo

variable {system : System} {thread : Nat}

/-- A thread in no list. -/
theorem of_absent (queues : Queues system) (unready : (system.threads thread).stat ≠ .ready)
    (unlisted : ∀ object, thread ∉ system.suspended object) (alive : thread ∉ system.defunct) :
    Limbo system (· = thread) where
  queued := by
    intro priority other
    rw [queues.queued]
    simp only [not_false_eq_true, true_and]
    constructor
    · intro ready
      refine ⟨?_, ready⟩
      rintro rfl
      exact unready ready.1
    · exact And.right
  distinct := queues.distinct
  bits := queues.bits
  masked := fun other _ => queues.masked other id
  waiting := by
    intro object other member
    refine ⟨?_, (queues.waiting object other member).2⟩
    rintro rfl
    exact unlisted object member
  waitingOnce := queues.waitingOnce
  waitingOne := queues.waitingOne
  dead := by
    intro other member
    refine ⟨?_, (queues.dead other member).2⟩
    rintro rfl
    exact alive member
  deadOnce := queues.deadOnce
  timed := fun other _ => queues.timed other id

/-- A thread that is neither suspended nor closed is in neither kind of list. -/
theorem unlisted (queues : Queues system) (awake : (system.threads thread).stat ≠ .suspend)
    (object : Nat) : thread ∉ system.suspended object :=
  fun member => awake (queues.waiting object thread member).2

theorem undead (queues : Queues system) (alive : (system.threads thread).stat ≠ .close) :
    thread ∉ system.defunct :=
  fun member => alive (queues.dead thread member).2

/-- A running thread is in no list. -/
theorem of_running (queues : Queues system) (running : (system.threads thread).stat = .running) :
    Limbo system (· = thread) :=
  of_absent queues (by simp [running]) (unlisted queues (by simp [running]))
    (undead queues (by simp [running]))

/-- A thread that is not ready leaves its list. -/
theorem unlink_unready (queues : Queues system) (unready : (system.threads thread).stat ≠ .ready) :
    Limbo (system.unlink thread) (· = thread) := by
  apply unlink queues
  intro priority bound
  rw [erase_other queues (Or.inr unready)]
  exact queues.bits priority bound

end Limbo

/-! ## One operation -/

namespace Orderly

variable {system target : System} {thread : Nat}

theorem masked (orderly : Orderly system) (live : (system.threads thread).live) :
    (system.threads thread).masked :=
  orderly.queues.masked thread id live

/-- The invariant after one thread has changed. -/
theorem of_queues (orderly : Orderly system) (thread : Nat) (queues : Queues target)
    (current : target.current = system.current)
    (others : ∀ other, other ≠ thread → target.threads other = system.threads other)
    (single : (target.threads thread).stat = .running → thread = system.current)
    (present : thread = system.current → (target.threads thread).stat ≠ .ready ∧
      (target.threads thread).stat ≠ .init) : Orderly target where
  queues := queues
  single := by
    intro other running
    rw [current]
    by_cases same : other = thread
    · subst same
      exact single running
    · rw [others other same] at running
      exact orderly.single other running
  present := by
    rw [current]
    by_cases same : system.current = thread
    · rw [same]
      exact present same.symm
    · rw [others _ same]
      exact orderly.present

theorem thread_suspend (orderly : Orderly system) (thread : Nat) :
    ∃ target, system.threadSuspend thread = some target ∧ Orderly target ∧
      target.current = system.current ∧ target.lockNest = system.lockNest ∧
      ((system.threads thread).stat = .ready ∨ (system.threads thread).stat = .running →
        (target.threads thread).stat = .suspend ∧ (target.threads thread).timing = false ∧
        (∀ other, other ≠ thread → target.threads other = system.threads other) ∧
        ∀ object, thread ∉ target.suspended object) := by
  unfold System.threadSuspend
  simp only
  by_cases outside : (system.threads thread).stat ≠ .ready ∧ (system.threads thread).stat ≠ .running
  · rw [if_pos outside]
    refine ⟨system, rfl, orderly, rfl, rfl, ?_⟩
    rintro (ready | running)
    · exact absurd ready outside.1
    · exact absurd running outside.2
  · have runs : ¬ ((system.threads thread).stat = .running ∧ thread ≠ system.current) := by
      rintro ⟨running, elsewhere⟩
      exact elsewhere (orderly.single thread running)
    have live : (system.threads thread).live := by
      unfold RtThread.live
      cases stat : (system.threads thread).stat <;> simp [stat] at outside ⊢
    rw [if_neg outside, if_neg runs]
    have limbo := Limbo.removeThread orderly.queues live
    have queues : Queues ((system.removeThread thread).modify thread fun fields =>
        { fields with stat := .suspend, timing := false }) := by
      apply limbo.modify
      · simp
      · intro _
        rw [System.threads_removeThread]
        exact orderly.masked live
      · simp
    have others (other : Nat) (different : other ≠ thread) :
        ((system.removeThread thread).modify thread fun fields =>
          { fields with stat := .suspend, timing := false }).threads other =
            system.threads other := by
      rw [System.modify_of_ne _ _ different, System.threads_removeThread]
    refine ⟨_, rfl, ?_, ?_, ?_, fun _ => ⟨?_, ?_, others, ?_⟩⟩
    · apply orderly.of_queues thread queues (System.current_removeThread _ _) others
      · rw [System.modify_self]
        simp
      · rw [System.modify_self]
        simp
    · exact System.current_removeThread _ _
    · exact System.lockNest_removeThread _ _
    · rw [System.modify_self]
    · rw [System.modify_self]
    · intro object member
      exact (limbo.waiting object thread member).1 rfl

/-- A thread that was in no list is inserted. -/
theorem inserted (orderly : Orderly system) {middle : System} (limbo : Limbo middle (· = thread))
    (masked : (middle.threads thread).masked) (untimed : (middle.threads thread).timing = false)
    (current : middle.current = system.current)
    (others : ∀ other, other ≠ thread → middle.threads other = system.threads other) :
    Orderly (middle.insertThread thread) := by
  have own : ((middle.insertThread thread).threads thread).stat =
      if thread = system.current then .running else .ready := by
    rw [System.threads_insertThread, Function.update_self, current]
  apply orderly.of_queues thread (limbo.insertThread masked untimed)
  · rw [System.current_insertThread, current]
  · intro other different
    rw [System.threads_insertThread, Function.update_of_ne different, others other different]
  · rw [own]
    split
    · intro _
      assumption
    · simp
  · intro same
    rw [own, if_pos same]
    simp

/-- A suspended thread that its list and its timer have let go. -/
theorem release_thread (orderly : Orderly system)
    (suspended : (system.threads thread).stat = .suspend) :
    Orderly (system.releaseThread thread) ∧ (system.releaseThread thread).Parked thread := by
  have live : (system.threads thread).live := by simp [RtThread.live, suspended]
  have limbo := Limbo.unlink_unready orderly.queues
    (show (system.threads thread).stat ≠ .ready by simp [suspended])
  have own : (system.releaseThread thread).threads thread =
      { system.threads thread with timing := false } :=
    System.modify_self _ _
  have released : Queues (system.releaseThread thread) := by
    apply limbo.modify
    · change (system.threads thread).stat ≠ .ready
      simp [suspended]
    · exact fun _ => orderly.masked live
    · exact fun timing => absurd timing Bool.false_ne_true
  have stat : ((system.releaseThread thread).threads thread).stat = .suspend := by
    rw [own]
    exact suspended
  refine ⟨orderly.of_queues thread released rfl ?_ ?_ ?_, stat, ?_, ?_⟩
  · intro other different
    exact System.modify_of_ne _ _ different
  · intro running
    exact absurd (stat.symm.trans running) (by decide)
  · intro _
    rw [stat]
    decide
  · rw [own]
  · intro object member
    exact (limbo.waiting object thread member).1 rfl

/-- A thread that is parked becomes ready. -/
theorem insert_thread (orderly : Orderly system) (parked : system.Parked thread) :
    Orderly (system.insertThread thread) := by
  have live : (system.threads thread).live := by simp [RtThread.live, parked.suspended]
  apply orderly.inserted (Limbo.of_absent orderly.queues (by simp [parked.suspended])
    parked.unlisted (Limbo.undead orderly.queues (by simp [parked.suspended])))
    (orderly.masked live) parked.untimed rfl
  exact fun _ _ => rfl

theorem thread_resume (orderly : Orderly system) (thread : Nat) :
    Orderly (system.threadResume thread) := by
  unfold System.threadResume
  by_cases suspended : (system.threads thread).stat ≠ .suspend
  · rw [if_pos suspended]
    exact orderly
  · rw [if_neg suspended]
    obtain ⟨released, parked⟩ := orderly.release_thread (not_not.mp suspended)
    exact released.insert_thread parked

/-- A change that leaves a thread where it is. -/
theorem retouch (orderly : Orderly system) (thread : Nat) {change : RtThread → RtThread}
    (stat : (change (system.threads thread)).stat = (system.threads thread).stat)
    (priority : (system.threads thread).stat = .ready →
      (change (system.threads thread)).currentPriority = (system.threads thread).currentPriority)
    (masked : (system.threads thread).live → (change (system.threads thread)).masked)
    (timing : (change (system.threads thread)).timing = true →
      (system.threads thread).stat = .suspend) :
    Orderly (system.modify thread change) := by
  have stats (other : Nat) : ((system.modify thread change).threads other).stat =
      (system.threads other).stat := by
    by_cases same : other = thread
    · subst same
      rw [System.modify_self, stat]
    · rw [System.modify_of_ne _ _ same]
  refine ⟨⟨?_, orderly.queues.distinct, orderly.queues.bits, ?_, ?_, orderly.queues.waitingOnce,
    orderly.queues.waitingOne, ?_, orderly.queues.deadOnce, ?_⟩, ?_, ?_⟩
  · intro place other
    rw [show (system.modify thread change).table = system.table from rfl, orderly.queues.queued,
      stats]
    refine and_congr_right fun _ => and_congr_right fun ready => ?_
    by_cases same : other = thread
    · subst same
      rw [System.modify_self, priority ready]
    · rw [System.modify_of_ne _ _ same]
  · intro other _ live
    by_cases same : other = thread
    · subst same
      rw [System.modify_self]
      apply masked
      rwa [RtThread.live, stats] at live
    · rw [System.modify_of_ne _ _ same] at live ⊢
      exact orderly.masked live
  · intro object other member
    rw [stats]
    exact orderly.queues.waiting object other member
  · intro other member
    rw [stats]
    exact orderly.queues.dead other member
  · intro other _
    rw [stats]
    by_cases same : other = thread
    · subst same
      rw [System.modify_self]
      exact timing
    · rw [System.modify_of_ne _ _ same]
      exact orderly.queues.timed other id
  · intro other running
    rw [stats] at running
    exact orderly.single other running
  · change ((system.modify thread change).threads system.current).stat ≠ .ready ∧
      ((system.modify thread change).threads system.current).stat ≠ .init
    rw [stats]
    exact orderly.present

/-- A change of fields that the lists do not depend on. -/
theorem retick (orderly : Orderly system) (thread : Nat) {change : RtThread → RtThread}
    (same : ∀ fields, (change fields).stat = fields.stat ∧
      (change fields).currentPriority = fields.currentPriority ∧
      (change fields).numberMask = fields.numberMask ∧ (change fields).timing = fields.timing) :
    Orderly (system.modify thread change) := by
  obtain ⟨stat, priority, mask, timing⟩ := same (system.threads thread)
  apply orderly.retouch thread stat (fun _ => priority)
  · intro live
    rw [RtThread.masked, priority, mask]
    exact orderly.masked live
  · rw [timing]
    exact orderly.queues.timed thread id

/-! ## `rt_schedule` -/

theorem go_on (orderly : Orderly system)
    (running : (system.threads system.current).stat = .running) :
    Orderly system.goOn ∧ system.goOn.current = system.current ∧
      system.goOn.lockNest = system.lockNest ∧ system.goOn.threads = system.threads := by
  have live : (system.threads system.current).live := by simp [RtThread.live, running]
  have limbo := Limbo.removeThread orderly.queues live
  have same : system.goOn.threads = system.threads := by
    funext other
    unfold System.goOn
    by_cases self : other = system.current
    · rw [self, System.modify_self, System.threads_removeThread, ← running]
    · rw [System.modify_of_ne _ _ self, System.threads_removeThread]
  have queues : Queues system.goOn := by
    apply limbo.modify
    · simp
    · intro _
      rw [System.threads_removeThread]
      exact orderly.masked live
    · rw [System.threads_removeThread]
      intro timing
      have suspended := orderly.queues.timed _ id timing
      rw [running] at suspended
      exact absurd suspended (by decide)
  refine ⟨?_, System.current_removeThread _ _, System.lockNest_removeThread _ _, same⟩
  apply orderly.of_queues system.current queues (System.current_removeThread _ _)
  · intro other _
    rw [same]
  · exact fun _ => rfl
  · intro _
    rw [same]
    exact orderly.present

theorem switch_to (orderly : Orderly system) {needInsert : Bool} {toThread : Nat}
    (ready : (system.threads toThread).stat = .ready)
    (needed : needInsert = true ↔ (system.threads system.current).stat = .running) :
    Orderly (system.switchTo needInsert toThread) ∧
      (system.switchTo needInsert toThread).current = toThread ∧
      (system.switchTo needInsert toThread).lockNest = system.lockNest ∧
      ((system.switchTo needInsert toThread).threads toThread) =
        { system.threads toThread with stat := .running } ∧
      ((system.switchTo needInsert toThread).threads system.current) =
        { system.threads system.current with
          stat := if needInsert then .ready else (system.threads system.current).stat } ∧
      (∀ other, other ≠ toThread → other ≠ system.current →
        (system.switchTo needInsert toThread).threads other = system.threads other) := by
  have elsewhere : system.current ≠ toThread := by
    intro same
    apply orderly.present.1
    rw [same]
    exact ready
  have live : (system.threads toThread).live := by simp [RtThread.live, ready]
  have untimed (thread : Nat) (awake : (system.threads thread).stat ≠ .suspend) :
      (system.threads thread).timing = false := by
    rw [Bool.eq_false_iff]
    exact fun timing => awake (orderly.queues.timed thread id timing)
  -- the thread that leaves the processor, with its queue
  obtain ⟨middle, middleEq, queues, current, lockNest, displaced, others⟩ :
      ∃ middle, (if needInsert then System.insertThread { system with current := toThread }
          system.current else { system with current := toThread }) = middle ∧
        Queues middle ∧ middle.current = toThread ∧ middle.lockNest = system.lockNest ∧
        middle.threads system.current = { system.threads system.current with
          stat := if needInsert then .ready else (system.threads system.current).stat } ∧
        ∀ other, other ≠ system.current → middle.threads other = system.threads other := by
    have moved : Queues { system with current := toThread } :=
      ⟨orderly.queues.queued, orderly.queues.distinct, orderly.queues.bits, orderly.queues.masked,
        orderly.queues.waiting, orderly.queues.waitingOnce, orderly.queues.waitingOne,
        orderly.queues.dead, orderly.queues.deadOnce, orderly.queues.timed⟩
    cases needInsert with
    | false => exact ⟨_, rfl, moved, rfl, rfl, rfl, fun _ _ => rfl⟩
    | true =>
        have running := needed.mp rfl
        have alive : (system.threads system.current).live := by simp [RtThread.live, running]
        refine ⟨_, rfl, (Limbo.of_running moved running).insertThread (orderly.masked alive)
          (untimed _ (by simp [running])), System.current_insertThread _ _,
          System.lockNest_insertThread _ _, ?_, ?_⟩
        · simp only [if_true]
          rw [System.threads_insertThread, Function.update_self, if_neg elsewhere]
        · intro other different
          simp only [if_true]
          rw [System.threads_insertThread, Function.update_of_ne different]
  have toSame := others toThread (Ne.symm elsewhere)
  have limbo : Limbo (middle.removeThread toThread) (· = toThread) :=
    Limbo.removeThread queues (by rw [toSame]; exact live)
  have equation : system.switchTo needInsert toThread =
      (middle.removeThread toThread).modify toThread
        fun fields => { fields with stat := .running } := by
    rw [← middleEq]
    rfl
  rw [equation]
  have own : ((middle.removeThread toThread).modify toThread
      fun fields => { fields with stat := .running }).threads toThread =
        { system.threads toThread with stat := .running } := by
    rw [System.modify_self, System.threads_removeThread, toSame]
  have away (other : Nat) (different : other ≠ toThread) :
      ((middle.removeThread toThread).modify toThread
        fun fields => { fields with stat := .running }).threads other = middle.threads other := by
    rw [System.modify_of_ne _ _ different, System.threads_removeThread]
  refine ⟨⟨?_, ?_, ?_⟩, ?_, ?_, own, ?_, ?_⟩
  · apply limbo.modify
    · simp
    · intro _
      rw [System.threads_removeThread, toSame]
      exact orderly.masked live
    · rw [System.threads_removeThread, toSame]
      intro timing
      rw [untimed toThread (by simp [ready])] at timing
      contradiction
  · intro other running
    change other = (middle.removeThread toThread).current
    rw [System.current_removeThread, current]
    by_contra different
    rw [away other different] at running
    by_cases self : other = system.current
    · rw [self, displaced] at running
      cases needInsert with
      | true => exact absurd running (by simp)
      | false =>
          simp only [Bool.false_eq_true, if_false] at running
          exact absurd (needed.mpr running) Bool.false_ne_true
    · rw [others other self] at running
      exact self (orderly.single other running)
  · have last : ((middle.removeThread toThread).modify toThread
        fun fields => { fields with stat := .running }).current = toThread := by
      change (middle.removeThread toThread).current = toThread
      rw [System.current_removeThread, current]
    rw [last, own]
    simp
  · change (middle.removeThread toThread).current = toThread
    rw [System.current_removeThread, current]
  · change (middle.removeThread toThread).lockNest = system.lockNest
    rw [System.lockNest_removeThread, lockNest]
  · rw [away _ elsewhere, displaced]
  · intro other different self
    rw [away other different, others other self]

/-- The processor goes to a thread of the highest priority. -/
theorem highest_switch (orderly : Orderly system) {needInsert : Bool} {toThread : Nat}
    (ready : (system.threads toThread).stat = .ready)
    (needed : needInsert = true ↔ (system.threads system.current).stat = .running)
    (least : ∀ thread, (system.threads thread).stat = .ready →
      (system.threads toThread).currentPriority ≤ (system.threads thread).currentPriority)
    (displaced : (system.threads system.current).stat = .running →
      (system.threads toThread).currentPriority ≤
        (system.threads system.current).currentPriority) :
    Highest (system.switchTo needInsert toThread) := by
  obtain ⟨-, current, -, own, left, others⟩ := orderly.switch_to ready needed
  rw [Highest, current, own]
  refine ⟨rfl, fun thread isReady => ?_⟩
  by_cases self : thread = toThread
  · rw [self, own] at isReady
    exact absurd isReady (by simp)
  · by_cases old : thread = system.current
    · rw [old, left] at isReady ⊢
      cases needInsert with
      | true => exact displaced (needed.mp rfl)
      | false => exact absurd isReady orderly.present.1
    · rw [others thread self old] at isReady ⊢
      exact least thread isReady

/-- The highest priority of a ready thread is the lowest set bit, and the first thread of
its queue has it. -/
theorem first_ready (orderly : Orderly system) (some_ready : system.group ≠ 0) :
    ∃ toThread rest, system.table (rtFfs system.group - 1) = toThread :: rest ∧
      (system.threads toThread).stat = .ready ∧
      (system.threads toThread).currentPriority = rtFfs system.group - 1 ∧
      ∀ thread, (system.threads thread).stat = .ready →
        rtFfs system.group - 1 ≤ (system.threads thread).currentPriority := by
  obtain ⟨bit, highest, small, set, lower⟩ := rtFfs_spec some_ready
  rw [highest]
  obtain ⟨toThread, rest, queue⟩ :=
    List.exists_cons_of_ne_nil ((orderly.queues.bits bit small).mp set)
  have member : toThread ∈ system.table bit := by
    rw [queue]
    exact List.mem_cons_self
  obtain ⟨-, ready, priority⟩ := (orderly.queues.queued bit toThread).mp member
  refine ⟨toThread, rest, queue, ready, priority, ?_⟩
  intro thread isReady
  by_contra above
  have live : (system.threads thread).live := by simp [RtThread.live, isReady]
  have queued := (orderly.queues.queued _ thread).mpr ⟨id, isReady, rfl⟩
  have clear := lower _ (Nat.lt_of_not_le above)
  have nonempty := (orderly.queues.bits _ (orderly.masked live).1).mpr
    (List.ne_nil_of_mem queued)
  rw [clear] at nonempty
  contradiction

theorem none_ready (orderly : Orderly system) (empty : system.group = 0) (thread : Nat) :
    (system.threads thread).stat ≠ .ready := by
  intro ready
  have live : (system.threads thread).live := by simp [RtThread.live, ready]
  have queued := (orderly.queues.queued _ thread).mpr ⟨id, ready, rfl⟩
  have set := (orderly.queues.bits _ (orderly.masked live).1).mpr (List.ne_nil_of_mem queued)
  rw [empty] at set
  simp at set

/-- `rt_schedule` returns and keeps the scheduler in order.  When it is not locked, the
thread that runs afterwards has the highest priority of all that could run. -/
theorem schedule (orderly : Orderly system) :
    ∃ target, system.schedule = some target ∧ Orderly target ∧
      target.lockNest = system.lockNest ∧
      (system.lockNest = 0 → (∃ thread, (system.threads thread).stat = .ready ∨
        (system.threads thread).stat = .running) → Highest target) := by
  unfold System.schedule
  by_cases enabled : system.lockNest = 0 ∧ system.group ≠ 0
  · rw [if_pos enabled]
    obtain ⟨toThread, rest, queue, ready, priority, least⟩ := orderly.first_ready enabled.2
    simp only [queue, List.head?_cons, Option.map_some]
    refine ⟨_, rfl, ?_⟩
    by_cases keep : (system.threads system.current).stat = .running ∧
        ((system.threads system.current).currentPriority < rtFfs system.group - 1 ∨
          (system.threads system.current).currentPriority = rtFfs system.group - 1 ∧
            (system.threads system.current).yield = false)
    · rw [if_pos keep]
      obtain ⟨kept, current, lockNest, same⟩ := orderly.go_on keep.1
      refine ⟨kept, lockNest, fun _ _ => ?_⟩
      rw [Highest, current, same]
      refine ⟨keep.1, fun thread isReady => ?_⟩
      have bound := least thread isReady
      omega
    · rw [if_neg keep]
      have elsewhere : toThread ≠ system.current := by
        rintro rfl
        exact orderly.present.1 ready
      by_cases running : (system.threads system.current).stat = .running
      · simp only [running, decide_true, if_true]
        rw [if_pos (show toThread ≠ (system.modify system.current _).current from elsewhere)]
        have displaced : rtFfs system.group - 1 ≤
            (system.threads system.current).currentPriority := by
          by_contra above
          exact keep ⟨running, Or.inl (Nat.lt_of_not_le above)⟩
        -- the flag changes neither a state nor a priority
        have states (thread : Nat) : ((system.modify system.current fun fields =>
            { fields with yield := false }).threads thread).stat =
              (system.threads thread).stat := by
          by_cases self : thread = system.current
          · rw [self, System.modify_self]
          · rw [System.modify_of_ne _ _ self]
        have priorities (thread : Nat) : ((system.modify system.current fun fields =>
            { fields with yield := false }).threads thread).currentPriority =
              (system.threads thread).currentPriority := by
          by_cases self : thread = system.current
          · rw [self, System.modify_self]
          · rw [System.modify_of_ne _ _ self]
        have cleared : Orderly (system.modify system.current fun fields =>
            { fields with yield := false }) :=
          orderly.retick system.current fun _ => ⟨rfl, rfl, rfl, rfl⟩
        have needed := iff_of_true (rfl : true = true) ((states system.current).trans running)
        have switched := cleared.switch_to ((states toThread).trans ready) needed
        refine ⟨switched.1, switched.2.2.1, fun _ _ => ?_⟩
        apply cleared.highest_switch ((states toThread).trans ready) needed
        · intro thread isReady
          rw [priorities, priorities, priority]
          exact least thread ((states thread).symm.trans isReady)
        · intro _
          rw [priorities, priority]
          change _ ≤ ((system.modify system.current _).threads system.current).currentPriority
          rw [priorities]
          exact displaced
      · simp only [running, decide_false, Bool.false_eq_true, if_false]
        rw [if_pos elsewhere]
        have needed : false = true ↔ (system.threads system.current).stat = .running :=
          iff_of_false Bool.false_ne_true running
        have switched := orderly.switch_to ready needed
        refine ⟨switched.1, switched.2.2.1, fun _ _ => ?_⟩
        apply orderly.highest_switch ready needed
        · intro thread isReady
          rw [priority]
          exact least thread isReady
        · exact fun runs => absurd runs running
  · rw [if_neg enabled]
    refine ⟨system, rfl, orderly, rfl, ?_⟩
    intro unlocked someone
    have empty : system.group = 0 := by
      by_contra nonzero
      exact enabled ⟨unlocked, nonzero⟩
    have unready := orderly.none_ready empty
    obtain ⟨thread, ready | running⟩ := someone
    · exact absurd ready (unready thread)
    · rw [orderly.single thread running] at running
      exact ⟨running, fun other ready => absurd ready (unready other)⟩

/-! ## The other operations -/

theorem thread_startup (orderly : Orderly system)
    (fresh : (system.threads thread).stat = .init)
    (small : (system.threads thread).initPriority < 32) :
    ∃ target, system.threadStartup thread = some target ∧ Orderly target := by
  have elsewhere : thread ≠ system.current := by
    rintro rfl
    exact orderly.present.2 fresh
  have apart : Limbo system (· = thread) :=
    Limbo.of_absent orderly.queues (by simp [fresh])
      (Limbo.unlisted orderly.queues (by simp [fresh]))
      (Limbo.undead orderly.queues (by simp [fresh]))
  refine ⟨_, if_pos fresh, ?_⟩
  apply orderly.of_queues thread
  · apply apart.modify
    · simp
    · exact fun _ => ⟨small, rfl⟩
    · exact fun _ => rfl
  · rfl
  · intro other different
    exact System.modify_of_ne _ _ different
  · rw [System.modify_self]
    exact fun running => absurd running Stat.noConfusion
  · exact fun same => absurd same elsewhere

theorem mem_place {flag : IpcFlag} {other : Nat} {queue : List Nat} :
    other ∈ system.place flag thread queue ↔ other = thread ∨ other ∈ queue := by
  induction queue with
  | nil => simp [System.place]
  | cons first rest ih =>
      unfold System.place
      split
      · simp
      · rw [List.mem_cons, List.mem_cons, ih]
        tauto

theorem nodup_place {flag : IpcFlag} {queue : List Nat} (absent : thread ∉ queue)
    (distinct : queue.Nodup) : (system.place flag thread queue).Nodup := by
  induction queue with
  | nil => simp [System.place]
  | cons first rest ih =>
      rw [List.nodup_cons] at distinct
      rw [List.mem_cons, not_or] at absent
      unfold System.place
      split
      · simp [absent, distinct]
      · rw [List.nodup_cons, mem_place, not_or]
        exact ⟨⟨Ne.symm absent.1, distinct.1⟩, ih absent.2 distinct.2⟩

theorem list_suspend (orderly : Orderly system) (object : Nat) (flag : IpcFlag) (timed : Bool)
    (running : (system.threads system.current).stat = .running) :
    ∃ target, system.listSuspend object flag timed = some target ∧ Orderly target := by
  obtain ⟨middle, suspended, kept, current, -, after⟩ := orderly.thread_suspend system.current
  obtain ⟨stat, -, -, absent⟩ := after (Or.inr running)
  unfold System.listSuspend
  rw [suspended, Option.map_some]
  refine ⟨_, rfl, ?_⟩
  rw [← current] at stat absent
  -- the thread is in its place of the list, and its fields change afterwards
  have listed : Limbo middle (· = middle.current) :=
    Limbo.of_absent kept.queues (by simp [stat]) absent (Limbo.undead kept.queues (by simp [stat]))
  have changed : Queues (middle.modify middle.current fun fields =>
      { fields with timing := timed, error := 0 }) := by
    apply listed.modify
    · simp [stat]
    · intro _
      exact kept.masked (by simp [RtThread.live, stat])
    · exact fun _ => stat
  have own : ((middle.modify middle.current fun fields =>
      { fields with timing := timed, error := 0 }).threads middle.current).stat = .suspend := by
    rw [System.modify_self]
    exact stat
  refine kept.of_queues middle.current ?_ rfl (fun other different =>
    System.modify_of_ne _ _ different) (fun runs => ?_) (fun _ => ?_)
  · exact
      { changed with
        waiting := by
          intro other waiter member
          refine ⟨id, ?_⟩
          by_cases self : waiter = middle.current
          · rw [self]
            exact own
          · have before : waiter ∈ middle.suspended other := by
              by_cases here : other = object
              · subst here
                simp only [System.modify, Function.update_self] at member
                exact (mem_place.mp member).resolve_left self
              · simpa only [System.modify, Function.update_of_ne here] using member
            exact (changed.waiting other waiter before).2
        waitingOnce := by
          intro other
          by_cases here : other = object
          · subst here
            simp only [System.modify, Function.update_self]
            exact nodup_place (absent other) (kept.queues.waitingOnce other)
          · simp only [System.modify, Function.update_of_ne here]
            exact kept.queues.waitingOnce other
        waitingOne := by
          intro one two waiter first second
          have before (other : Nat) (member : waiter ∈ Function.update middle.suspended object
              (middle.place flag middle.current (middle.suspended object)) other) :
              waiter = middle.current ∧ other = object ∨ waiter ∈ middle.suspended other := by
            by_cases here : other = object
            · subst here
              rw [Function.update_self, mem_place] at member
              exact member.imp_left fun self => ⟨self, rfl⟩
            · rw [Function.update_of_ne here] at member
              exact Or.inr member
          rcases before one first with ⟨self, rfl⟩ | firstBefore
          · rcases before two second with ⟨-, same⟩ | secondBefore
            · exact same.symm
            · rw [self] at secondBefore
              exact absurd secondBefore (absent two)
          · rcases before two second with ⟨self, -⟩ | secondBefore
            · rw [self] at firstBefore
              exact absurd firstBefore (absent one)
            · exact kept.queues.waitingOne one two waiter firstBefore secondBefore }
  · exact absurd (own.symm.trans runs) (by decide)
  · exact ⟨fun ready => absurd (own.symm.trans ready) (by decide),
      fun fresh => absurd (own.symm.trans fresh) (by decide)⟩

theorem list_resume_all (orderly : Orderly system) (object : Nat) (waiters : List Nat) :
    Orderly (system.listResumeAll object waiters) := by
  induction waiters generalizing system with
  | nil => exact orderly
  | cons thread rest ih =>
      apply ih
      apply Orderly.thread_resume
      exact orderly.retouch thread rfl (fun _ => rfl) (orderly.masked ·)
        (orderly.queues.timed thread id)

/-- A thread whose waiting time is over becomes ready. -/
theorem thread_expire (orderly : Orderly system) (timing : (system.threads thread).timing = true) :
    Orderly (((system.modify thread fun fields =>
      { fields with timing := false, error := -2 }).unlink thread).insertThread thread) := by
  have suspended := orderly.queues.timed thread id timing
  have live : (system.threads thread).live := by simp [RtThread.live, suspended]
  have stopped : Orderly (system.modify thread fun fields =>
      { fields with timing := false, error := -2 }) :=
    orderly.retouch thread rfl (fun _ => rfl) (orderly.masked ·) (fun off => absurd off (by simp))
  have own : ((system.modify thread fun fields =>
      { fields with timing := false, error := -2 }).threads thread) =
        { system.threads thread with timing := false, error := -2 } :=
    System.modify_self _ _
  apply stopped.inserted (Limbo.unlink_unready stopped.queues (by rw [own]; simp [suspended]))
  · apply stopped.masked
    rw [own]
    exact live
  · exact congrArg RtThread.timing own
  · rfl
  · intro other _
    rfl

theorem thread_timeout (orderly : Orderly system) (timing : (system.threads thread).timing = true) :
    ∃ target, system.threadTimeout thread = some target ∧ Orderly target := by
  obtain ⟨target, scheduled, kept, -⟩ := (orderly.thread_expire timing).schedule
  refine ⟨target, ?_, kept⟩
  unfold System.threadTimeout
  rw [if_pos (orderly.queues.timed thread id timing)]
  exact scheduled

theorem thread_sleep (orderly : Orderly system)
    (running : (system.threads system.current).stat = .running) :
    ∃ target, system.threadSleep = some target ∧ Orderly target := by
  obtain ⟨middle, suspended, kept, current, -, after⟩ := orderly.thread_suspend system.current
  obtain ⟨stat, -⟩ := after (Or.inr running)
  unfold System.threadSleep
  rw [suspended, Option.map_some]
  refine ⟨_, rfl, ?_⟩
  rw [← current] at stat
  exact kept.retouch middle.current rfl (fun _ => rfl) (kept.masked ·) (fun _ => stat)

theorem change_priority (orderly : Orderly system) (thread : Nat) {priority : Nat}
    (small : priority < 32) : Orderly (system.changePriority thread priority) := by
  unfold System.changePriority
  simp only
  by_cases ready : (system.threads thread).stat = .ready
  · rw [if_pos ready]
    have live : (system.threads thread).live := by simp [RtThread.live, ready]
    apply orderly.inserted ((Limbo.removeThread orderly.queues live).change _)
    · rw [System.modify_self]
      exact ⟨small, rfl⟩
    · rw [System.modify_self, System.threads_removeThread, Bool.eq_false_iff]
      intro timing
      have suspended := orderly.queues.timed thread id timing
      rw [ready] at suspended
      exact absurd suspended (by decide)
    · exact System.current_removeThread _ _
    · intro other different
      rw [System.modify_of_ne _ _ different, System.threads_removeThread]
  · rw [if_neg ready]
    exact orderly.retouch thread rfl (fun now => absurd now ready) (fun _ => ⟨small, rfl⟩)
      (orderly.queues.timed thread id)

theorem count_same (fields : RtThread) : fields.count.stat = fields.stat ∧
    fields.count.currentPriority = fields.currentPriority ∧
    fields.count.numberMask = fields.numberMask ∧ fields.count.timing = fields.timing := by
  unfold RtThread.count
  exact ⟨rfl, rfl, rfl, rfl⟩

theorem tick_increase (orderly : Orderly system) :
    ∃ target, system.tickIncrease = some target ∧ Orderly target := by
  unfold System.tickIncrease
  simp only
  have counted : Orderly (system.modify system.current RtThread.count) :=
    orderly.retick system.current count_same
  split
  · have flagged : Orderly ((system.modify system.current RtThread.count).modify system.current
        RtThread.reload) :=
      counted.retick system.current fun _ => ⟨rfl, rfl, rfl, rfl⟩
    obtain ⟨target, scheduled, kept, -⟩ := flagged.schedule
    exact ⟨target, scheduled, kept⟩
  · exact ⟨_, rfl, counted⟩

theorem of_lockNest (orderly : Orderly system) (nest : Int) :
    Orderly { system with lockNest := nest } where
  queues := ⟨orderly.queues.queued, orderly.queues.distinct, orderly.queues.bits,
    orderly.queues.masked, orderly.queues.waiting, orderly.queues.waitingOnce,
    orderly.queues.waitingOne, orderly.queues.dead, orderly.queues.deadOnce, orderly.queues.timed⟩
  single := orderly.single
  present := orderly.present

theorem exit_critical (orderly : Orderly system) :
    ∃ target, system.exitCritical = some target ∧ Orderly target := by
  unfold System.exitCritical
  simp only
  split
  · obtain ⟨target, scheduled, kept, -⟩ := (orderly.of_lockNest 0).schedule
    exact ⟨target, scheduled, kept⟩
  · exact ⟨_, rfl, orderly.of_lockNest _⟩

/-- A thread outside the lists is closed. -/
theorem close_thread (orderly : Orderly system) {middle : System}
    (limbo : Limbo middle (· = thread)) (current : middle.current = system.current)
    (others : ∀ other, other ≠ thread → middle.threads other = system.threads other)
    (defunct : Bool) : Orderly (middle.closeThread thread defunct) := by
  have closed : Queues (middle.modify thread fun fields =>
      { fields with stat := .close, yield := false, timing := false }) := by
    apply limbo.modify
    · simp
    · intro live
      exact absurd rfl live.2
    · simp
  have own : ((middle.modify thread fun fields =>
      { fields with stat := .close, yield := false, timing := false }).threads thread).stat =
        .close := by
    rw [System.modify_self]
  have shut : Orderly (middle.modify thread fun fields =>
      { fields with stat := .close, yield := false, timing := false }) := by
    apply orderly.of_queues thread closed current
    · intro other different
      rw [System.modify_of_ne _ _ different, others other different]
    · intro running
      exact absurd (own.symm.trans running) (by decide)
    · intro _
      rw [own]
      decide
  unfold System.closeThread
  cases defunct with
  | false => exact shut
  | true =>
      refine ⟨?_, shut.single, shut.present⟩
      exact
        { closed with
          dead := by
            intro other member
            rcases List.mem_cons.mp member with rfl | before
            · exact ⟨id, own⟩
            · exact closed.dead other before
          deadOnce := by
            refine List.nodup_cons.mpr ⟨fun member => ?_, closed.deadOnce⟩
            exact (limbo.dead thread member).1 rfl }

theorem thread_exit (orderly : Orderly system) (created : Bool)
    (running : (system.threads system.current).stat = .running) :
    ∃ target, system.threadExit created = some target ∧ Orderly target := by
  have live : (system.threads system.current).live := by simp [RtThread.live, running]
  have closed := orderly.close_thread (Limbo.removeThread orderly.queues live)
    (System.current_removeThread _ _)
    (fun other _ => congrFun (System.threads_removeThread _ _) other)
    (created || (system.threads system.current).cleanup)
  obtain ⟨target, scheduled, kept, -⟩ := closed.schedule
  exact ⟨target, scheduled, kept⟩

theorem thread_delete (orderly : Orderly system) (created : Bool)
    (open_ : (system.threads thread).stat ≠ .close) :
    Orderly (system.threadDelete thread created) := by
  unfold System.threadDelete
  simp only
  by_cases fresh : (system.threads thread).stat = .init
  · rw [if_neg (not_not.mpr fresh)]
    exact orderly.close_thread (Limbo.of_absent orderly.queues (by simp [fresh])
      (Limbo.unlisted orderly.queues (by simp [fresh]))
      (Limbo.undead orderly.queues (by simp [fresh]))) rfl (fun _ _ => rfl) _
  · rw [if_pos fresh]
    exact orderly.close_thread (Limbo.removeThread orderly.queues ⟨fresh, open_⟩)
      (System.current_removeThread _ _)
      (fun other _ => congrFun (System.threads_removeThread _ _) other) _

end Orderly

end BerPiNbiot.Kernel
