import BerPiNbiot.Kernel.Scheduling
import Mathlib.Algebra.Ring.Nat

/-!
# Preemption

What `rt_schedule` changes, whole runs of the scheduler, and the turns of threads of one
priority.  A run is any interleaving of calls of threads and interrupts that the contracts
of the calls allow.
-/

namespace BerPiNbiot.Kernel

open BerPiNbiot.Transition

/-- A thread that runs when its turn comes. -/
def RtThread.awake (thread : RtThread) : Prop :=
  thread.stat = .ready ∨ thread.stat = .running

instance (thread : RtThread) : Decidable thread.awake :=
  inferInstanceAs (Decidable (_ ∨ _))

/-! ## The lists after a switch -/

namespace System

variable (system : System) (thread : Nat)

@[simp]
theorem table_removeThread :
    (system.removeThread thread).table = fun priority => (system.table priority).erase thread := by
  unfold removeThread
  simp only
  split <;> rfl

@[simp]
theorem suspended_removeThread : (system.removeThread thread).suspended =
    fun object => (system.suspended object).erase thread := by
  unfold removeThread
  simp only
  split <;> rfl

@[simp]
theorem defunct_removeThread :
    (system.removeThread thread).defunct = system.defunct.erase thread := by
  unfold removeThread
  simp only
  split <;> rfl

theorem table_insertThread (elsewhere : thread ≠ system.current) :
    (system.insertThread thread).table =
      Function.update system.table (system.threads thread).currentPriority
        (system.table (system.threads thread).currentPriority ++ [thread]) := by
  unfold insertThread
  rw [if_neg elsewhere]
  simp only [modify_self]
  rfl

@[simp]
theorem suspended_insertThread : (system.insertThread thread).suspended = system.suspended := by
  unfold insertThread
  split <;> rfl

@[simp]
theorem defunct_insertThread : (system.insertThread thread).defunct = system.defunct := by
  unfold insertThread
  split <;> rfl

theorem suspended_switchTo (needInsert : Bool) : (system.switchTo needInsert thread).suspended =
    fun object => (system.suspended object).erase thread := by
  unfold switchTo
  cases needInsert with
  | false => exact suspended_removeThread _ _
  | true =>
      exact (suspended_removeThread _ _).trans
        (congrArg (fun lists => fun object => List.erase (lists object) thread)
          (suspended_insertThread _ _))

theorem defunct_switchTo (needInsert : Bool) :
    (system.switchTo needInsert thread).defunct = system.defunct.erase thread := by
  unfold switchTo
  cases needInsert with
  | false => exact defunct_removeThread _ _
  | true =>
      exact (defunct_removeThread _ _).trans
        (congrArg (fun list => List.erase list thread) (defunct_insertThread _ _))

theorem table_switchTo (needInsert : Bool) (elsewhere : system.current ≠ thread) :
    (system.switchTo needInsert thread).table = fun priority =>
      ((if needInsert then
          Function.update system.table (system.threads system.current).currentPriority
            (system.table (system.threads system.current).currentPriority ++ [system.current])
        else system.table) priority).erase thread := by
  unfold switchTo
  cases needInsert with
  | false => exact table_removeThread _ _
  | true =>
      exact (table_removeThread _ _).trans
        (congrArg (fun table => fun priority => List.erase (table priority) thread)
          (table_insertThread _ _ elsewhere))

end System

namespace Orderly

variable {system target : System}

/-- A running thread is in no list, so that taking it out changes nothing. -/
theorem goOn_eq (orderly : Orderly system)
    (running : (system.threads system.current).stat = .running) : system.goOn = system := by
  have unready : (system.threads system.current).stat ≠ .ready := by simp [running]
  have live : (system.threads system.current).live := by simp [RtThread.live, running]
  obtain ⟨small, mask⟩ := orderly.masked live
  have unlinked : system.unlink system.current = system := by
    unfold System.unlink
    congr 1
    · funext priority
      exact Limbo.erase_other orderly.queues (Or.inr unready)
    · funext object
      exact List.erase_of_not_mem (Limbo.unlisted orderly.queues (by simp [running]) object)
    · exact List.erase_of_not_mem (Limbo.undead orderly.queues (by simp [running]))
  have removed : system.removeThread system.current = system := by
    unfold System.removeThread
    simp only [unlinked]
    split
    · rename_i empty
      -- the bit of an empty queue is clear already
      have group : system.group &&& ~~~(system.threads system.current).numberMask =
          system.group := by
        apply BitVec.eq_of_getLsbD_eq
        intro bit bound
        rw [BitVec.getLsbD_and, BitVec.getLsbD_not, mask, getLsbD_mask small]
        by_cases same : bit = (system.threads system.current).currentPriority
        · have clear : system.group.getLsbD bit = false := by
            rw [Bool.eq_false_iff]
            intro set
            rw [same] at bound set
            exact (orderly.queues.bits _ bound).mp set empty
          simp [clear]
        · simp [same, bound]
      rw [group]
    · rfl
  unfold System.goOn System.modify
  rw [removed]
  congr 1
  rw [← running]
  exact Function.update_eq_self _ _

end Orderly

/-- What `rt_schedule` leaves alone. -/
structure Switched (system target : System) : Prop where
  fields : ∀ thread, target.threads thread = { system.threads thread with
    stat := (target.threads thread).stat
    yield := (target.threads thread).yield }
  awake : ∀ thread, (target.threads thread).awake ↔ (system.threads thread).awake
  asleep : ∀ thread, ¬ (system.threads thread).awake →
    target.threads thread = system.threads thread
  suspended : target.suspended = system.suspended
  defunct : target.defunct = system.defunct
  lockNest : target.lockNest = system.lockNest

theorem Switched.refl (system : System) : Switched system system :=
  ⟨fun _ => rfl, fun _ => Iff.rfl, fun _ _ => rfl, rfl, rfl, rfl⟩

namespace Orderly

variable {system target : System}

/-- The processor is given to the first thread of the highest queue. -/
structure Handover (system target : System) (toThread : Nat) (rest : List Nat) : Prop where
  unlocked : system.lockNest = 0
  first : system.table (system.threads toThread).currentPriority = toThread :: rest
  ready : (system.threads toThread).stat = .ready
  highest : ∀ thread, (system.threads thread).stat = .ready →
    (system.threads toThread).currentPriority ≤ (system.threads thread).currentPriority
  current : target.current = toThread
  own : target.threads toThread = { system.threads toThread with stat := .running }
  others : ∀ thread, thread ≠ toThread → thread ≠ system.current →
    target.threads thread = system.threads thread
  lists : target.suspended = system.suspended ∧ target.defunct = system.defunct ∧
    target.lockNest = system.lockNest
  /-- The thread that had the processor goes to the end of its queue if it could go on. -/
  left : ((system.threads system.current).stat = .running ∧
      ((system.threads toThread).currentPriority <
          (system.threads system.current).currentPriority ∨
        (system.threads toThread).currentPriority =
          (system.threads system.current).currentPriority ∧
        (system.threads system.current).yield = true) ∧
      target.threads system.current =
        { system.threads system.current with stat := .ready, yield := false } ∧
      target.table = fun priority => (Function.update system.table
        (system.threads system.current).currentPriority
        (system.table (system.threads system.current).currentPriority ++
          [system.current]) priority).erase toThread) ∨
    (system.threads system.current).stat ≠ .running ∧
      target.threads system.current = system.threads system.current ∧
      target.table = fun priority => (system.table priority).erase toThread

/-- `rt_schedule` changes nothing or hands the processor over. -/
theorem schedule_cases (orderly : Orderly system) (scheduled : system.schedule = some target) :
    (target = system ∧ (system.lockNest = 0 →
      ∀ thread, (system.threads thread).stat = .ready →
        (system.threads system.current).stat = .running ∧
        ((system.threads system.current).currentPriority <
            (system.threads thread).currentPriority ∨
          (system.threads system.current).currentPriority =
            (system.threads thread).currentPriority ∧
          (system.threads system.current).yield = false))) ∨
      ∃ toThread rest, Handover system target toThread rest := by
  unfold System.schedule at scheduled
  by_cases enabled : system.lockNest = 0 ∧ system.group ≠ 0
  · rw [if_pos enabled] at scheduled
    obtain ⟨toThread, rest, queue, ready, priority, least⟩ := orderly.first_ready enabled.2
    have elsewhere : toThread ≠ system.current := by
      rintro rfl
      exact orderly.present.1 ready
    have unlisted (object : Nat) := Limbo.unlisted orderly.queues
      (show (system.threads toThread).stat ≠ .suspend by simp [ready]) object
    have undead := Limbo.undead orderly.queues
      (show (system.threads toThread).stat ≠ .close by simp [ready])
    simp only [queue, List.head?_cons, Option.map_some, Option.some.injEq] at scheduled
    by_cases keep : (system.threads system.current).stat = .running ∧
        ((system.threads system.current).currentPriority < rtFfs system.group - 1 ∨
          (system.threads system.current).currentPriority = rtFfs system.group - 1 ∧
            (system.threads system.current).yield = false)
    · rw [if_pos keep, orderly.goOn_eq keep.1] at scheduled
      refine Or.inl ⟨scheduled.symm, fun _ thread isReady => ⟨keep.1, ?_⟩⟩
      have bound := least thread isReady
      rcases keep.2 with above | ⟨same, flag⟩
      · exact Or.inl (Nat.lt_of_lt_of_le above bound)
      · rcases Nat.lt_or_eq_of_le bound with below | equal
        · exact Or.inl (same ▸ below)
        · exact Or.inr ⟨same.trans equal, flag⟩
    · rw [if_neg keep] at scheduled
      refine Or.inr ⟨toThread, rest, ?_⟩
      rw [← priority] at queue keep least
      by_cases running : (system.threads system.current).stat = .running
      · simp only [running, decide_true, if_true] at scheduled
        rw [if_pos (show toThread ≠ (system.modify system.current _).current from elsewhere)]
          at scheduled
        have cleared : Orderly (system.modify system.current fun fields =>
            { fields with yield := false }) :=
          orderly.retick system.current fun _ => ⟨rfl, rfl, rfl, rfl⟩
        have same := System.modify_of_ne system (fun fields => { fields with yield := false })
          elsewhere
        have own : (system.modify system.current fun fields =>
            { fields with yield := false }).threads system.current =
              { system.threads system.current with yield := false } :=
          System.modify_self _ _
        obtain ⟨-, current, lockNest, there, left, others⟩ := cleared.switch_to
          (same ▸ ready) (iff_of_true rfl ((congrArg RtThread.stat own).trans running))
        rw [scheduled] at current lockNest there left others
        have displaced : target.threads system.current =
            { system.threads system.current with stat := .ready, yield := false } := by
          refine left.trans ?_
          change ({ (system.modify system.current _).threads system.current with
            stat := _ } : RtThread) = _
          rw [own]
          rfl
        refine ⟨enabled.1, queue, ready, least, current, there.trans (by rw [same]), ?_,
          ⟨?_, ?_, lockNest⟩, Or.inl ⟨running, ?_, displaced, ?_⟩⟩
        · intro thread different away
          exact (others thread different away).trans (System.modify_of_ne _ _ away)
        · rw [← scheduled, System.suspended_switchTo]
          funext object
          exact List.erase_of_not_mem (unlisted object)
        · rw [← scheduled, System.defunct_switchTo]
          exact List.erase_of_not_mem undead
        · rcases Nat.lt_or_ge (system.threads toThread).currentPriority
            (system.threads system.current).currentPriority with above | below
          · exact Or.inl above
          · have equal : (system.threads system.current).currentPriority =
                (system.threads toThread).currentPriority := by
              rcases Nat.lt_or_eq_of_le below with less | equal
              · exact absurd ⟨running, Or.inl less⟩ keep
              · exact equal
            refine Or.inr ⟨equal.symm, ?_⟩
            rw [← Bool.not_eq_false]
            exact fun flag => keep ⟨running, Or.inr ⟨equal, flag⟩⟩
        · have kept : ((system.modify system.current fun fields =>
              { fields with yield := false }).threads system.current).currentPriority =
                (system.threads system.current).currentPriority := by
            rw [own]
          have table := System.table_switchTo (system.modify system.current fun fields =>
            { fields with yield := false }) toThread true (Ne.symm elsewhere)
          rw [scheduled] at table
          refine table.trans ?_
          simp only [if_true]
          rw [← kept]
          rfl
      · simp only [running, decide_false, Bool.false_eq_true, if_false] at scheduled
        rw [if_pos elsewhere] at scheduled
        obtain ⟨-, current, lockNest, there, left, others⟩ := orderly.switch_to ready
          (iff_of_false Bool.false_ne_true running)
        rw [scheduled] at current lockNest there left others
        refine ⟨enabled.1, queue, ready, least, current, there, others, ⟨?_, ?_, lockNest⟩,
          Or.inr ⟨running, left, ?_⟩⟩
        · rw [← scheduled, System.suspended_switchTo]
          funext object
          exact List.erase_of_not_mem (unlisted object)
        · rw [← scheduled, System.defunct_switchTo]
          exact List.erase_of_not_mem undead
        · rw [← scheduled, System.table_switchTo _ _ _ (Ne.symm elsewhere)]
          rfl
  · rw [if_neg enabled, Option.some.injEq] at scheduled
    refine Or.inl ⟨scheduled.symm, fun unlocked thread ready => ?_⟩
    have empty : system.group = 0 := by
      by_contra nonzero
      exact enabled ⟨unlocked, nonzero⟩
    exact absurd ready (orderly.none_ready empty thread)

theorem switched (orderly : Orderly system) (scheduled : system.schedule = some target) :
    Switched system target := by
  rcases orderly.schedule_cases scheduled with ⟨rfl, -⟩ | ⟨toThread, rest, handover⟩
  · exact Switched.refl _
  have shape (thread : Nat) : target.threads thread = system.threads thread ∨
      (system.threads thread).awake ∧ (target.threads thread).awake ∧
        target.threads thread = { system.threads thread with
          stat := (target.threads thread).stat
          yield := (target.threads thread).yield } := by
    by_cases self : thread = toThread
    · subst self
      right
      rw [handover.own]
      exact ⟨Or.inl handover.ready, Or.inr rfl, rfl⟩
    · by_cases old : thread = system.current
      · subst old
        rcases handover.left with ⟨running, -, left, -⟩ | ⟨-, left, -⟩
        · right
          rw [left]
          exact ⟨Or.inr running, Or.inl rfl, rfl⟩
        · exact Or.inl left
      · exact Or.inl (handover.others thread self old)
  refine ⟨?_, ?_, ?_, handover.lists.1, handover.lists.2.1, handover.lists.2.2⟩
  · intro thread
    rcases shape thread with same | ⟨-, -, fields⟩
    · rw [same]
    · exact fields
  · intro thread
    rcases shape thread with same | ⟨before, after, -⟩
    · rw [same]
    · exact iff_of_true after before
  · intro thread asleep
    rcases shape thread with same | ⟨before, -⟩
    · exact same
    · exact absurd before asleep

end Orderly

/-! ## Calls -/

/-- What threads and interrupts call.  `yield` is `rt_schedule` as well, and `rt_thread_resume`
is `release` and `insert`. -/
inductive KernelCall where
  | startup (thread : Nat)
  | suspend (thread : Nat)
  | release (thread : Nat)
  | insert (thread : Nat)
  | block (object : Nat) (flag : IpcFlag) (timed : Bool)
  | wake (object : Nat)
  | wakeAll (object : Nat)
  | timeout (thread : Nat)
  | sleep
  | changePriority (thread priority : Nat)
  | yield
  | tick
  | enterCritical
  | exitCritical
  | exit (created : Bool)
  | delete (thread : Nat) (created : Bool)
  deriving DecidableEq, Repr

/-- One call. -/
def System.call (system : System) : KernelCall → Option System
  | .startup thread => system.threadStartup thread
  | .suspend thread => system.threadSuspend thread
  | .release thread => some (system.releaseThread thread)
  | .insert thread => some (system.insertThread thread)
  | .block object flag timed => system.listSuspend object flag timed
  | .wake object => system.listResume object
  | .wakeAll object => some (system.listResumeAll object (system.suspended object))
  | .timeout thread => system.threadTimeout thread
  | .sleep => system.threadSleep
  | .changePriority thread priority => some (system.changePriority thread priority)
  | .yield => system.threadYield
  | .tick => system.tickIncrease
  | .enterCritical => some system.enterCritical
  | .exitCritical => system.exitCritical
  | .exit created => system.threadExit created
  | .delete thread created => some (system.threadDelete thread created)

/-- What the callers see to: only a running thread blocks, sleeps or exits, a thread is
started once and deleted once, a priority is one of the 32, a waiter is woken only when there
is one, a timer fires only when it is started, and `rt_thread_resume` goes on only with a
thread that is suspended. -/
def System.allowed (system : System) : KernelCall → Prop
  | .startup thread => (system.threads thread).stat = .init ∧
      (system.threads thread).initPriority < 32
  | .release thread => (system.threads thread).stat = .suspend
  | .block .. | .sleep | .exit _ => (system.threads system.current).stat = .running
  | .wake object => system.suspended object ≠ []
  | .timeout thread => (system.threads thread).timing = true
  | .changePriority _ priority => priority < 32
  | .delete thread _ => (system.threads thread).stat ≠ .close
  | .suspend _ | .insert _ | .wakeAll _ | .yield | .tick | .enterCritical | .exitCritical => True

instance (system : System) : DecidablePred system.allowed
  | .startup _ => inferInstanceAs (Decidable (_ ∧ _))
  | .release thread => inferInstanceAs (Decidable ((system.threads thread).stat = .suspend))
  | .block .. | .sleep | .exit _ => inferInstanceAs (Decidable (_ = Stat.running))
  | .wake object => inferInstanceAs (Decidable (system.suspended object ≠ []))
  | .timeout thread => inferInstanceAs (Decidable ((system.threads thread).timing = true))
  | .changePriority _ priority => inferInstanceAs (Decidable (priority < 32))
  | .delete .. => inferInstanceAs (Decidable (_ ≠ Stat.close))
  | .suspend _ | .insert _ | .wakeAll _ | .yield | .tick | .enterCritical | .exitCritical =>
      inferInstanceAs (Decidable True)

/-- The threads that `rt_thread_resume` has released and not yet inserted, behind a call. -/
def KernelCall.resuming (resuming : List Nat) : KernelCall → List Nat
  | .release thread => thread :: resuming
  | .insert thread => resuming.erase thread
  | _ => resuming

/-- The system between the critical sections of the calls of `rt_thread_resume`. -/
structure Sections where
  system : System
  resuming : List Nat

/-- One critical section. -/
def Sections.step : Step Sections KernelCall
  | state, call => (state.system.call call).map fun system =>
      { system := system, resuming := call.resuming state.resuming }

/-- No other call resumes or deletes a thread between the two sections of `rt_thread_resume`. -/
def Sections.allowed (state : Sections) (call : KernelCall) : Prop :=
  state.system.allowed call ∧
    match call with
    | .insert thread => thread ∈ state.resuming
    | .release thread | .delete thread _ => thread ∉ state.resuming
    | _ => True

instance (state : Sections) : DecidablePred state.allowed
  | .insert thread => inferInstanceAs (Decidable (_ ∧ thread ∈ state.resuming))
  | .release thread | .delete thread _ => inferInstanceAs (Decidable (_ ∧ thread ∉ state.resuming))
  | .startup _ | .suspend _ | .block .. | .wake _ | .wakeAll _ | .timeout _ | .sleep
  | .changePriority .. | .yield | .tick | .enterCritical | .exitCritical | .exit _ =>
      inferInstanceAs (Decidable (_ ∧ True))

/-- The calls that put a thread to sleep or end it do not concern this one. -/
def System.spares (system : System) (thread : Nat) : KernelCall → Prop
  | .suspend other | .delete other _ => other ≠ thread
  | .block .. | .sleep | .exit _ => system.current ≠ thread
  | _ => True

instance (system : System) (thread : Nat) : DecidablePred (system.spares thread)
  | .suspend other | .delete other _ => inferInstanceAs (Decidable (other ≠ thread))
  | .block .. | .sleep | .exit _ => inferInstanceAs (Decidable (system.current ≠ thread))
  | .startup _ | .release _ | .insert _ | .wake _ | .wakeAll _ | .timeout _ | .changePriority ..
  | .yield | .tick | .enterCritical | .exitCritical => inferInstanceAs (Decidable True)

/-- Threads that can run, and still can. -/
def KeepsThread (system target : System) (thread : Nat) : Prop :=
  (system.threads thread).awake → (target.threads thread).awake

namespace KeepsThread

variable {system middle target : System} {thread other : Nat}

theorem trans (first : KeepsThread system middle thread)
    (second : KeepsThread middle target thread) :
    KeepsThread system target thread :=
  fun awake => second (first awake)

theorem modify_self {change : RtThread → RtThread}
    (awake : (system.threads thread).awake → (change (system.threads thread)).awake) :
    KeepsThread system (system.modify thread change) thread := by
  rw [KeepsThread, System.modify_self]
  exact awake

theorem modify_other {change : RtThread → RtThread} (different : thread ≠ other) :
    KeepsThread system (system.modify other change) thread := by
  rw [KeepsThread, System.modify_of_ne _ _ different]
  exact id

/-- A change of a thread that can run afterwards if it could before. -/
theorem modify {change : RtThread → RtThread}
    (awake : (system.threads other).awake → (change (system.threads other)).awake) :
    KeepsThread system (system.modify other change) thread := by
  by_cases self : thread = other
  · subst self
    exact modify_self awake
  · exact modify_other self

/-- A change of other fields. -/
theorem retouch {change : RtThread → RtThread}
    (same : ∀ fields, (change fields).stat = fields.stat) :
    KeepsThread system (system.modify other change) thread := by
  apply modify
  intro awake
  rw [RtThread.awake, same]
  exact awake

theorem unlink : KeepsThread system (system.unlink other) thread :=
  id

theorem removeThread : KeepsThread system (system.removeThread other) thread := by
  rw [KeepsThread, System.threads_removeThread]
  exact id

theorem insertThread : KeepsThread system (system.insertThread other) thread := by
  rw [KeepsThread, System.threads_insertThread]
  by_cases self : thread = other
  · subst self
    rw [Function.update_self]
    intro _
    unfold RtThread.awake
    split
    · exact Or.inr rfl
    · exact Or.inl rfl
  · rw [Function.update_of_ne self]
    exact id

theorem switchTo {needInsert : Bool} :
    KeepsThread system (system.switchTo needInsert other) thread := by
  have moved : KeepsThread system { system with current := other } thread := id
  have left : KeepsThread system (if needInsert then
      System.insertThread { system with current := other } system.current
      else { system with current := other }) thread := by
    split
    · exact moved.trans insertThread
    · exact moved
  unfold System.switchTo
  exact (left.trans removeThread).trans (modify fun _ => Or.inr rfl)

theorem goOn : KeepsThread system system.goOn thread :=
  removeThread.trans (modify fun _ => Or.inr rfl)

theorem schedule (scheduled : system.schedule = some target) :
    KeepsThread system target thread := by
  unfold System.schedule at scheduled
  split at scheduled
  · rw [Option.map_eq_some_iff] at scheduled
    obtain ⟨toThread, -, chosen⟩ := scheduled
    have given (before : System) (needInsert : Bool) : KeepsThread before
        (if toThread ≠ before.current then before.switchTo needInsert toThread
        else before.goOn) thread := by
      split
      · exact switchTo
      · exact goOn
    simp only at chosen
    rw [← chosen]
    split
    · exact goOn
    · split
      · refine trans ?_ (given _ _)
        exact retouch fun _ => rfl
      · exact given _ _
  · cases scheduled
    exact id

theorem releaseThread : KeepsThread system (system.releaseThread other) thread := by
  refine trans (@unlink _ _ other) ?_
  exact retouch fun _ => rfl

theorem threadResume : KeepsThread system (system.threadResume other) thread := by
  unfold System.threadResume
  split
  · exact id
  · exact releaseThread.trans insertThread

theorem listResumeAll {object : Nat} {waiters : List Nat} :
    KeepsThread system (system.listResumeAll object waiters) thread := by
  induction waiters generalizing system with
  | nil => exact id
  | cons waiter rest ih =>
      refine trans (trans ?_ threadResume) ih
      exact retouch fun _ => rfl

theorem closeThread {defunct : Bool} (different : thread ≠ other) :
    KeepsThread system (system.closeThread other defunct) thread := by
  unfold System.closeThread
  simp only
  have closed : KeepsThread system (system.modify other fun fields =>
      { fields with stat := .close, yield := false, timing := false }) thread :=
    modify_other different
  split
  · exact closed
  · exact closed

/-- Another thread is suspended. -/
theorem threadSuspend (suspended : system.threadSuspend other = some target)
    (different : thread ≠ other) : KeepsThread system target thread := by
  unfold System.threadSuspend at suspended
  simp only at suspended
  split at suspended
  · cases suspended
    exact id
  · split at suspended
    · contradiction
    · cases suspended
      exact removeThread.trans (modify_other different)

end KeepsThread

/-! ## Threads that are being resumed -/

namespace System.Parked

variable {system target : System} {thread other : Nat}

/-- The thread is left alone. -/
theorem of_same (parked : system.Parked thread)
    (fields : target.threads thread = system.threads thread)
    (lists : ∀ object, thread ∈ target.suspended object → thread ∈ system.suspended object) :
    target.Parked thread where
  suspended := by
    rw [fields]
    exact parked.suspended
  untimed := by
    rw [fields]
    exact parked.untimed
  unlisted := fun object member => parked.unlisted object (lists object member)

theorem modify_other (parked : system.Parked thread) (different : other ≠ thread)
    (change : RtThread → RtThread) : (system.modify other change).Parked thread :=
  parked.of_same (System.modify_of_ne _ _ (Ne.symm different)) fun _ => id

/-- Fields that have nothing to do with waiting. -/
theorem retouch (parked : system.Parked thread) {change : RtThread → RtThread}
    (same : ∀ fields, (change fields).stat = fields.stat ∧
      (change fields).timing = fields.timing) : (system.modify other change).Parked thread := by
  by_cases self : other = thread
  · subst self
    refine ⟨?_, ?_, parked.unlisted⟩
    · rw [System.modify_self, (same _).1]
      exact parked.suspended
    · rw [System.modify_self, (same _).2]
      exact parked.untimed
  · exact parked.modify_other self change

theorem unlink (parked : system.Parked thread) : (system.unlink other).Parked thread :=
  parked.of_same rfl fun _ => List.mem_of_mem_erase

theorem removeThread (parked : system.Parked thread) :
    (system.removeThread other).Parked thread := by
  refine parked.of_same (by rw [System.threads_removeThread]) fun object member => ?_
  rw [System.suspended_removeThread] at member
  exact List.mem_of_mem_erase member

theorem insertThread (parked : system.Parked thread) (different : other ≠ thread) :
    (system.insertThread other).Parked thread := by
  refine parked.of_same ?_ fun object member => ?_
  · rw [System.threads_insertThread, Function.update_of_ne (Ne.symm different)]
  · rw [System.suspended_insertThread] at member
    exact member

theorem releaseThread (parked : system.Parked thread) (different : other ≠ thread) :
    (system.releaseThread other).Parked thread :=
  (@unlink _ _ other parked).modify_other different _

theorem threadResume (parked : system.Parked thread) (different : other ≠ thread) :
    (system.threadResume other).Parked thread := by
  unfold System.threadResume
  split
  · exact parked
  · exact (parked.releaseThread different).insertThread different

theorem listResumeAll (parked : system.Parked thread) {object : Nat} {waiters : List Nat}
    (absent : thread ∉ waiters) : (system.listResumeAll object waiters).Parked thread := by
  induction waiters generalizing system with
  | nil => exact parked
  | cons waiter rest ih =>
      rw [List.mem_cons, not_or] at absent
      exact ih ((parked.modify_other (Ne.symm absent.1) _).threadResume (Ne.symm absent.1))
        absent.2

theorem schedule (parked : system.Parked thread) (orderly : Orderly system)
    (scheduled : system.schedule = some target) : target.Parked thread := by
  have switched := orderly.switched scheduled
  refine parked.of_same (switched.asleep thread ?_) fun object member => ?_
  · rintro (ready | running)
    · exact absurd (parked.suspended.symm.trans ready) (by decide)
    · exact absurd (parked.suspended.symm.trans running) (by decide)
  · rw [switched.suspended] at member
    exact member

/-- The current thread is another one while it runs. -/
theorem ne_current (parked : system.Parked thread)
    (running : (system.threads system.current).stat = .running) : system.current ≠ thread := by
  rintro rfl
  exact absurd (parked.suspended.symm.trans running) (by decide)

theorem threadSuspend (parked : system.Parked thread)
    (suspended : system.threadSuspend other = some target) : target.Parked thread := by
  unfold System.threadSuspend at suspended
  simp only at suspended
  split at suspended
  · cases suspended
    exact parked
  · rename_i inside
    split at suspended
    · contradiction
    · cases suspended
      apply parked.removeThread.modify_other
      rintro rfl
      apply inside
      rw [parked.suspended]
      decide

theorem listSuspend (parked : system.Parked thread) {object : Nat} {flag : IpcFlag} {timed : Bool}
    (running : (system.threads system.current).stat = .running)
    (suspended : system.listSuspend object flag timed = some target) : target.Parked thread := by
  obtain ⟨middle, halted, rfl⟩ := Option.map_eq_some_iff.mp suspended
  have kept := parked.threadSuspend halted
  have elsewhere : middle.current ≠ thread := by
    have current : middle.current = system.current := by
      unfold System.threadSuspend at halted
      simp only at halted
      split at halted
      · cases halted
        rfl
      · split at halted
        · contradiction
        · cases halted
          exact System.current_removeThread _ _
    rw [current]
    exact parked.ne_current running
  have listed : System.Parked { middle with
      suspended := Function.update middle.suspended object
        (middle.place flag middle.current (middle.suspended object)) } thread := by
    refine kept.of_same rfl fun other member => ?_
    change thread ∈ Function.update middle.suspended object _ other at member
    by_cases here : other = object
    · subst here
      rw [Function.update_self, Orderly.mem_place] at member
      exact member.resolve_left (Ne.symm elsewhere)
    · rw [Function.update_of_ne here] at member
      exact member
  exact listed.modify_other elsewhere _

theorem closeThread (parked : system.Parked thread) (different : other ≠ thread)
    (defunct : Bool) : (system.closeThread other defunct).Parked thread := by
  have closed := parked.modify_other different fun fields =>
    { fields with stat := .close, yield := false, timing := false }
  unfold System.closeThread
  cases defunct with
  | false => exact closed
  | true => exact closed.of_same rfl fun _ => id

end System.Parked

/-- A call that its contract allows returns and keeps the scheduler in order. -/
theorem Orderly.call {state : Sections} (orderly : Orderly state.system)
    (parked : ∀ thread ∈ state.resuming, state.system.Parked thread) {call : KernelCall}
    (allowed : state.allowed call) :
    ∃ target, state.system.call call = some target ∧ Orderly target := by
  obtain ⟨contract, apart⟩ := allowed
  cases call with
  | startup thread => exact orderly.thread_startup contract.1 contract.2
  | suspend thread =>
      obtain ⟨target, suspended, kept, -⟩ := orderly.thread_suspend thread
      exact ⟨target, suspended, kept⟩
  | release thread => exact ⟨_, rfl, (orderly.release_thread contract).1⟩
  | insert thread => exact ⟨_, rfl, orderly.insert_thread (parked thread apart)⟩
  | block object flag timed => exact orderly.list_suspend object flag timed contract
  | wake object =>
      obtain ⟨first, rest, queue⟩ := List.exists_cons_of_ne_nil contract
      refine ⟨_, ?_, orderly.thread_resume first⟩
      change (state.system.suspended object).head?.map state.system.threadResume = _
      rw [queue]
      rfl
  | wakeAll object => exact ⟨_, rfl, orderly.list_resume_all object _⟩
  | timeout thread => exact orderly.thread_timeout contract
  | sleep => exact orderly.thread_sleep contract
  | changePriority thread priority => exact ⟨_, rfl, orderly.change_priority thread contract⟩
  | yield =>
      obtain ⟨target, scheduled, kept, -⟩ := orderly.schedule
      exact ⟨target, scheduled, kept⟩
  | tick => exact orderly.tick_increase
  | enterCritical => exact ⟨_, rfl, orderly.of_lockNest _⟩
  | exitCritical => exact orderly.exit_critical
  | exit created => exact orderly.thread_exit created contract
  | delete thread created => exact ⟨_, rfl, orderly.thread_delete created contract⟩

/-- A thread that is being resumed stays where it is. -/
theorem System.Parked.call {system target : System} {thread : Nat} {call : KernelCall}
    (parked : system.Parked thread) (orderly : Orderly system) (allowed : system.allowed call)
    (apart : call ≠ .release thread ∧ call ≠ .insert thread ∧
      ∀ created, call ≠ .delete thread created)
    (called : system.call call = some target) : target.Parked thread := by
  cases call with
  | startup other =>
      have different : other ≠ thread := by
        rintro rfl
        exact absurd (parked.suspended.symm.trans allowed.1) (by decide)
      change system.threadStartup other = some target at called
      unfold System.threadStartup at called
      rw [if_pos allowed.1] at called
      cases called
      exact parked.modify_other different _
  | suspend other => exact parked.threadSuspend called
  | release other =>
      cases called
      exact parked.releaseThread fun same => apart.1 (congrArg KernelCall.release same)
  | insert other =>
      cases called
      exact parked.insertThread fun same => apart.2.1 (congrArg KernelCall.insert same)
  | block object flag timed => exact parked.listSuspend allowed called
  | wake object =>
      obtain ⟨first, head, rfl⟩ := Option.map_eq_some_iff.mp called
      apply parked.threadResume
      rintro rfl
      exact parked.unlisted object (List.mem_of_mem_head? head)
  | wakeAll object =>
      cases called
      exact parked.listResumeAll (parked.unlisted object)
  | timeout other =>
      have different : other ≠ thread := by
        rintro rfl
        exact absurd (parked.untimed.symm.trans allowed) Bool.false_ne_true
      change system.threadTimeout other = some target at called
      unfold System.threadTimeout at called
      rw [if_pos (orderly.queues.timed other id allowed)] at called
      exact ((parked.modify_other different _).unlink.insertThread different).schedule
        (orderly.thread_expire allowed) called
  | sleep =>
      obtain ⟨middle, halted, rfl⟩ := Option.map_eq_some_iff.mp called
      obtain ⟨after, again, -, current, -⟩ := orderly.thread_suspend system.current
      obtain rfl : after = middle := Option.some.inj (again.symm.trans halted)
      apply (parked.threadSuspend halted).modify_other
      rw [current]
      exact parked.ne_current allowed
  | changePriority other priority =>
      cases called
      unfold System.changePriority
      simp only
      split
      · rename_i ready
        have different : other ≠ thread := by
          rintro rfl
          exact absurd (parked.suspended.symm.trans ready) (by decide)
        exact (parked.removeThread.modify_other different _).insertThread different
      · exact parked.retouch fun _ => ⟨rfl, rfl⟩
  | yield => exact parked.schedule orderly called
  | tick =>
      change system.tickIncrease = some target at called
      unfold System.tickIncrease at called
      simp only at called
      have counted : Orderly (system.modify system.current RtThread.count) :=
        orderly.retick system.current Orderly.count_same
      have still : (system.modify system.current RtThread.count).Parked thread :=
        parked.retouch fun fields =>
          ⟨(Orderly.count_same fields).1, (Orderly.count_same fields).2.2.2⟩
      split at called
      · have flagged : ((system.modify system.current RtThread.count).modify system.current
            RtThread.reload).Parked thread :=
          still.retouch fun _ => ⟨rfl, rfl⟩
        exact flagged.schedule (counted.retick _ fun _ => ⟨rfl, rfl, rfl, rfl⟩) called
      · cases called
        exact still
  | enterCritical =>
      cases called
      exact parked.of_same rfl fun _ => id
  | exitCritical =>
      change system.exitCritical = some target at called
      unfold System.exitCritical at called
      simp only at called
      have unlocked : System.Parked { system with lockNest := 0 } thread :=
        parked.of_same rfl fun _ => id
      split at called
      · exact unlocked.schedule (orderly.of_lockNest 0) called
      · cases called
        exact parked.of_same rfl fun _ => id
  | exit created =>
      have running : (system.threads system.current).stat = .running := allowed
      have different := parked.ne_current running
      have live : (system.threads system.current).live := by simp [RtThread.live, running]
      have closed := orderly.close_thread (Limbo.removeThread orderly.queues live)
        (System.current_removeThread _ _)
        (fun other _ => congrFun (System.threads_removeThread _ _) other)
        (created || (system.threads system.current).cleanup)
      exact (parked.removeThread.closeThread different _).schedule closed called
  | delete other created =>
      have different : other ≠ thread := by
        rintro rfl
        exact apart.2.2 created rfl
      cases called
      unfold System.threadDelete
      simp only
      split
      · exact parked.removeThread.closeThread different _
      · exact parked.closeThread different _

/-- A thread that no call puts to sleep or ends can always run. -/
theorem KeepsThread.call {system target : System} {thread : Nat} {call : KernelCall}
    (called : system.call call = some target) (spares : system.spares thread call) :
    KeepsThread system target thread := by
  cases call with
  | startup other =>
      change system.threadStartup other = some target at called
      unfold System.threadStartup at called
      split at called
      · rename_i fresh
        cases called
        refine KeepsThread.modify fun awake => ?_
        rw [RtThread.awake, fresh] at awake
        exact absurd awake (by decide)
      · contradiction
  | suspend other => exact KeepsThread.threadSuspend called (Ne.symm spares)
  | release other =>
      cases called
      exact KeepsThread.releaseThread
  | insert other =>
      cases called
      exact KeepsThread.insertThread
  | block object flag timed =>
      obtain ⟨middle, suspended, rfl⟩ := Option.map_eq_some_iff.mp called
      have kept := KeepsThread.threadSuspend suspended (Ne.symm spares)
      have placed : KeepsThread middle { middle with
          suspended := Function.update middle.suspended object
            (middle.place flag middle.current (middle.suspended object)) } thread :=
        id
      refine (kept.trans placed).trans ?_
      exact KeepsThread.retouch fun _ => rfl
  | wake object =>
      obtain ⟨other, -, rfl⟩ := Option.map_eq_some_iff.mp called
      exact KeepsThread.threadResume
  | wakeAll object =>
      cases called
      exact KeepsThread.listResumeAll
  | timeout other =>
      change system.threadTimeout other = some target at called
      unfold System.threadTimeout at called
      split at called
      · refine KeepsThread.trans ?_
          (KeepsThread.unlink.trans (KeepsThread.insertThread.trans (KeepsThread.schedule called)))
        exact KeepsThread.retouch fun _ => rfl
      · contradiction
  | sleep =>
      obtain ⟨middle, suspended, rfl⟩ := Option.map_eq_some_iff.mp called
      refine (KeepsThread.threadSuspend suspended (Ne.symm spares)).trans ?_
      exact KeepsThread.retouch fun _ => rfl
  | changePriority other priority =>
      cases called
      unfold System.changePriority
      simp only
      split
      · refine KeepsThread.trans (KeepsThread.trans (@KeepsThread.removeThread _ _ other) ?_)
          KeepsThread.insertThread
        exact KeepsThread.retouch fun _ => rfl
      · exact KeepsThread.retouch fun _ => rfl
  | yield => exact KeepsThread.schedule called
  | tick =>
      change system.tickIncrease = some target at called
      unfold System.tickIncrease at called
      simp only at called
      have counted : KeepsThread system (system.modify system.current RtThread.count) thread :=
        KeepsThread.retouch fun fields => (Orderly.count_same fields).1
      split at called
      · refine KeepsThread.trans (counted.trans ?_) (KeepsThread.schedule called)
        exact KeepsThread.retouch fun _ => rfl
      · cases called
        exact counted
  | enterCritical =>
      cases called
      exact id
  | exitCritical =>
      change system.exitCritical = some target at called
      unfold System.exitCritical at called
      simp only at called
      split at called
      · exact KeepsThread.trans
          (show KeepsThread system { system with lockNest := 0 } thread from id)
          (KeepsThread.schedule called)
      · cases called
        exact id
  | exit created =>
      exact (KeepsThread.removeThread.trans (KeepsThread.closeThread (Ne.symm spares))).trans
        (KeepsThread.schedule called)
  | delete other created =>
      cases called
      unfold System.threadDelete
      simp only
      split
      · exact KeepsThread.removeThread.trans (KeepsThread.closeThread (Ne.symm spares))
      · exact KeepsThread.closeThread (Ne.symm spares)

/-! ## Runs -/

/-- The calls of a run that leave one thread alone, the idle thread. -/
def Sections.quiet (idle : Nat) (state : Sections) (call : KernelCall) : Prop :=
  state.allowed call ∧ state.system.spares idle call

instance (idle : Nat) (state : Sections) : DecidablePred (state.quiet idle) :=
  fun _ => inferInstanceAs (Decidable (_ ∧ _))

/-- The scheduler is in order, and the threads that are being resumed are parked. -/
structure Sections.Steady (state : Sections) : Prop where
  orderly : Orderly state.system
  parked : ∀ thread ∈ state.resuming, state.system.Parked thread
  once : state.resuming.Nodup

theorem Sections.Steady.step {state : Sections} (steady : state.Steady) {call : KernelCall}
    (allowed : state.allowed call) :
    ∃ target, state.step call = some target ∧ target.Steady ∧
      state.system.call call = some target.system := by
  obtain ⟨system, called, orderly⟩ := steady.orderly.call steady.parked allowed
  refine ⟨⟨system, call.resuming state.resuming⟩, ?_, ?_, called⟩
  · change (state.system.call call).map _ = _
    rw [called]
    rfl
  have still (thread : Nat) (member : thread ∈ state.resuming)
      (apart : call ≠ .release thread ∧ call ≠ .insert thread ∧
        ∀ created, call ≠ .delete thread created) : system.Parked thread :=
    (steady.parked thread member).call steady.orderly allowed.1 apart called
  cases call with
  | release other =>
      refine ⟨orderly, fun thread member => ?_, List.nodup_cons.mpr ⟨allowed.2, steady.once⟩⟩
      rcases List.mem_cons.mp member with rfl | before
      · cases called
        exact (steady.orderly.release_thread allowed.1).2
      · refine still thread before ⟨?_, nofun, nofun⟩
        rintro ⟨⟩
        exact allowed.2 before
  | insert other =>
      refine ⟨orderly, fun thread member => ?_, steady.once.erase other⟩
      obtain ⟨different, before⟩ := steady.once.mem_erase_iff.mp member
      refine still thread before ⟨nofun, ?_, nofun⟩
      rintro ⟨⟩
      exact different rfl
  | delete other created =>
      refine ⟨orderly, fun thread member => still thread member ⟨nofun, nofun, ?_⟩, steady.once⟩
      rintro _ ⟨⟩
      exact allowed.2 member
  | _ =>
      exact ⟨orderly, fun thread member => still thread member ⟨nofun, nofun, nofun⟩,
        steady.once⟩

theorem call_run {state : Sections} {idle : Nat} {run : List KernelCall} (steady : state.Steady)
    (awake : (state.system.threads idle).awake)
    (quiet : Guarded Sections.step (Sections.quiet idle) state run) :
    ∃ target, exec Sections.step state run = some target ∧ target.Steady ∧
      exec System.call state.system run = some target.system ∧
      (target.system.threads idle).awake := by
  induction run generalizing state with
  | nil => exact ⟨state, rfl, steady, rfl, awake⟩
  | cons call rest ih =>
      obtain ⟨middle, stepped, kept, called⟩ := steady.step quiet.1.1
      obtain ⟨⟨-, spares⟩, later⟩ := guarded_cons_of_step quiet stepped
      obtain ⟨target, executed, last, ran, after⟩ :=
        ih kept (KeepsThread.call called spares awake) later
      refine ⟨target, ?_, last, ?_, after⟩
      · rw [exec_cons, stepped]
        exact executed
      · rw [exec_cons, called]
        exact ran

/-- One thread runs and no other has been started. -/
def System.alone (threads : Nat → RtThread) (thread : Nat) : System where
  threads := threads
  table := fun _ => []
  suspended := fun _ => []
  defunct := []
  group := 0
  current := thread
  lockNest := 0

theorem orderly_alone {threads : Nat → RtThread} {thread : Nat}
    (running : (threads thread).stat = .running) (masked : (threads thread).masked)
    (untimed : (threads thread).timing = false)
    (others : ∀ other, other ≠ thread → (threads other).stat = .init ∧
      (threads other).timing = false) :
    Orderly (System.alone threads thread) := by
  have stat (other : Nat) : (threads other).stat = .running ∧ other = thread ∨
      (threads other).stat = .init := by
    by_cases self : other = thread
    · exact Or.inl ⟨self ▸ running, self⟩
    · exact Or.inr (others other self).1
  refine ⟨⟨?_, ?_, ?_, ?_, ?_, ?_, ?_, ?_, ?_, ?_⟩, ?_, ?_⟩
  · intro priority other
    refine iff_of_false List.not_mem_nil ?_
    rintro ⟨-, ready, -⟩
    change (threads other).stat = .ready at ready
    rcases stat other with ⟨runs, -⟩ | fresh
    · exact absurd (runs.symm.trans ready) (by decide)
    · exact absurd (fresh.symm.trans ready) (by decide)
  · exact fun _ => List.nodup_nil
  · intro priority _
    simp [System.alone]
  · intro other _ live
    rcases stat other with ⟨-, rfl⟩ | fresh
    · exact masked
    · exact absurd fresh live.1
  · exact fun _ _ member => absurd member List.not_mem_nil
  · exact fun _ => List.nodup_nil
  · exact fun _ _ _ member => absurd member List.not_mem_nil
  · exact fun _ member => absurd member List.not_mem_nil
  · exact List.nodup_nil
  · intro other _ timing
    change (threads other).timing = true at timing
    by_cases self : other = thread
    · rw [self, untimed] at timing
      contradiction
    · rw [(others other self).2] at timing
      contradiction
  · intro other runs
    rcases stat other with ⟨-, same⟩ | fresh
    · exact same
    · exact absurd (fresh.symm.trans runs) (by decide)
  · change (threads thread).stat ≠ .ready ∧ (threads thread).stat ≠ .init
    rw [running]
    decide

/-- Threads before they are started, with the idle thread of number 0 on the processor. -/
def bootThreads (thread : Nat) : RtThread where
  stat := if thread = 0 then .running else .init
  yield := false
  initPriority := if thread = 0 then 31 else 10
  currentPriority := if thread = 0 then 31 else 10
  numberMask := if thread = 0 then 1#32 <<< 31 else 0
  initTick := 20
  remainingTick := 20
  error := 0
  timing := false
  cleanup := false

theorem orderly_boot : Orderly (System.alone bootThreads 0) := by
  apply orderly_alone rfl ⟨by decide, rfl⟩ rfl
  intro other different
  exact ⟨if_neg different, rfl⟩

theorem boot_run (run : List KernelCall) (quiet : Guarded Sections.step (Sections.quiet 0)
      ⟨System.alone bootThreads 0, []⟩ run) :
    ∃ system, exec System.call (System.alone bootThreads 0) (run ++ [.yield]) = some system ∧
      Orderly system ∧ (system.lockNest = 0 → Highest system) := by
  obtain ⟨middle, -, steady, executed, awake⟩ := call_run
    ⟨orderly_boot, fun _ member => absurd member List.not_mem_nil, List.nodup_nil⟩ (by decide) quiet
  obtain ⟨system, scheduled, orderly, lockNest, highest⟩ := steady.orderly.schedule
  refine ⟨system, ?_, orderly, fun unlocked => highest (lockNest ▸ unlocked) ⟨0, awake⟩⟩
  rw [exec_append, executed]
  change exec System.call middle.system [.yield] = some system
  rw [exec_cons]
  change middle.system.schedule.bind _ = some system
  rw [scheduled]
  rfl

/-- `rt_thread_yield` gives the processor away only to a thread of a higher priority, or to one
of the same priority when the time slice has ended. -/
theorem threadYield_switches_iff {system target : System} (orderly : Orderly system)
    (unlocked : system.lockNest = 0)
    (running : (system.threads system.current).stat = .running)
    (yielded : system.threadYield = some target) :
    target.current ≠ system.current ↔ ∃ thread, (system.threads thread).stat = .ready ∧
      ((system.threads thread).currentPriority <
          (system.threads system.current).currentPriority ∨
        (system.threads thread).currentPriority =
          (system.threads system.current).currentPriority ∧
        (system.threads system.current).yield = true) := by
  rcases orderly.schedule_cases yielded with ⟨rfl, stays⟩ | ⟨toThread, rest, handover⟩
  · refine iff_of_false (fun moved => moved rfl) ?_
    rintro ⟨thread, ready, above⟩
    obtain ⟨-, below | ⟨same, clear⟩⟩ := stays unlocked thread ready
    · omega
    · rcases above with less | ⟨-, set⟩
      · omega
      · rw [clear] at set
        contradiction
  · refine iff_of_true ?_ ?_
    · rw [handover.current]
      rintro rfl
      exact orderly.present.1 handover.ready
    · rcases handover.left with ⟨-, above, -⟩ | ⟨halted, -⟩
      · exact ⟨toThread, handover.ready, above⟩
      · exact absurd running halted

theorem threadYield_switches_iff_concrete : ∃ system target,
    exec System.call (System.alone bootThreads 0) [.startup 1, .release 1, .insert 1, .startup 2,
      .release 2, .insert 2, .yield] = some system ∧
    system.threadYield = some target ∧
    (target.current ≠ system.current ↔ ∃ thread, (system.threads thread).stat = .ready ∧
      ((system.threads thread).currentPriority <
          (system.threads system.current).currentPriority ∨
        (system.threads thread).currentPriority =
          (system.threads system.current).currentPriority ∧
        (system.threads system.current).yield = true)) := by
  obtain ⟨system, executed, orderly, highest⟩ :=
    boot_run [.startup 1, .release 1, .insert 1, .startup 2, .release 2, .insert 2]
      (by decide +kernel)
  have unlocked : (exec System.call (System.alone bootThreads 0)
      ([.startup 1, .release 1, .insert 1, .startup 2, .release 2, .insert 2] ++
        [.yield])).map System.lockNest = some 0 := by
    decide +kernel
  rw [executed, Option.map_some, Option.some.injEq] at unlocked
  obtain ⟨target, yielded, -⟩ := orderly.schedule
  exact ⟨system, target, executed, yielded,
    threadYield_switches_iff orderly unlocked (highest unlocked).1 yielded⟩

/-! ## Turns -/

/-- The current thread shares the highest priority with the threads of this queue. -/
structure Turns (system : System) (queue : List Nat) : Prop where
  orderly : Orderly system
  unlocked : system.lockNest = 0
  running : (system.threads system.current).stat = .running
  queued : system.table (system.threads system.current).currentPriority = queue
  least : ∀ thread, (system.threads thread).stat = .ready →
    (system.threads system.current).currentPriority ≤ (system.threads thread).currentPriority

namespace Turns

variable {system : System} {queue : List Nat}

theorem retick (turns : Turns system queue) {change : RtThread → RtThread}
    (same : ∀ fields, (change fields).stat = fields.stat ∧
      (change fields).currentPriority = fields.currentPriority ∧
      (change fields).numberMask = fields.numberMask ∧ (change fields).timing = fields.timing) :
    Turns (system.modify system.current change) queue := by
  have own : ((system.modify system.current change).threads system.current).currentPriority =
      (system.threads system.current).currentPriority := by
    rw [System.modify_self]
    exact (same _).2.1
  refine ⟨turns.orderly.retick system.current same, turns.unlocked, ?_, ?_, ?_⟩
  · change ((system.modify system.current change).threads system.current).stat = .running
    rw [System.modify_self, (same _).1]
    exact turns.running
  · change system.table ((system.modify system.current change).threads
      system.current).currentPriority = queue
    rw [own]
    exact turns.queued
  · intro thread ready
    change ((system.modify system.current change).threads system.current).currentPriority ≤ _
    rw [own]
    by_cases self : thread = system.current
    · rw [self]
      exact Nat.le_of_eq own.symm
    · rw [System.modify_of_ne _ _ self] at ready ⊢
      exact turns.least thread ready

/-- A tick within the time slice. -/
theorem count (turns : Turns system queue)
    (many : 1 < (system.threads system.current).remainingTick)
    (small : (system.threads system.current).remainingTick < 4294967296) :
    ∃ target, system.tickIncrease = some target ∧ Turns target queue ∧
      target.current = system.current ∧
      (target.threads system.current).remainingTick + 1 =
        (system.threads system.current).remainingTick ∧
      ∀ thread, thread ≠ system.current → target.threads thread = system.threads thread := by
  have own : ((system.modify system.current RtThread.count).threads
      system.current).remainingTick + 1 = (system.threads system.current).remainingTick := by
    rw [System.modify_self]
    unfold RtThread.count
    simp only
    omega
  refine ⟨_, ?_, turns.retick Orderly.count_same, rfl, own,
    fun thread different => System.modify_of_ne _ _ different⟩
  unfold System.tickIncrease
  simp only
  split
  · rename_i zero
    rw [System.current_modify] at zero
    omega
  · rfl

/-- With the flag set the processor goes to the first thread of the queue, and the current
thread to its end. -/
theorem hand_over {first : Nat} {rest : List Nat} (turns : Turns system (first :: rest))
    (flag : (system.threads system.current).yield = true) :
    ∃ target, system.schedule = some target ∧ Turns target (rest ++ [system.current]) ∧
      target.current = first ∧ Switched system target := by
  have member : first ∈ system.table (system.threads system.current).currentPriority := by
    rw [turns.queued]
    exact List.mem_cons_self
  obtain ⟨-, ready, priority⟩ := (turns.orderly.queues.queued _ first).mp member
  obtain ⟨target, scheduled, kept, lockNest, highest⟩ := turns.orderly.schedule
  have top := highest turns.unlocked ⟨first, Or.inl ready⟩
  have switched := turns.orderly.switched scheduled
  rcases turns.orderly.schedule_cases scheduled with ⟨-, stays⟩ | ⟨toThread, others, handover⟩
  · obtain ⟨-, less | ⟨-, clear⟩⟩ := stays turns.unlocked first ready
    · omega
    · rw [flag] at clear
      contradiction
  · have same : (system.threads toThread).currentPriority =
        (system.threads system.current).currentPriority := by
      apply Nat.le_antisymm
      · rw [← priority]
        exact handover.highest first ready
      · exact turns.least toThread handover.ready
    have queues := handover.first
    rw [same, turns.queued, List.cons.injEq] at queues
    obtain ⟨rfl, rfl⟩ := queues
    have priorityThere : (target.threads target.current).currentPriority =
        (system.threads system.current).currentPriority := by
      rw [handover.current, handover.own]
      exact same
    refine ⟨target, scheduled, ⟨kept, lockNest.trans turns.unlocked, top.1, ?_, top.2⟩,
      handover.current, switched⟩
    rcases handover.left with ⟨-, -, -, table⟩ | ⟨halted, -⟩
    · rw [priorityThere, table]
      simp only [Function.update_self, turns.queued]
      rw [List.cons_append, List.erase_cons_head]
    · exact absurd turns.running halted

/-- The tick that ends the time slice. -/
theorem expire {first : Nat} {rest : List Nat} (turns : Turns system (first :: rest))
    (last : (system.threads system.current).remainingTick = 1) :
    ∃ target, system.tickIncrease = some target ∧ Turns target (rest ++ [system.current]) ∧
      target.current = first ∧
      ∀ thread, thread ≠ system.current →
        (target.threads thread).remainingTick = (system.threads thread).remainingTick := by
  have counted : Turns (system.modify system.current RtThread.count) (first :: rest) :=
    turns.retick Orderly.count_same
  have flagged : Turns ((system.modify system.current RtThread.count).modify system.current
      RtThread.reload) (first :: rest) :=
    counted.retick fun _ => ⟨rfl, rfl, rfl, rfl⟩
  obtain ⟨target, scheduled, after, current, switched⟩ := flagged.hand_over (by
    simp only [System.current_modify, System.modify_self]
    rfl)
  refine ⟨target, ?_, after, current, ?_⟩
  · unfold System.tickIncrease
    simp only [System.current_modify, System.modify_self]
    rw [if_pos]
    · exact scheduled
    · rw [RtThread.count, last]
  · intro thread different
    rw [switched.fields thread]
    simp only [System.modify_of_ne _ _ different]

/-- A whole time slice. -/
theorem slice {first : Nat} {rest : List Nat} {ticks : Nat} (turns : Turns system (first :: rest))
    (remaining : (system.threads system.current).remainingTick = ticks + 1)
    (small : ticks + 1 < 4294967296) :
    ∃ target, exec System.call system (List.replicate (ticks + 1) .tick) = some target ∧
      Turns target (rest ++ [system.current]) ∧ target.current = first ∧
      ∀ thread, thread ≠ system.current →
        (target.threads thread).remainingTick = (system.threads thread).remainingTick := by
  induction ticks generalizing system with
  | zero =>
      obtain ⟨target, ticked, after⟩ := turns.expire remaining
      refine ⟨target, ?_, after⟩
      rw [List.replicate_one, exec_cons]
      change system.tickIncrease.bind _ = _
      rw [ticked]
      rfl
  | succ ticks ih =>
      obtain ⟨middle, ticked, counted, current, less, others⟩ := turns.count (by omega) (by omega)
      have left : (middle.threads middle.current).remainingTick = ticks + 1 := by
        rw [current]
        omega
      obtain ⟨target, executed, after, now, kept⟩ := ih counted left (by omega)
      rw [current] at after kept
      refine ⟨target, ?_, after, now, ?_⟩
      · rw [List.replicate_succ, exec_cons]
        change system.tickIncrease.bind _ = _
        rw [ticked]
        exact executed
      · intro thread different
        rw [kept thread different, others thread different]

end Turns

/-- Threads of the highest priority take turns: the one at a place of their queue runs after
exactly as many ticks as those before it have left of their time slices, and these are then
behind it in the same order. -/
theorem round_robin {system : System} {before after : List Nat} {thread : Nat}
    (turns : Turns system (before ++ thread :: after))
    (slices : ∀ other ∈ system.current :: before, 0 < (system.threads other).remainingTick ∧
      (system.threads other).remainingTick < 4294967296) :
    ∃ target, exec System.call system (List.replicate
        ((system.current :: before).map fun other => (system.threads other).remainingTick).sum
        .tick) = some target ∧
      target.current = thread ∧ Turns target (after ++ system.current :: before) := by
  induction before generalizing system after with
  | nil =>
      obtain ⟨positive, small⟩ := slices system.current List.mem_cons_self
      obtain ⟨ticks, remaining⟩ := Nat.exists_eq_add_one.mpr positive
      obtain ⟨target, executed, later, now, -⟩ := turns.slice remaining (by omega)
      refine ⟨target, ?_, now, later⟩
      rw [List.map_singleton, List.sum_singleton, remaining]
      exact executed
  | cons first before ih =>
      obtain ⟨positive, small⟩ := slices system.current List.mem_cons_self
      obtain ⟨ticks, remaining⟩ := Nat.exists_eq_add_one.mpr positive
      obtain ⟨middle, executed, later, now, kept⟩ := turns.slice remaining (by omega)
      -- the other threads of the queue have their slices still
      have same (other : Nat) (member : other ∈ first :: before) :
          (middle.threads other).remainingTick = (system.threads other).remainingTick := by
        apply kept
        rintro rfl
        have queued : system.current ∈
            system.table (system.threads system.current).currentPriority := by
          rw [turns.queued]
          exact List.mem_append_left _ member
        exact turns.orderly.present.1 ((turns.orderly.queues.queued _ _).mp queued).2.1
      have rotated : Turns middle (before ++ thread :: (after ++ [system.current])) := by
        rwa [← List.cons_append, ← List.append_assoc]
      obtain ⟨target, rest, current, last⟩ := ih rotated (by
        intro other member
        rw [now] at member
        rw [same other member]
        exact slices other (List.mem_cons_of_mem _ member))
      rw [now] at rest last
      rw [List.map_congr_left same] at rest
      refine ⟨target, ?_, current, ?_⟩
      · rw [List.map_cons, List.sum_cons, List.replicate_add, exec_append, remaining, executed]
        exact rest
      · rw [List.append_assoc] at last
        exact last

theorem round_robin_concrete : ∃ system target,
    exec System.call (System.alone bootThreads 0) [.startup 1, .release 1, .insert 1, .startup 2,
      .release 2, .insert 2, .startup 3, .release 3, .insert 3, .yield] = some system ∧
    exec System.call system (List.replicate 40 .tick) = some target ∧ target.current = 3 := by
  obtain ⟨system, executed, orderly, highest⟩ :=
    boot_run [.startup 1, .release 1, .insert 1, .startup 2, .release 2, .insert 2, .startup 3,
      .release 3, .insert 3] (by decide +kernel)
  have facts : (exec System.call (System.alone bootThreads 0)
      [.startup 1, .release 1, .insert 1, .startup 2, .release 2, .insert 2, .startup 3,
        .release 3, .insert 3, .yield]).map (fun system =>
        (system.current, system.lockNest, (system.threads 1).currentPriority, system.table 10,
        (system.threads 1).remainingTick, (system.threads 2).remainingTick)) =
      some (1, (0 : Int), 10, [2, 3], 20, 20) := by
    decide +kernel
  simp only [List.cons_append, List.nil_append] at executed
  rw [executed, Option.map_some, Option.some.injEq] at facts
  simp only [Prod.mk.injEq] at facts
  obtain ⟨current, unlocked, priority, queue, one, two⟩ := facts
  have top := highest unlocked
  have queued : system.table (system.threads system.current).currentPriority = [2, 3] := by
    rw [current, priority, queue]
  obtain ⟨target, ran, now, -⟩ := @round_robin system [2] [] 3
    ⟨orderly, unlocked, top.1, queued, top.2⟩ (by
      rw [current]
      simp [one, two])
  refine ⟨system, target, executed, ?_, now⟩
  rw [current] at ran
  simpa [one, two] using ran

end BerPiNbiot.Kernel
