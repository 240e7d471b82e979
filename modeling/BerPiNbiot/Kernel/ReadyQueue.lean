import BerPiNbiot.Kernel.Scheduler

/-!
# The ready queues

A thread is in the queue of its priority exactly when it is ready, and a bit of the
priority group is set exactly when its queue is not empty.  While a thread is moved from
one list to another it is in none of them; `Limbo` is the invariant of that moment.
-/

namespace BerPiNbiot.Kernel

/-! ## Priorities as bits -/

theorem getLsbD_mask {priority bit : Nat} (small : priority < 32) :
    (1#32 <<< priority).getLsbD bit = decide (bit = priority) := by
  rw [← BitVec.twoPow_eq, BitVec.getLsbD_twoPow]
  by_cases same : bit = priority
  · subst same
    simp [small]
  · simp [same, Ne.symm same]

/-- The lowest set bit is the highest priority. -/
theorem rtFfs_spec {value : BitVec 32} (nonzero : value ≠ 0) :
    ∃ bit, rtFfs value - 1 = bit ∧ bit < 32 ∧ value.getLsbD bit = true ∧
      ∀ lower, lower < bit → value.getLsbD lower = false := by
  unfold rtFfs
  cases found : (List.range 32).find? value.getLsbD with
  | none =>
      exfalso
      apply nonzero
      apply BitVec.eq_of_getLsbD_eq
      intro bit small
      have clear := List.find?_eq_none.mp found bit (List.mem_range.mpr small)
      simp only [Bool.not_eq_true] at clear
      rw [clear]
      simp
  | some bit =>
      have member := List.mem_range.mp (List.mem_of_find?_eq_some found)
      refine ⟨bit, rfl, member, List.find?_some found, ?_⟩
      intro lower below
      rw [List.find?_range_eq_some] at found
      simpa using found.2.2 lower below

/-! ## Fields of threads -/

namespace System

variable (system : System) {thread other : Nat} (change : RtThread → RtThread)

@[simp]
theorem modify_self : (system.modify thread change).threads thread =
    change (system.threads thread) :=
  Function.update_self _ _ _

theorem modify_of_ne (different : other ≠ thread) :
    (system.modify thread change).threads other = system.threads other :=
  Function.update_of_ne different _ _

@[simp]
theorem current_modify : (system.modify thread change).current = system.current :=
  rfl

@[simp]
theorem threads_removeThread (thread : Nat) :
    (system.removeThread thread).threads = system.threads := by
  unfold removeThread
  simp only
  split <;> rfl

@[simp]
theorem current_removeThread (thread : Nat) :
    (system.removeThread thread).current = system.current := by
  unfold removeThread
  simp only
  split <;> rfl

@[simp]
theorem lockNest_removeThread (thread : Nat) :
    (system.removeThread thread).lockNest = system.lockNest := by
  unfold removeThread
  simp only
  split <;> rfl

end System

/-! ## The invariant -/

/-- A thread that takes part in scheduling. -/
def RtThread.live (thread : RtThread) : Prop :=
  thread.stat ≠ .init ∧ thread.stat ≠ .close

/-- The attributes of a priority fit together. -/
def RtThread.masked (thread : RtThread) : Prop :=
  thread.currentPriority < 32 ∧ thread.numberMask = 1#32 <<< thread.currentPriority

/-- The lists of the system without one thread, which is in none of them. -/
structure Limbo (system : System) (except : Nat → Prop) : Prop where
  queued : ∀ priority thread, thread ∈ system.table priority ↔
    ¬ except thread ∧ (system.threads thread).stat = .ready ∧
      (system.threads thread).currentPriority = priority
  distinct : ∀ priority, (system.table priority).Nodup
  bits : ∀ priority, priority < 32 →
    (system.group.getLsbD priority = true ↔ system.table priority ≠ [])
  masked : ∀ thread, ¬ except thread → (system.threads thread).live →
    (system.threads thread).masked
  waiting : ∀ object thread, thread ∈ system.suspended object →
    ¬ except thread ∧ (system.threads thread).stat = .suspend
  waitingOnce : ∀ object, (system.suspended object).Nodup
  waitingOne : ∀ object other thread, thread ∈ system.suspended object →
    thread ∈ system.suspended other → object = other
  dead : ∀ thread ∈ system.defunct, ¬ except thread ∧ (system.threads thread).stat = .close
  deadOnce : system.defunct.Nodup
  timed : ∀ thread, ¬ except thread → (system.threads thread).timing = true →
    (system.threads thread).stat = .suspend

/-- The lists of the system. -/
abbrev Queues (system : System) : Prop :=
  Limbo system fun _ => False

namespace Limbo

variable {system : System} {except : Nat → Prop} {thread : Nat}

/-- A thread that leaves its list is in none. -/
theorem unlink (queues : Queues system) (thread : Nat) {group : BitVec 32}
    (bits : ∀ priority, priority < 32 →
      (group.getLsbD priority = true ↔ (system.table priority).erase thread ≠ [])) :
    Limbo { system.unlink thread with group := group } (· = thread) where
  queued := by
    intro priority other
    simp only [System.unlink, (queues.distinct priority).mem_erase_iff, queues.queued,
      not_false_eq_true, true_and, ne_eq]
  distinct := fun priority => (queues.distinct priority).erase thread
  bits := bits
  masked := fun other _ => queues.masked other id
  waiting := by
    intro object other member
    simp only [System.unlink, (queues.waitingOnce object).mem_erase_iff] at member
    exact ⟨member.1, (queues.waiting object other member.2).2⟩
  waitingOnce := fun object => (queues.waitingOnce object).erase thread
  waitingOne := by
    intro object other waiter first second
    exact queues.waitingOne object other waiter (List.mem_of_mem_erase first)
      (List.mem_of_mem_erase second)
  dead := by
    intro other member
    simp only [System.unlink, queues.deadOnce.mem_erase_iff] at member
    exact ⟨member.1, (queues.dead other member.2).2⟩
  deadOnce := queues.deadOnce.erase thread
  timed := fun other _ => queues.timed other id

/-- The queues of other priorities do not have the thread. -/
theorem erase_other (queues : Queues system) {priority : Nat}
    (other : priority ≠ (system.threads thread).currentPriority ∨
      (system.threads thread).stat ≠ .ready) :
    (system.table priority).erase thread = system.table priority := by
  apply List.erase_of_not_mem
  intro member
  obtain ⟨-, ready, same⟩ := (queues.queued priority thread).mp member
  rcases other with different | unready
  · exact different same.symm
  · exact unready ready

/-- `rt_schedule_remove_thread` -/
theorem removeThread (queues : Queues system) (live : (system.threads thread).live) :
    Limbo (system.removeThread thread) (· = thread) := by
  obtain ⟨small, mask⟩ := queues.masked thread id live
  unfold System.removeThread
  by_cases empty : (system.table (system.threads thread).currentPriority).erase thread = []
  · have condition : (system.unlink thread).table
        ((system.unlink thread).threads thread).currentPriority = [] := empty
    simp only
    rw [if_pos condition]
    apply unlink queues
    intro priority bound
    change ((system.group &&& ~~~(system.threads thread).numberMask).getLsbD priority = true) ↔ _
    rw [mask, BitVec.getLsbD_and, BitVec.getLsbD_not, getLsbD_mask small]
    by_cases same : priority = (system.threads thread).currentPriority
    · subst same
      simp [empty]
    · rw [erase_other queues (Or.inl same), ← queues.bits priority bound]
      simp [same, bound]
  · have condition : ¬ (system.unlink thread).table
        ((system.unlink thread).threads thread).currentPriority = [] := empty
    simp only
    rw [if_neg condition]
    apply unlink queues
    intro priority bound
    rw [queues.bits priority bound]
    by_cases same : priority = (system.threads thread).currentPriority
    · subst same
      refine iff_of_true ?_ empty
      intro vanished
      rw [vanished] at empty
      exact empty rfl
    · rw [erase_other queues (Or.inl same)]

/-- The thread comes to rest outside the ready queues. -/
theorem modify (limbo : Limbo system (· = thread)) {change : RtThread → RtThread}
    (unready : (change (system.threads thread)).stat ≠ .ready)
    (masked : (change (system.threads thread)).live → (change (system.threads thread)).masked)
    (timed : (change (system.threads thread)).timing = true →
      (change (system.threads thread)).stat = .suspend) :
    Queues (system.modify thread change) where
  queued := by
    intro priority other
    rw [show (system.modify thread change).table = system.table from rfl, limbo.queued]
    by_cases same : other = thread
    · subst same
      simp [unready]
    · rw [System.modify_of_ne _ _ same]
      simp [same]
  distinct := limbo.distinct
  bits := limbo.bits
  masked := by
    intro other _
    by_cases same : other = thread
    · subst same
      rw [System.modify_self]
      exact masked
    · rw [System.modify_of_ne _ _ same]
      exact limbo.masked other same
  waiting := by
    intro object other member
    obtain ⟨different, suspended⟩ := limbo.waiting object other member
    rw [System.modify_of_ne _ _ different]
    exact ⟨id, suspended⟩
  waitingOnce := limbo.waitingOnce
  waitingOne := limbo.waitingOne
  dead := by
    intro other member
    obtain ⟨different, closed⟩ := limbo.dead other member
    rw [System.modify_of_ne _ _ different]
    exact ⟨id, closed⟩
  deadOnce := limbo.deadOnce
  timed := by
    intro other _
    by_cases same : other = thread
    · subst same
      rw [System.modify_self]
      exact timed
    · rw [System.modify_of_ne _ _ same]
      exact limbo.timed other same

/-- A thread outside the lists may change as long as it stays there. -/
theorem change (limbo : Limbo system (· = thread)) (change : RtThread → RtThread) :
    Limbo (system.modify thread change) (· = thread) where
  queued := by
    intro priority other
    rw [show (system.modify thread change).table = system.table from rfl, limbo.queued]
    apply and_congr_right
    intro different
    rw [System.modify_of_ne _ _ different]
  distinct := limbo.distinct
  bits := limbo.bits
  masked := by
    intro other different
    rw [System.modify_of_ne _ _ different]
    exact limbo.masked other different
  waiting := by
    intro object other member
    obtain ⟨different, suspended⟩ := limbo.waiting object other member
    rw [System.modify_of_ne _ _ different]
    exact ⟨different, suspended⟩
  waitingOnce := limbo.waitingOnce
  waitingOne := limbo.waitingOne
  dead := by
    intro other member
    obtain ⟨different, closed⟩ := limbo.dead other member
    rw [System.modify_of_ne _ _ different]
    exact ⟨different, closed⟩
  deadOnce := limbo.deadOnce
  timed := by
    intro other different
    rw [System.modify_of_ne _ _ different]
    exact limbo.timed other different

/-- A ready thread at the end of its queue. -/
theorem enqueue (limbo : Limbo system (· = thread))
    (ready : (system.threads thread).stat = .ready)
    (masked : (system.threads thread).masked)
    (untimed : (system.threads thread).timing = false) :
    Queues { system with
      table := Function.update system.table (system.threads thread).currentPriority
        (system.table (system.threads thread).currentPriority ++ [thread])
      group := system.group ||| (system.threads thread).numberMask } where
  queued := by
    intro priority other
    simp only [not_false_eq_true, true_and]
    by_cases same : priority = (system.threads thread).currentPriority
    · subst same
      rw [Function.update_self, List.mem_append, List.mem_singleton, limbo.queued]
      by_cases self : other = thread
      · subst self
        simp [ready]
      · simp [self]
    · rw [Function.update_of_ne same, limbo.queued]
      by_cases self : other = thread
      · subst self
        simp [Ne.symm same]
      · simp [self]
  distinct := by
    intro priority
    by_cases same : priority = (system.threads thread).currentPriority
    · subst same
      simp only [Function.update_self]
      rw [List.nodup_append]
      refine ⟨limbo.distinct _, List.nodup_singleton thread, ?_⟩
      intro other member last single
      rw [List.mem_singleton] at single
      rw [single]
      exact ((limbo.queued _ other).mp member).1
    · simp only [Function.update_of_ne same]
      exact limbo.distinct priority
  bits := by
    intro priority bound
    simp only [BitVec.getLsbD_or, masked.2, getLsbD_mask masked.1, Bool.or_eq_true,
      decide_eq_true_eq]
    by_cases same : priority = (system.threads thread).currentPriority
    · subst same
      simp
    · rw [Function.update_of_ne same, limbo.bits priority bound]
      simp [same]
  masked := by
    intro other _
    by_cases self : other = thread
    · subst self
      exact fun _ => masked
    · exact limbo.masked other self
  waiting := fun object other member => ⟨id, (limbo.waiting object other member).2⟩
  waitingOnce := limbo.waitingOnce
  waitingOne := limbo.waitingOne
  dead := fun other member => ⟨id, (limbo.dead other member).2⟩
  deadOnce := limbo.deadOnce
  timed := by
    intro other _
    by_cases self : other = thread
    · subst self
      simp [untimed]
    · exact limbo.timed other self

/-- `rt_schedule_insert_thread` -/
theorem insertThread (limbo : Limbo system (· = thread)) (masked : (system.threads thread).masked)
    (untimed : (system.threads thread).timing = false) : Queues (system.insertThread thread) := by
  obtain ⟨small, mask⟩ := masked
  unfold System.insertThread
  by_cases self : thread = system.current
  · rw [if_pos self]
    apply limbo.modify
    · simp
    · intro _
      exact ⟨small, mask⟩
    · simp [untimed]
  · rw [if_neg self]
    apply (limbo.change _).enqueue
    · rw [System.modify_self]
    · rw [System.modify_self]
      exact ⟨small, mask⟩
    · rw [System.modify_self]
      exact untimed

end Limbo

end BerPiNbiot.Kernel
