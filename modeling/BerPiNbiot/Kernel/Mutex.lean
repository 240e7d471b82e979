import Mathlib.Data.List.Basic

/-!
# RT-Thread mutexes

A mutex is recursive for its owner, keeps an 8-bit hold count and a first-in
first-out queue of waiting threads.  Its value is positive exactly while it has
no owner, so the owner field stands for both.  Releasing hands the mutex over to
the first waiting thread; a release by another thread than the owner does
nothing.

`Mutex.view` is what one thread can tell of a mutex: its hold count, or nothing
while it is not the owner.  What the other threads do never changes it.
-/

namespace BerPiNbiot.Kernel

variable {Thread : Type} [DecidableEq Thread]

/-- `struct rt_mutex` -/
structure Mutex (Thread : Type) where
  owner : Option Thread := none
  hold : UInt8 := 0
  waiting : List Thread := []
  deriving DecidableEq, Repr

/-- `rt_mutex_take(mutex, RT_WAITING_FOREVER)`; the flag says whether the caller
got the mutex at once, otherwise it waits in the queue. -/
def rtMutexTake (thread : Thread) (mutex : Mutex Thread) : Bool × Mutex Thread :=
  if mutex.owner = some thread then
    (true, { mutex with hold := mutex.hold + 1 })
  else if mutex.owner = none then
    (true, { mutex with owner := some thread, hold := mutex.hold + 1 })
  else
    (false, { mutex with waiting := mutex.waiting ++ [thread] })

/-- `rt_mutex_release(mutex)`, with the thread that is woken by it. -/
def rtMutexRelease (thread : Thread) (mutex : Mutex Thread) : Mutex Thread × Option Thread :=
  if mutex.owner ≠ some thread then
    (mutex, none)
  else if mutex.hold - 1 ≠ 0 then
    ({ mutex with hold := mutex.hold - 1 }, none)
  else
    match mutex.waiting with
    | [] => ({ owner := none, hold := 0, waiting := [] }, none)
    | next :: rest => ({ owner := some next, hold := 1, waiting := rest }, some next)

/-- The hold count of a thread that owns the mutex. -/
def Mutex.view (thread : Thread) (mutex : Mutex Thread) : Option UInt8 :=
  if mutex.owner = some thread then some mutex.hold else none

/-- A free mutex has no holds, and a running thread waits in no queue. -/
structure Mutex.Coherent (thread : Thread) (mutex : Mutex Thread) : Prop where
  free : mutex.owner = none → mutex.hold = 0
  notWaiting : thread ∉ mutex.waiting

/-- What the other threads can have done to a mutex. -/
def Interferes (thread : Thread) (before after : Mutex Thread) : Prop :=
  after.Coherent thread ∧ after.view thread = before.view thread

/-- The hold count behind a view after taking once more. -/
def viewTake : Option UInt8 → UInt8
  | none => 1
  | some hold => hold + 1

/-- The view after releasing once. -/
def viewRelease : Option UInt8 → Option UInt8
  | none => none
  | some hold => if hold - 1 = 0 then none else some (hold - 1)

theorem view_eq_none_iff {thread : Thread} {mutex : Mutex Thread} :
    mutex.view thread = none ↔ mutex.owner ≠ some thread := by
  unfold Mutex.view
  split <;> simp_all

/-- A take that returns leaves the caller one more hold. -/
theorem rtMutexTake_view {thread : Thread} {mutex after : Mutex Thread}
    (coherent : mutex.Coherent thread) (taken : rtMutexTake thread mutex = (true, after)) :
    after.view thread = some (viewTake (mutex.view thread)) ∧ after.Coherent thread := by
  unfold rtMutexTake at taken
  split at taken
  · rename_i own
    cases taken
    refine ⟨by simp [Mutex.view, own, viewTake], ?_, coherent.notWaiting⟩
    intro none
    simp [own] at none
  · split at taken
    · rename_i _ free
      cases taken
      refine ⟨by simp [Mutex.view, free, viewTake, coherent.free free], ?_, coherent.notWaiting⟩
      intro none
      simp at none
    · simp at taken

/-- A release takes one hold back. -/
theorem rtMutexRelease_view {thread : Thread} {mutex : Mutex Thread}
    (coherent : mutex.Coherent thread) :
    (rtMutexRelease thread mutex).1.view thread = viewRelease (mutex.view thread) ∧
      (rtMutexRelease thread mutex).1.Coherent thread := by
  unfold rtMutexRelease
  split
  · rename_i other
    have unowned := view_eq_none_iff.mpr other
    rw [unowned]
    exact ⟨rfl, coherent⟩
  · rename_i own
    rw [not_not] at own
    have view : mutex.view thread = some mutex.hold := by
      rw [Mutex.view, if_pos own]
    split
    · rename_i more
      refine ⟨by simp [Mutex.view, own, viewRelease, more], ?_, coherent.notWaiting⟩
      intro none
      simp [own] at none
    · rename_i last
      rw [not_not] at last
      rw [view, viewRelease, if_pos last]
      cases queue : mutex.waiting with
      | nil => exact ⟨by simp [Mutex.view], fun _ => rfl, by simp⟩
      | cons next rest =>
          have waits := coherent.notWaiting
          rw [queue, List.mem_cons, not_or] at waits
          refine ⟨?_, ?_, waits.2⟩
          · simp [Mutex.view, Ne.symm waits.1]
          · intro none
            simp at none

/-- A free mutex can be taken. -/
theorem rtMutexTake_of_free {thread : Thread} {mutex : Mutex Thread}
    (free : mutex.owner = none ∨ mutex.owner = some thread) :
    (rtMutexTake thread mutex).1 = true := by
  unfold rtMutexTake
  rcases free with free | own
  · simp [free]
  · simp [own]

/-! ## Owner and queue -/

theorem rtMutexTake_owner {thread : Thread} {mutex after : Mutex Thread} {taken : Bool}
    (result : rtMutexTake thread mutex = (taken, after)) :
    if taken then (mutex.owner = none ∨ mutex.owner = some thread) ∧ after.owner = some thread
    else after.owner = mutex.owner := by
  rw [rtMutexTake] at result
  split at result
  · rename_i own
    cases result
    exact ⟨Or.inr own, own⟩
  · split at result
    · rename_i free
      cases result
      exact ⟨Or.inl free, rfl⟩
    · cases result
      rfl

/-- A release that wakes a thread has made it the owner. -/
theorem rtMutexRelease_owner {thread woken : Thread} {mutex : Mutex Thread}
    (handed : (rtMutexRelease thread mutex).2 = some woken) :
    (rtMutexRelease thread mutex).1.owner = some woken := by
  unfold rtMutexRelease at handed ⊢
  split at handed
  · contradiction
  · split at handed
    · contradiction
    · split at handed
      · contradiction
      · cases handed
        rename_i own more _ _ _
        rw [if_neg own, if_neg more]

theorem rtMutexTake_waiting {thread : Thread} {mutex after : Mutex Thread} {taken : Bool}
    (result : rtMutexTake thread mutex = (taken, after)) :
    after.waiting = if taken then mutex.waiting else mutex.waiting ++ [thread] := by
  rw [rtMutexTake] at result
  split at result
  · cases result
    rfl
  · split at result
    · cases result
      rfl
    · cases result
      rfl

/-- A release wakes the first thread of the queue, if anybody. -/
theorem rtMutexRelease_waiting (thread : Thread) (mutex : Mutex Thread) :
    (rtMutexRelease thread mutex).1.waiting = mutex.waiting ∧
        (rtMutexRelease thread mutex).2 = none ∨
      ∃ woken, (rtMutexRelease thread mutex).2 = some woken ∧
        mutex.waiting = woken :: (rtMutexRelease thread mutex).1.waiting := by
  unfold rtMutexRelease
  split
  · exact Or.inl ⟨rfl, rfl⟩
  · split
    · exact Or.inl ⟨rfl, rfl⟩
    · split
      · rename_i empty
        exact Or.inl ⟨empty.symm, rfl⟩
      · rename_i first rest queue
        exact Or.inr ⟨first, rfl, queue⟩

end BerPiNbiot.Kernel
