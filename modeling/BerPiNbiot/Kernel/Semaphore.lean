import Mathlib.Data.List.Basic

/-!
# RT-Thread semaphores

A semaphore is a 16-bit value with a first-in first-out queue of waiting
threads.  A release hands its permit to the first waiting thread, and counts it
only when nobody waits.
-/

namespace BerPiNbiot.Kernel

variable {Thread : Type}

/-- `struct rt_semaphore` -/
structure Semaphore (Thread : Type) where
  value : UInt16 := 0
  waiting : List Thread := []
  deriving DecidableEq, Repr

/-- `rt_sem_take(sem, time)` with a positive `time`; the flag says whether the
caller got a permit at once, otherwise it waits in the queue. -/
def rtSemTake (thread : Thread) (sem : Semaphore Thread) : Bool × Semaphore Thread :=
  if sem.value = 0 then
    (false, { sem with waiting := sem.waiting ++ [thread] })
  else
    (true, { sem with value := sem.value - 1 })

/-- `rt_sem_release(sem)`, with the thread that is woken by it. -/
def rtSemRelease (sem : Semaphore Thread) : Semaphore Thread × Option Thread :=
  match sem.waiting with
  | [] => ({ sem with value := sem.value + 1 }, none)
  | first :: rest => ({ sem with waiting := rest }, some first)

/-- `rt_sem_control(sem, RT_IPC_CMD_RESET, value)`, with the threads that are woken by it. -/
def rtSemReset (value : UInt16) (sem : Semaphore Thread) : Semaphore Thread × List Thread :=
  ({ value, waiting := [] }, sem.waiting)

/-- A release is counted, or it takes the first thread out of the queue. -/
theorem rtSemRelease_cases [DecidableEq Thread] (sem : Semaphore Thread) :
    (sem.waiting = [] ∧ rtSemRelease sem = ({ sem with value := sem.value + 1 }, none)) ∨
      ∃ woken, woken ∈ sem.waiting ∧ (rtSemRelease sem).2 = some woken ∧
        (rtSemRelease sem).1.waiting = sem.waiting.erase woken ∧
        (rtSemRelease sem).1.value = sem.value := by
  unfold rtSemRelease
  split
  · rename_i empty
    exact Or.inl ⟨empty, rfl⟩
  · rename_i first rest queue
    refine Or.inr ⟨first, ?_, rfl, ?_, rfl⟩
    · rw [queue]
      exact List.mem_cons_self
    · rw [queue, List.erase_cons_head]

/-- The wait of a thread ends otherwise than by a release. -/
def Semaphore.drop [DecidableEq Thread] (sem : Semaphore Thread) (thread : Thread) :
    Semaphore Thread :=
  { sem with waiting := sem.waiting.erase thread }

end BerPiNbiot.Kernel
