import Mathlib.Data.List.Nodup
import Mathlib.Logic.Function.Basic

/-!
# Threads and the scheduler

The ready queues of `scheduler.c` with 32 priorities on one processor, and the
operations of `thread.c`, `clock.c` and `ipc.c` that move threads between the queues.  A
thread is its number.  Its `tlist` node is in at most one list, so that `rt_list_remove`
takes it out of whichever list it is in.

An operation is `none` where an `RT_ASSERT` fails or a thread is looked for in an empty
list.  What runs with interrupts disabled is one step.  `rt_thread_resume` has two critical
sections, which are two operations here; `rt_thread_detach` and `rt_thread_delete` are one
operation each, so that nothing comes between their sections.
-/

namespace BerPiNbiot.Kernel

/-- `thread->stat & RT_THREAD_STAT_MASK` -/
inductive Stat where
  | init
  | ready
  | suspend
  | running
  | close
  deriving DecidableEq, Repr

/-- The fields of `struct rt_thread` that scheduling reads.  `yield` is the flag
`RT_THREAD_STAT_YIELD` and `timing` says whether `thread_timer` is started. -/
structure RtThread where
  stat : Stat
  yield : Bool
  initPriority : Nat
  currentPriority : Nat
  numberMask : BitVec 32
  initTick : Nat
  remainingTick : Nat
  error : Int
  timing : Bool
  cleanup : Bool
  deriving DecidableEq

/-- `-- thread->remaining_tick`, with 32 bits -/
def RtThread.count (thread : RtThread) : RtThread :=
  { thread with remainingTick := (thread.remainingTick + 4294967295) % 4294967296 }

/-- The time slice has ended. -/
def RtThread.reload (thread : RtThread) : RtThread :=
  { thread with remainingTick := thread.initTick, yield := true }

/-- `RT_IPC_FLAG_FIFO` and `RT_IPC_FLAG_PRIO` -/
inductive IpcFlag where
  | fifo
  | prio
  deriving DecidableEq, Repr

/-- The variables of `scheduler.c` and the suspend lists of the IPC objects.  The nesting of
locks has 16 bits and a sign. -/
structure System where
  threads : Nat → RtThread
  table : Nat → List Nat
  suspended : Nat → List Nat
  defunct : List Nat
  group : BitVec 32
  current : Nat
  lockNest : Int

/-- `__rt_ffs`, which is `__builtin_ffs`: one plus the number of the lowest set bit. -/
def rtFfs (value : BitVec 32) : Nat :=
  match (List.range 32).find? value.getLsbD with
  | none => 0
  | some bit => bit + 1

namespace System

/-- Assignment to fields of a thread. -/
def modify (system : System) (thread : Nat) (change : RtThread → RtThread) : System :=
  { system with
    threads := Function.update system.threads thread (change (system.threads thread)) }

/-- `rt_list_remove(&(thread->tlist))` -/
def unlink (system : System) (thread : Nat) : System :=
  { system with
    table := fun priority => (system.table priority).erase thread
    suspended := fun object => (system.suspended object).erase thread
    defunct := system.defunct.erase thread }

/-- `rt_schedule_insert_thread` -/
def insertThread (system : System) (thread : Nat) : System :=
  if thread = system.current then
    system.modify thread fun fields => { fields with stat := .running }
  else
    let system := system.modify thread fun fields => { fields with stat := .ready }
    let fields := system.threads thread
    { system with
      table := Function.update system.table fields.currentPriority
        (system.table fields.currentPriority ++ [thread])
      group := system.group ||| fields.numberMask }

/-- `rt_schedule_remove_thread` -/
def removeThread (system : System) (thread : Nat) : System :=
  let system := system.unlink thread
  let fields := system.threads thread
  if system.table fields.currentPriority = [] then
    { system with group := system.group &&& ~~~fields.numberMask }
  else system

/-- The current thread goes on. -/
def goOn (system : System) : System :=
  (system.removeThread system.current).modify system.current
    fun fields => { fields with stat := .running }

/-- The processor is given to another thread. -/
def switchTo (system : System) (needInsert : Bool) (toThread : Nat) : System :=
  let fromThread := system.current
  let system := { system with current := toThread }
  let system := if needInsert then system.insertThread fromThread else system
  (system.removeThread toThread).modify toThread fun fields => { fields with stat := .running }

/-- `rt_schedule` -/
def schedule (system : System) : Option System :=
  if system.lockNest = 0 ∧ system.group ≠ 0 then
    let highest := rtFfs system.group - 1
    (system.table highest).head?.map fun toThread =>
      let current := system.threads system.current
      if current.stat = .running ∧ (current.currentPriority < highest ∨
          current.currentPriority = highest ∧ current.yield = false) then
        system.goOn
      else
        let needInsert := decide (current.stat = .running)
        let system :=
          if needInsert then
            system.modify system.current fun fields => { fields with yield := false }
          else system
        if toThread ≠ system.current then system.switchTo needInsert toThread else system.goOn
  else some system

/-- `rt_thread_suspend` -/
def threadSuspend (system : System) (thread : Nat) : Option System :=
  let stat := (system.threads thread).stat
  if stat ≠ .ready ∧ stat ≠ .running then some system
  else if stat = .running ∧ thread ≠ system.current then none
  else
    some ((system.removeThread thread).modify thread fun fields =>
      { fields with stat := .suspend, timing := false })

/-- The first critical section of `rt_thread_resume`; `insertThread` is the second one. -/
def releaseThread (system : System) (thread : Nat) : System :=
  (system.unlink thread).modify thread fun fields => { fields with timing := false }

/-- `rt_thread_resume` where interrupts are disabled already -/
def threadResume (system : System) (thread : Nat) : System :=
  if (system.threads thread).stat ≠ .suspend then system
  else (system.releaseThread thread).insertThread thread

/-- `rt_thread_startup` up to its calls of `rt_thread_resume` and `rt_schedule` -/
def threadStartup (system : System) (thread : Nat) : Option System :=
  if (system.threads thread).stat = .init then
    some (system.modify thread fun fields =>
      { fields with
        currentPriority := fields.initPriority
        numberMask := 1#32 <<< fields.initPriority
        stat := .suspend
        yield := false })
  else none

/-- The place of a thread in a suspend list. -/
def place (system : System) (flag : IpcFlag) (thread : Nat) : List Nat → List Nat
  | [] => [thread]
  | other :: rest =>
      if flag = .prio ∧ (system.threads thread).currentPriority <
          (system.threads other).currentPriority then
        thread :: other :: rest
      else other :: system.place flag thread rest

/-- `rt_ipc_list_suspend` for the current thread, with its timer where there is a waiting
time. -/
def listSuspend (system : System) (object : Nat) (flag : IpcFlag) (timed : Bool) :
    Option System :=
  (system.threadSuspend system.current).map fun system =>
    ({ system with
      suspended := Function.update system.suspended object
        (system.place flag system.current (system.suspended object)) }).modify system.current
      fun fields => { fields with timing := timed, error := 0 }

/-- `rt_ipc_list_resume` -/
def listResume (system : System) (object : Nat) : Option System :=
  (system.suspended object).head?.map system.threadResume

/-- `rt_ipc_list_resume_all` where interrupts are disabled already -/
def listResumeAll (system : System) (object : Nat) : List Nat → System
  | [] => system
  | thread :: rest =>
      listResumeAll ((system.modify thread fun fields =>
        { fields with error := -1 }).threadResume thread) object rest

/-- `rt_thread_timeout` -/
def threadTimeout (system : System) (thread : Nat) : Option System :=
  if (system.threads thread).stat = .suspend then
    let system := system.modify thread fun fields =>
      { fields with timing := false, error := -2 }
    ((system.unlink thread).insertThread thread).schedule
  else none

/-- `rt_thread_sleep`, up to its call of `rt_schedule` -/
def threadSleep (system : System) : Option System :=
  (system.threadSuspend system.current).map fun system =>
    system.modify system.current fun fields => { fields with timing := true }

/-- `rt_thread_control` with `RT_THREAD_CTRL_CHANGE_PRIORITY` -/
def changePriority (system : System) (thread priority : Nat) : System :=
  let change := fun fields : RtThread =>
    { fields with currentPriority := priority, numberMask := 1#32 <<< priority }
  if (system.threads thread).stat = .ready then
    ((system.removeThread thread).modify thread change).insertThread thread
  else system.modify thread change

/-- `rt_thread_yield` -/
def threadYield (system : System) : Option System :=
  system.schedule

/-- `rt_tick_increase`, up to its call of `rt_timer_check` -/
def tickIncrease (system : System) : Option System :=
  let system := system.modify system.current RtThread.count
  if (system.threads system.current).remainingTick = 0 then
    (system.modify system.current RtThread.reload).threadYield
  else some system

/-- `rt_enter_critical` -/
def enterCritical (system : System) : System :=
  { system with lockNest := (system.lockNest + 1).bmod 65536 }

/-- `rt_exit_critical` -/
def exitCritical (system : System) : Option System :=
  let system := { system with lockNest := (system.lockNest - 1).bmod 65536 }
  if system.lockNest ≤ 0 then ({ system with lockNest := 0 }).schedule else some system

/-- The end of `rt_thread_exit`, `rt_thread_detach` and `rt_thread_delete`. -/
def closeThread (system : System) (thread : Nat) (defunct : Bool) : System :=
  let system := system.modify thread fun fields =>
    { fields with stat := .close, yield := false, timing := false }
  if defunct then { system with defunct := thread :: system.defunct } else system

/-- `rt_thread_exit` of a thread that `rt_thread_create` has made or that has a cleanup
function, or of another -/
def threadExit (system : System) (created : Bool) : Option System :=
  let thread := system.current
  let kept := created || (system.threads thread).cleanup
  ((system.removeThread thread).closeThread thread kept).schedule

/-- `rt_thread_delete` and `rt_thread_detach`, without an interrupt between their sections -/
def threadDelete (system : System) (thread : Nat) (created : Bool) : System :=
  let kept := created || (system.threads thread).cleanup
  let system := if (system.threads thread).stat ≠ .init then system.removeThread thread else system
  system.closeThread thread kept

end System

end BerPiNbiot.Kernel
