import Mathlib.Data.List.Nodup
import Mathlib.Logic.Function.Basic

/-!
# Timers

The hard timers of `timer.c`: one list, in the order of their timeout ticks, which
`rt_timer_check` serves from its front at every tick.  The skip list has one row, and the
tick has 32 bits and wraps around.

A timer is its number.  What its timeout function does to timers is a list of actions, and
`calls` is the trace of the functions that have been called, the last one first.
-/

namespace BerPiNbiot.Kernel

/-- `struct rt_timer` -/
structure Timer where
  initTick : Nat
  timeoutTick : Nat
  periodic : Bool
  activated : Bool
  deriving DecidableEq

/-- `rt_timer_list`, `rt_tick` and the timers. -/
structure Timers where
  timers : Nat → Timer
  list : List Nat
  tick : Nat
  calls : List Nat

/-- What a timeout function does to timers. -/
inductive TimerAction where
  | start (timer : Nat)
  | stop (timer : Nat)
  | setTime (timer time : Nat)
  | setOneshot (timer : Nat)
  | setPeriodic (timer : Nat)
  deriving DecidableEq, Repr

/-- The difference of two ticks, of type `rt_tick_t` -/
def tickSub (first second : Nat) : Nat :=
  (first + 4294967296 - second) % 4294967296

/-- `RT_TICK_MAX / 2` -/
def halfTick : Nat :=
  2147483647

namespace Timers

/-- Assignment to fields of a timer. -/
def modify (state : Timers) (timer : Nat) (change : Timer → Timer) : Timers :=
  { state with
    timers := Function.update state.timers timer (change (state.timers timer)) }

/-- `_rt_timer_remove` -/
def remove (state : Timers) (timer : Nat) : Timers :=
  { state with list := state.list.erase timer }

/-- The place of a timer among those that are started: before the first that comes later, and
after those with the same timeout. -/
def place (state : Timers) (timer : Nat) : List Nat → List Nat
  | [] => [timer]
  | other :: rest =>
      let difference := tickSub (state.timers other).timeoutTick (state.timers timer).timeoutTick
      if difference = 0 then other :: state.place timer rest
      else if difference < halfTick then timer :: other :: rest
      else other :: state.place timer rest

/-- `rt_timer_start` up to the point where it disables the interrupts again -/
def prepare (state : Timers) (timer : Nat) : Option Timers :=
  let state := (state.remove timer).modify timer fun fields => { fields with activated := false }
  if (state.timers timer).initTick < halfTick then
    some (state.modify timer fun fields =>
      { fields with timeoutTick := (state.tick + fields.initTick) % 4294967296 })
  else none

/-- The rest of `rt_timer_start` -/
def insert (state : Timers) (timer : Nat) : Timers :=
  ({ state with list := state.place timer state.list }).modify timer
    fun fields => { fields with activated := true }

/-- `rt_timer_start` with interrupts disabled -/
def timerStart (state : Timers) (timer : Nat) : Option Timers :=
  (state.prepare timer).map fun state => state.insert timer

/-- The end of `rt_timer_stop`, behind its critical section -/
def deactivate (state : Timers) (timer : Nat) : Timers :=
  state.modify timer fun fields => { fields with activated := false }

/-- `rt_timer_stop` with interrupts disabled; `remove` is its critical section. -/
def timerStop (state : Timers) (timer : Nat) : Timers :=
  if (state.timers timer).activated then
    (state.remove timer).deactivate timer
  else state

/-- `rt_timer_start` and `rt_timer_stop` with interrupts disabled, and `rt_timer_control` -/
def act (state : Timers) : TimerAction → Option Timers
  | .start timer => state.timerStart timer
  | .stop timer => some (state.timerStop timer)
  | .setTime timer time => some (state.modify timer fun fields => { fields with initTick := time })
  | .setOneshot timer => some (state.modify timer fun fields => { fields with periodic := false })
  | .setPeriodic timer => some (state.modify timer fun fields => { fields with periodic := true })

/-- The call of a timeout function. -/
def callTimeout (actions : List TimerAction) (state : Timers) (timer : Nat) : Option Timers :=
  actions.foldlM act { state with calls := timer :: state.calls }

/-- What `rt_timer_check` does with a timer whose time has come. -/
def expire (functions : Nat → List TimerAction) (state : Timers) (timer : Nat) : Option Timers :=
  (callTimeout (functions timer) (state.remove timer) timer).bind fun state =>
    let stopped := state.modify timer fun fields => { fields with activated := false }
    if (state.timers timer).periodic ∧ (state.timers timer).activated then
      stopped.timerStart timer
    else some stopped

/-- The loop of `rt_timer_check`, with a bound on its rounds. -/
def timerCheck (functions : Nat → List TimerAction) : Nat → Timers → Option Timers
  | 0, _ => none
  | rounds + 1, state =>
      match state.list with
      | [] => some state
      | timer :: _ =>
          if tickSub state.tick (state.timers timer).timeoutTick < halfTick then
            (state.expire functions timer).bind (timerCheck functions rounds)
          else some state

/-- `++ rt_tick` and `rt_timer_check` of `rt_tick_increase` -/
def tickIncrease (functions : Nat → List TimerAction) (state : Timers) : Option Timers :=
  timerCheck functions (state.list.length + 1)
    { state with tick := (state.tick + 1) % 4294967296 }

end Timers

end BerPiNbiot.Kernel
