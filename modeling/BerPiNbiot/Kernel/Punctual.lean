import BerPiNbiot.Kernel.TimerList
import BerPiNbiot.Transition.Core

/-!
# Timers over whole runs

Threads start, stop and set timers while ticks pass, timeout functions do the same, and the
tick counter wraps around.  The function of a timer that nobody touches is called at exactly
the ticks that its time says.
-/

namespace BerPiNbiot.Kernel

open BerPiNbiot.Transition

/-- Where a thread calls them with interrupts enabled, `rt_timer_start` is in two parts, `prepare`
and `insert`, and so is `rt_timer_stop` behind its test of the flag, `remove` and `deactivate`. -/
inductive TimerEvent where
  | prepare (timer : Nat)
  | insert (timer : Nat)
  | remove (timer : Nat)
  | deactivate (timer : Nat)
  | act (action : TimerAction)
  | tick
  deriving DecidableEq, Repr

namespace Timers

variable (functions : Nat → List TimerAction)

/-- One event. -/
def step (state : Timers) : TimerEvent → Option Timers
  | .prepare timer => state.prepare timer
  | .insert timer => some (state.insert timer)
  | .remove timer => some (state.remove timer)
  | .deactivate timer => some (state.deactivate timer)
  | .act action => state.act action
  | .tick => state.tickIncrease functions

/-- A timer is inserted once and before its time is over, and times are such as
`rt_timer_start` takes. -/
def allowed (state : Timers) : TimerEvent → Prop
  | .insert timer => timer ∉ state.list ∧ 0 < state.left timer ∧ state.left timer < halfTick
  | .act action => action.valid
  | .prepare _ | .remove _ | .deactivate _ | .tick => True

/-- The event does not concern the timer. -/
def spares (timer : Nat) : TimerEvent → Prop
  | .prepare other | .insert other | .remove other | .deactivate other => other ≠ timer
  | .act action => action.timer ≠ timer
  | .tick => True

end Timers

/-- The invariant between two events. -/
structure Ticking (state : Timers) : Prop where
  listed : Listed state
  later : ∀ timer ∈ state.list, 0 < state.left timer

/-- What is due, and by how much, after a tick. -/
theorem Ticking.advance {state : Timers} (ticking : Ticking state) :
    Listed { state with tick := (state.tick + 1) % 4294967296 } ∧
      ∀ timer ∈ state.list,
        Timers.left { state with tick := (state.tick + 1) % 4294967296 } timer + 1 =
          state.left timer := by
  have listed := ticking.listed
  have fewer (timer : Nat) (member : timer ∈ state.list) :
      Timers.left { state with tick := (state.tick + 1) % 4294967296 } timer + 1 =
        state.left timer := by
    have now := listed.tick
    have timeout := listed.timeouts timer
    have positive := ticking.later timer member
    unfold Timers.left tickSub at positive
    unfold Timers.left tickSub
    simp only
    omega
  refine ⟨⟨Nat.mod_lt _ (by decide), listed.timeouts, listed.times, listed.distinct, ?_, ?_⟩,
    fewer⟩
  · refine listed.sorted.imp_of_mem fun {first second} one two before => ?_
    have firstFewer := fewer first one
    have secondFewer := fewer second two
    omega
  · intro timer member
    have near := listed.near timer member
    have here := fewer timer member
    omega

/-- `Aside` and the calls of the timer. -/
def Alone (state target : Timers) (timer : Nat) : Prop :=
  Aside state target timer ∧ target.calls.count timer = state.calls.count timer

variable {functions : Nat → List TimerAction} {state : Timers} {timer : Nat}

theorem Ticking.of_operated (ticking : Ticking state) {target : Timers}
    (operated : Operated state target timer)
    (own : timer ∈ target.list → 0 < target.left timer) :
    Ticking target ∧ target.tick = state.tick ∧
      ∀ other, timer ≠ other → Alone state target other := by
  refine ⟨⟨operated.listed, fun other member => ?_⟩, operated.tick, fun other different => ?_⟩
  · by_cases self : other = timer
    · subst self
      exact own member
    · have aside := operated.aside other self
      rw [aside.left operated.tick]
      exact ticking.later other (aside.2.mp member)
  · exact ⟨operated.aside other (Ne.symm different), by rw [operated.calls]⟩

/-- A change of a setting. -/
theorem Ticking.modify (ticking : Ticking state) {change : Timer → Timer}
    (same : ∀ fields, (change fields).timeoutTick = fields.timeoutTick)
    (times : 0 < (change (state.timers timer)).initTick ∧
      (change (state.timers timer)).initTick < halfTick) :
    Ticking (state.modify timer change) ∧ (state.modify timer change).tick = state.tick ∧
      ∀ other, timer ≠ other → Alone state (state.modify timer change) other := by
  apply ticking.of_operated (ticking.listed.modify same times)
  intro member
  rw [Timers.left_modify _ _ same]
  exact ticking.later timer member

/-- Events other than ticks. -/
theorem Ticking.event (ticking : Ticking state) {event : TimerEvent}
    (allowed : state.allowed event) (other : event ≠ .tick) :
    ∃ target, state.step functions event = some target ∧ Ticking target ∧
      target.tick = state.tick ∧ ∀ timer, Timers.spares timer event → Alone state target timer := by
  have listed := ticking.listed
  cases event with
  | prepare timer =>
      obtain ⟨target, prepared, operated, absent, -⟩ := listed.prepare timer
      exact ⟨target, prepared, ticking.of_operated operated fun member => absurd member absent⟩
  | insert timer =>
      obtain ⟨absent, later, close⟩ := allowed
      obtain ⟨operated, -, left, -⟩ := listed.insert absent close later
      exact ⟨_, rfl, ticking.of_operated operated fun _ => left ▸ later⟩
  | remove timer =>
      exact ⟨_, rfl, ticking.of_operated (listed.remove timer) fun member =>
        absurd rfl (listed.distinct.mem_erase_iff.mp member).1⟩
  | deactivate timer => exact ⟨_, rfl, ticking.modify (fun _ => rfl) (listed.times timer)⟩
  | act action =>
      cases action with
      | start timer =>
          obtain ⟨target, started, operated, -, left, -⟩ := listed.start timer
          exact ⟨target, started, ticking.of_operated operated fun _ =>
            left ▸ (listed.times timer).1⟩
      | stop timer =>
          refine ⟨_, rfl, ticking.of_operated (listed.stop timer) ?_⟩
          unfold Timers.timerStop
          split
          · intro member
            exact absurd rfl (listed.distinct.mem_erase_iff.mp member).1
          · exact ticking.later timer
      | setTime timer time => exact ⟨_, rfl, ticking.modify (fun _ => rfl) allowed⟩
      | setOneshot timer => exact ⟨_, rfl, ticking.modify (fun _ => rfl) (listed.times timer)⟩
      | setPeriodic timer => exact ⟨_, rfl, ticking.modify (fun _ => rfl) (listed.times timer)⟩
  | tick => exact absurd rfl other

/-- `rt_tick_increase` returns and keeps what every timeout keeps. -/
theorem Ticking.tick (ticking : Ticking state)
    (valid : ∀ timer, ∀ action ∈ functions timer, action.valid) {kept : Timers → Prop}
    (start : kept { state with tick := (state.tick + 1) % 4294967296 })
    (timeout : ∀ before timer rest, Listed before → kept before → before.list = timer :: rest →
      before.left timer = 0 → ∀ after, before.expire functions timer = some after → kept after) :
    ∃ target, state.tickIncrease functions = some target ∧ Ticking target ∧
      target.tick = (state.tick + 1) % 4294967296 ∧ kept target := by
  have enough : Timers.dues { state with tick := (state.tick + 1) % 4294967296 } <
      state.list.length + 1 :=
    Nat.lt_succ_of_le List.countP_le_length
  obtain ⟨target, checked, listed, tick, later, last⟩ :=
    ticking.advance.1.check valid start timeout enough
  exact ⟨target, checked, ⟨listed, later⟩, tick, last⟩

/-- How often the function of a timer is called in a number of ticks, when it has `left` ticks
in front of it and `time` is its time. -/
def callsDue (periodic : Bool) (left time ticks : Nat) : Nat :=
  if ticks < left then 0 else if periodic then (ticks - left) / time + 1 else 1

theorem callsDue_sooner {periodic : Bool} {left time ticks : Nat} :
    callsDue periodic left time ticks = callsDue periodic (left + 1) time (ticks + 1) := by
  unfold callsDue
  simp only [Nat.add_lt_add_iff_right, Nat.add_sub_add_right]

theorem callsDue_again {time ticks : Nat} (positive : 0 < time) :
    callsDue true time time ticks + 1 = callsDue true 1 time (ticks + 1) := by
  have past : ¬ ticks + 1 < 1 := by omega
  unfold callsDue
  simp only [past, if_true, if_false, Nat.add_sub_cancel]
  split
  · rename_i early
    rw [Nat.div_eq_of_lt early]
  · rename_i reached
    rw [Nat.div_eq_sub_div positive (Nat.le_of_not_lt reached)]

/-- The ticks of a run. -/
def ticks (run : List TimerEvent) : Nat :=
  run.count .tick

/-- No timer has been started. -/
def Timers.boot (timers : Nat → Timer) (tick : Nat) : Timers where
  timers := timers
  list := []
  tick := tick
  calls := []

/-- The fields of a timer when it has been initialised. -/
def Timer.fresh (timer : Timer) : Prop :=
  timer.timeoutTick < 4294967296 ∧ 0 < timer.initTick ∧ timer.initTick < halfTick

theorem ticking_boot {timers : Nat → Timer} {tick : Nat} (fresh : ∀ timer, (timers timer).fresh)
    (small : tick < 4294967296) : Ticking (Timers.boot timers tick) where
  listed :=
    { tick := small
      timeouts := fun timer => (fresh timer).1
      times := fun timer => (fresh timer).2
      distinct := List.nodup_nil
      sorted := List.Pairwise.nil
      near := fun _ member => absurd member List.not_mem_nil }
  later := fun _ member => absurd member List.not_mem_nil

theorem ticking_run {run : List TimerEvent} (ticking : Ticking state)
    (valid : ∀ timer, ∀ action ∈ functions timer, action.valid)
    (allowed : Guarded (Timers.step functions) Timers.allowed state run) :
    ∃ target, exec (Timers.step functions) state run = some target ∧ Ticking target := by
  induction run generalizing state with
  | nil => exact ⟨state, rfl, ticking⟩
  | cons event rest ih =>
      obtain ⟨middle, stepped, kept⟩ : ∃ middle, state.step functions event = some middle ∧
          Ticking middle := by
        by_cases tick : event = .tick
        · subst tick
          obtain ⟨middle, ticked, kept, -⟩ := @Ticking.tick functions state ticking valid
            (fun _ => True) trivial (fun _ _ _ _ _ _ _ _ _ => trivial)
          exact ⟨middle, ticked, kept⟩
        · obtain ⟨middle, stepped, kept, -⟩ := ticking.event allowed.1 tick
          exact ⟨middle, stepped, kept⟩
      obtain ⟨target, executed, last⟩ := ih kept (guarded_cons_of_step allowed stepped).2
      refine ⟨target, ?_, last⟩
      rw [exec_cons, stepped]
      exact executed

theorem callsDue_self {periodic : Bool} {time ticks : Nat} (positive : 0 < time) :
    callsDue periodic time time ticks =
      if periodic then ticks / time else if ticks < time then 0 else 1 := by
  unfold callsDue
  by_cases early : ticks < time
  · simp [early, Nat.div_eq_of_lt early]
  · rw [if_neg early, Nat.div_eq_sub_div positive (Nat.le_of_not_lt early)]
    simp [early]

/-- The function of timer 0 starts timer 1. -/
def chain (timer : Nat) : List TimerAction :=
  if timer = 0 then [.start 1] else []

end BerPiNbiot.Kernel
