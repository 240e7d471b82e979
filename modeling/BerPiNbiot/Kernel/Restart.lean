import BerPiNbiot.Kernel.Punctual

/-!
# Timers that start themselves

The timeout function of a one-shot timer may start its timer again.  `rt_timer_check` clears
`RT_TIMER_FLAG_ACTIVATED` after the function has returned, so that the timer is in the list
without its flag, and `rt_timer_stop` does not take it out.
-/

namespace BerPiNbiot.Kernel

open BerPiNbiot.Transition

/-- The timeout function starts its own timer, and does nothing else to it. -/
structure Restarts (actions : List TimerAction) (timer : Nat) : Prop where
  valid : ∀ action ∈ actions, action.valid
  shape : ∃ before after, actions = before ++ .start timer :: after ∧
    (∀ action ∈ before, action.timer ≠ timer) ∧ ∀ action ∈ after, action.timer ≠ timer

/-- A one-shot timer in the list, with or without its flag. -/
structure Pending (state : Timers) (timer time : Nat) : Prop where
  member : timer ∈ state.list
  oneshot : (state.timers timer).periodic = false
  time : (state.timers timer).initTick = time

theorem Pending.of_aside {state target : Timers} {timer time : Nat}
    (pending : Pending state timer time) (aside : Aside state target timer) :
    Pending target timer time := by
  obtain ⟨fields, member⟩ := aside
  refine ⟨member.mpr pending.member, ?_, ?_⟩
  · rw [fields]
    exact pending.oneshot
  · rw [fields]
    exact pending.time

variable {functions : Nat → List TimerAction} {state : Timers} {timer time : Nat}

/-- The actions of such a function. -/
theorem Listed.restarts (listed : Listed state) {actions : List TimerAction}
    (restarts : Restarts actions timer) :
    ∃ target, actions.foldlM Timers.act state = some target ∧ Listed target ∧
      target.tick = state.tick ∧ target.calls = state.calls ∧ timer ∈ target.list ∧
      target.left timer = (state.timers timer).initTick ∧
      (target.timers timer).initTick = (state.timers timer).initTick ∧
      (target.timers timer).periodic = (state.timers timer).periodic := by
  obtain ⟨valid, before, after, rfl, apartBefore, apartAfter⟩ := restarts
  obtain ⟨first, executed, firstListed, firstTick, firstCalls, -, firstAside⟩ := listed.actions
    fun action member => valid action (List.mem_append_left _ member)
  obtain ⟨second, started, operated, member, left, time, periodic, -⟩ := firstListed.start timer
  obtain ⟨third, finished, thirdListed, thirdTick, thirdCalls, -, thirdAside⟩ :=
    operated.listed.actions fun action member =>
      valid action (List.mem_append_right _ (List.mem_cons_of_mem _ member))
  obtain ⟨firstFields, -⟩ := firstAside timer apartBefore
  have aside := thirdAside timer apartAfter
  refine ⟨third, ?_, thirdListed, ?_, ?_, aside.2.mpr member, ?_, ?_, ?_⟩
  · rw [List.foldlM_append, executed]
    change (List.foldlM Timers.act first (.start timer :: after)) = some third
    rw [List.foldlM_cons]
    exact Option.bind_eq_some_iff.mpr ⟨second, started, finished⟩
  · rw [thirdTick, operated.tick, firstTick]
  · rw [thirdCalls, operated.calls, firstCalls]
  · rw [aside.left thirdTick, left, firstFields]
  · rw [aside.1, time, firstFields]
  · rw [aside.1, periodic, firstFields]

/-- Its timeout. -/
theorem Listed.expire_restarts (listed : Listed state) (restarts : Restarts (functions timer) timer)
    (oneshot : (state.timers timer).periodic = false) :
    ∃ target, state.expire functions timer = some target ∧ target.tick = state.tick ∧
      target.calls = timer :: state.calls ∧
      Pending target timer (state.timers timer).initTick ∧
      target.left timer = (state.timers timer).initTick ∧
      (target.timers timer).activated = false := by
  have removed := listed.remove timer
  have called : Listed { state.remove timer with calls := timer :: state.calls } :=
    ⟨removed.listed.tick, removed.listed.timeouts, removed.listed.times, removed.listed.distinct,
      removed.listed.sorted, removed.listed.near⟩
  obtain ⟨middle, executed, -, tick, calls, member, left, same, periodic⟩ :=
    called.restarts restarts
  refine ⟨middle.modify timer fun fields => { fields with activated := false }, ?_, tick, calls,
    ⟨member, ?_, ?_⟩, ?_, ?_⟩
  · unfold Timers.expire Timers.callTimeout
    rw [show List.foldlM Timers.act
      { state.remove timer with calls := timer :: (state.remove timer).calls } (functions timer) =
        some middle from executed, Option.bind_some]
    simp only
    rw [if_neg]
    rw [periodic]
    rintro ⟨set, -⟩
    exact absurd (oneshot.symm.trans set) Bool.false_ne_true
  · rw [Timers.modify_self]
    exact periodic.trans oneshot
  · rw [Timers.modify_self]
    exact same
  · exact (Timers.left_modify middle (fun fields => { fields with activated := false })
      (fun _ => rfl) timer).trans left
  · rw [Timers.modify_self]

/-- A tick. -/
theorem Ticking.tick_restarts (ticking : Ticking state)
    (valid : ∀ timer, ∀ action ∈ functions timer, action.valid)
    (apart : ∀ other, other ≠ timer → ∀ action ∈ functions other, action.timer ≠ timer)
    (restarts : Restarts (functions timer) timer) (pending : Pending state timer time) :
    ∃ target, state.tickIncrease functions = some target ∧ Ticking target ∧
      Pending target timer time ∧
      (1 < state.left timer ∧ target.left timer + 1 = state.left timer ∧
          (target.timers timer).activated = (state.timers timer).activated ∧
          target.calls.count timer = state.calls.count timer ∨
        state.left timer = 1 ∧ target.left timer = time ∧
          (target.timers timer).activated = false ∧
          target.calls.count timer = state.calls.count timer + 1) := by
  have here := ticking.advance.2 timer pending.member
  have positive : 0 < time := pending.time ▸ (ticking.listed.times timer).1
  obtain ⟨target, ticked, kept, now, -, stays, outcome⟩ := @Ticking.tick functions state ticking
    valid (fun after => after.tick = (state.tick + 1) % 4294967296 ∧ Pending after timer time ∧
      (after.left timer + 1 = state.left timer ∧
          (after.timers timer).activated = (state.timers timer).activated ∧
          after.calls.count timer = state.calls.count timer ∨
        state.left timer = 1 ∧ after.left timer = time ∧
          (after.timers timer).activated = false ∧
          after.calls.count timer = state.calls.count timer + 1))
    ⟨rfl, ⟨pending.member, pending.oneshot, pending.time⟩, Or.inl ⟨here, rfl, rfl⟩⟩
    (by
      rintro before first rest listed ⟨now, stays, outcome⟩ front due after expired
      by_cases self : first = timer
      · subst self
        obtain ⟨target, same, tick, calls, again, left, inactive⟩ :=
          listed.expire_restarts restarts stays.oneshot
        obtain rfl : target = after := Option.some.inj (same.symm.trans expired)
        rw [stays.time] at again left
        rcases outcome with ⟨last, -, count⟩ | ⟨-, fired, -⟩
        · refine ⟨tick.trans now, again, Or.inr ⟨by omega, left, inactive, ?_⟩⟩
          rw [calls, List.count_cons_self, count]
        · omega
      · obtain ⟨target, same, -, tick, calls, -, aside, -⟩ :=
          listed.expire (valid first) front due
        obtain rfl : target = after := Option.some.inj (same.symm.trans expired)
        have alone := aside timer (Ne.symm self) (apart first self)
        refine ⟨tick.trans now, stays.of_aside alone, ?_⟩
        rw [alone.left tick, alone.1, calls, List.count_cons_of_ne self]
        exact outcome)
  refine ⟨target, ticked, kept, stays, ?_⟩
  have later := kept.later timer stays.member
  rcases outcome with ⟨left, rest⟩ | fired
  · exact Or.inl ⟨by omega, left, rest⟩
  · exact Or.inr fired

/-- Threads do nothing to the timer, or try to stop it. -/
def Timers.stopping (timer : Nat) (state : Timers) (event : TimerEvent) : Prop :=
  state.allowed event ∧ (Timers.spares timer event ∨ event = .act (.stop timer))

/-- Once its flag is off, the timer goes on for ever. -/
theorem restarts_run {run : List TimerEvent} (ticking : Ticking state)
    (valid : ∀ timer, ∀ action ∈ functions timer, action.valid)
    (apart : ∀ other, other ≠ timer → ∀ action ∈ functions other, action.timer ≠ timer)
    (restarts : Restarts (functions timer) timer) (pending : Pending state timer time)
    (inactive : (state.timers timer).activated = false)
    (stopping : Guarded (Timers.step functions) (Timers.stopping timer) state run) :
    ∃ target, exec (Timers.step functions) state run = some target ∧ timer ∈ target.list ∧
      target.timerStop timer = target ∧
      target.calls.count timer = state.calls.count timer +
        callsDue true (state.left timer) time (ticks run) := by
  induction run generalizing state with
  | nil =>
      refine ⟨state, rfl, pending.member, ?_, ?_⟩
      · unfold Timers.timerStop
        rw [inactive]
        rfl
      · have early : ticks [] < state.left timer := ticking.later timer pending.member
        unfold callsDue
        rw [if_pos early]
        rfl
  | cons event rest ih =>
      obtain ⟨⟨allowed, concerns⟩, -⟩ := id stopping
      by_cases tick : event = .tick
      · subst tick
        obtain ⟨middle, ticked, kept, stays, outcome⟩ :=
          ticking.tick_restarts valid apart restarts pending
        obtain ⟨-, later⟩ := guarded_cons_of_step stopping ticked
        have counted : ticks (.tick :: rest) = ticks rest + 1 := List.count_cons_self
        have off : (middle.timers timer).activated = false := by
          rcases outcome with ⟨-, -, same, -⟩ | ⟨-, -, off, -⟩
          · exact same.trans inactive
          · exact off
        obtain ⟨target, executed, member, stuck, after⟩ := ih kept stays off later
        refine ⟨target, Option.bind_eq_some_iff.mpr ⟨middle, ticked, executed⟩, member, stuck, ?_⟩
        rw [after, counted]
        rcases outcome with ⟨-, left, -, count⟩ | ⟨last, left, -, count⟩
        · rw [count, ← left, ← callsDue_sooner]
        · rw [count, last, left, Nat.add_assoc, Nat.add_comm 1,
            callsDue_again (pending.time ▸ (ticking.listed.times timer).1)]
      · -- an attempt to stop the timer changes nothing
        obtain ⟨middle, stepped, kept, now, aside, count⟩ : ∃ middle,
            state.step functions event = some middle ∧ Ticking middle ∧
            middle.tick = state.tick ∧ Alone state middle timer := by
          rcases concerns with spares | rfl
          · obtain ⟨middle, stepped, kept, now, alone⟩ := ticking.event allowed tick
            exact ⟨middle, stepped, kept, now, alone timer spares⟩
          · refine ⟨state, ?_, ticking, rfl, ⟨rfl, Iff.rfl⟩, rfl⟩
            change some (state.timerStop timer) = some state
            unfold Timers.timerStop
            rw [inactive]
            rfl
        obtain ⟨target, executed, member, stuck, after⟩ := ih kept (pending.of_aside aside)
          (aside.1 ▸ inactive) (guarded_cons_of_step stopping stepped).2
        refine ⟨target, Option.bind_eq_some_iff.mpr ⟨middle, stepped, executed⟩, member, stuck, ?_⟩
        rw [after, count, aside.left now]
        unfold ticks
        rw [List.count_cons_of_ne tick]

/-- A one-shot timer whose function starts it again cannot be stopped from its first timeout on:
with any number of calls of `rt_timer_stop` in between, its function is called at every multiple
of its time, and the timer stays in the list. -/
theorem restart_unstoppable (ticking : Ticking state)
    (valid : ∀ timer, ∀ action ∈ functions timer, action.valid)
    (apart : ∀ other, other ≠ timer → ∀ action ∈ functions other, action.timer ≠ timer)
    (restarts : Restarts (functions timer) timer)
    (oneshot : (state.timers timer).periodic = false) (member : timer ∈ state.list)
    (last : state.left timer = 1) :
    ∃ after, state.tickIncrease functions = some after ∧
      ∀ run, Guarded (Timers.step functions) (Timers.stopping timer) after run →
        ∃ target, exec (Timers.step functions) after run = some target ∧ timer ∈ target.list ∧
          target.timerStop timer = target ∧
          target.calls.count timer =
            state.calls.count timer + 1 + ticks run / (state.timers timer).initTick := by
  have pending : Pending state timer (state.timers timer).initTick := ⟨member, oneshot, rfl⟩
  obtain ⟨after, ticked, kept, stays, outcome⟩ :=
    ticking.tick_restarts valid apart restarts pending
  refine ⟨after, ticked, fun run stopping => ?_⟩
  rcases outcome with ⟨more, -⟩ | ⟨-, left, inactive, count⟩
  · omega
  · obtain ⟨target, executed, there, stuck, calls⟩ :=
      restarts_run kept valid apart restarts stays inactive stopping
    refine ⟨target, executed, there, stuck, ?_⟩
    rw [calls, count, left, callsDue_self (ticking.listed.times timer).1]
    rfl

/-- Ticks and attempts to stop the timer are possible in every state. -/
theorem guarded_stops {run : List TimerEvent}
    (events : ∀ event ∈ run, event = .tick ∨ event = .act (.stop timer)) :
    Guarded (Timers.step functions) (Timers.stopping timer) state run := by
  induction run generalizing state with
  | nil => trivial
  | cons event rest ih =>
      refine ⟨?_, ?_⟩
      · rcases events event List.mem_cons_self with rfl | rfl
        · exact ⟨trivial, Or.inl trivial⟩
        · exact ⟨trivial, Or.inr rfl⟩
      · split
        · trivial
        · exact ih fun other member => events other (List.mem_cons_of_mem _ member)

/-- The function of timer 3 starts timer 3. -/
def itself (timer : Nat) : List TimerAction :=
  if timer = 3 then [.start 3] else []

theorem restart_unstoppable_concrete : ∃ state after target,
    exec (Timers.step itself) (Timers.boot (fun _ => ⟨2, 0, false, false⟩) 0)
      [.act (.start 3), .tick] = some state ∧
    state.tickIncrease itself = some after ∧
    exec (Timers.step itself) after
      [.act (.stop 3), .tick, .tick, .act (.stop 3), .tick, .tick] = some target ∧
    target.calls.count 3 = 3 ∧ target.timerStop 3 = target := by
  have valid : ∀ timer, ∀ action ∈ itself timer, action.valid := by
    intro timer action member
    unfold itself at member
    split at member
    · rw [List.mem_singleton.mp member]
      trivial
    · exact absurd member List.not_mem_nil
  have apart : ∀ other, other ≠ 3 → ∀ action ∈ itself other, action.timer ≠ 3 := by
    intro other different action member
    rw [itself, if_neg different] at member
    exact absurd member List.not_mem_nil
  have restarts : Restarts (itself 3) 3 :=
    ⟨valid 3, [], [], rfl, fun _ member => absurd member List.not_mem_nil,
      fun _ member => absurd member List.not_mem_nil⟩
  have boot : Ticking (Timers.boot (fun _ => ⟨2, 0, false, false⟩) 0) :=
    ticking_boot (fun _ => ⟨(by decide : 0 < 4294967296), (by decide : 0 < 2),
      (by decide : 2 < halfTick)⟩) (by decide)
  have allowed : Guarded (Timers.step itself) Timers.allowed
      (Timers.boot (fun _ => ⟨2, 0, false, false⟩) 0) [.act (.start 3), .tick] :=
    ⟨trivial, trivial, trivial⟩
  obtain ⟨state, executed, ticking⟩ := ticking_run boot valid allowed
  have facts : (exec (Timers.step itself) (Timers.boot (fun _ => ⟨2, 0, false, false⟩) 0)
      [.act (.start 3), .tick]).map (fun state => ((state.timers 3).periodic, state.list,
        state.left 3, state.calls, (state.timers 3).initTick)) = some (false, [3], 1, [], 2) := by
    decide +kernel
  rw [executed, Option.map_some, Option.some.injEq] at facts
  simp only [Prod.mk.injEq] at facts
  obtain ⟨oneshot, list, last, calls, time⟩ := facts
  have member : 3 ∈ state.list := by
    rw [list]
    exact List.mem_singleton_self 3
  obtain ⟨after, ticked, stops⟩ :=
    restart_unstoppable ticking valid apart restarts oneshot member last
  obtain ⟨target, ran, -, stuck, count⟩ :=
    stops [.act (.stop 3), .tick, .tick, .act (.stop 3), .tick, .tick] (guarded_stops (by decide))
  refine ⟨state, after, target, executed, ticked, ran, ?_, stuck⟩
  rw [count, calls, time]
  decide

end BerPiNbiot.Kernel
