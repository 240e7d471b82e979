import BerPiNbiot.Kernel.Timer

/-!
# The timer list

The ticks that a started timer has left are the difference of its timeout tick and the
present one.  The list is in the order of the ticks left, whatever the tick counter reads,
as long as no timer has half of the counter's range in front of it.
-/

namespace BerPiNbiot.Kernel

/-! ## Ticks -/

namespace Timers

/-- The ticks until the timeout. -/
def left (state : Timers) (timer : Nat) : Nat :=
  tickSub (state.timers timer).timeoutTick state.tick

end Timers

/-- The invariant of the timer list. -/
structure Listed (state : Timers) : Prop where
  tick : state.tick < 4294967296
  timeouts : ∀ timer, (state.timers timer).timeoutTick < 4294967296
  times : ∀ timer, 0 < (state.timers timer).initTick ∧ (state.timers timer).initTick < halfTick
  distinct : state.list.Nodup
  sorted : state.list.Pairwise fun first second => state.left first ≤ state.left second
  near : ∀ timer ∈ state.list, state.left timer < halfTick

namespace Timers

variable (state : Timers) {timer other : Nat} (change : Timer → Timer)

@[simp]
theorem modify_self :
    (state.modify timer change).timers timer = change (state.timers timer) :=
  Function.update_self _ _ _

theorem modify_of_ne (different : other ≠ timer) :
    (state.modify timer change).timers other = state.timers other :=
  Function.update_of_ne different _ _

@[simp]
theorem list_modify : (state.modify timer change).list = state.list :=
  rfl

@[simp]
theorem tick_modify : (state.modify timer change).tick = state.tick :=
  rfl

@[simp]
theorem calls_modify : (state.modify timer change).calls = state.calls :=
  rfl

/-- A change that leaves the timeout of a timer alone. -/
theorem left_modify (same : ∀ fields, (change fields).timeoutTick = fields.timeoutTick)
    (other : Nat) : (state.modify timer change).left other = state.left other := by
  unfold left
  by_cases self : other = timer
  · rw [self, modify_self, same, tick_modify]
  · rw [modify_of_ne _ _ self, tick_modify]

/-- The comparison of `rt_timer_start` compares the ticks left. -/
theorem tickSub_timeouts (listed : Listed state) :
    tickSub (state.timers other).timeoutTick (state.timers timer).timeoutTick =
      tickSub (state.left other) (state.left timer) := by
  have first := listed.timeouts other
  have second := listed.timeouts timer
  have now := listed.tick
  unfold left tickSub
  omega

theorem tickSub_eq_zero_iff (listed : Listed state) (near : state.left other < halfTick)
    (close : state.left timer < halfTick) :
    tickSub (state.timers other).timeoutTick (state.timers timer).timeoutTick = 0 ↔
      state.left other = state.left timer := by
  rw [tickSub_timeouts state listed]
  unfold halfTick at near close
  unfold tickSub
  omega

theorem tickSub_lt_half_iff (listed : Listed state) (near : state.left other < halfTick)
    (close : state.left timer < halfTick) :
    tickSub (state.timers other).timeoutTick (state.timers timer).timeoutTick < halfTick ↔
      state.left timer ≤ state.left other := by
  rw [tickSub_timeouts state listed]
  unfold halfTick at near close ⊢
  unfold tickSub
  omega

/-- The comparison of `rt_timer_check`. -/
theorem due_iff (listed : Listed state) (near : state.left timer < halfTick) :
    tickSub state.tick (state.timers timer).timeoutTick < halfTick ↔ state.left timer = 0 := by
  have now := listed.tick
  have timeout := listed.timeouts timer
  unfold left halfTick tickSub at near
  unfold left halfTick tickSub
  omega

/-! ## The place of a timer -/

theorem perm_place (list : List Nat) : (state.place timer list).Perm (timer :: list) := by
  induction list with
  | nil => exact List.Perm.refl _
  | cons other rest ih =>
      unfold place
      simp only
      split
      · exact (ih.cons other).trans (List.Perm.swap timer other rest)
      · split
        · exact List.Perm.refl _
        · exact (ih.cons other).trans (List.Perm.swap timer other rest)

theorem sorted_place (listed : Listed state) {list : List Nat}
    (sorted : list.Pairwise fun first second => state.left first ≤ state.left second)
    (near : ∀ other ∈ list, state.left other < halfTick) (close : state.left timer < halfTick) :
    (state.place timer list).Pairwise fun first second => state.left first ≤ state.left second := by
  induction list with
  | nil => exact List.pairwise_singleton _ _
  | cons other rest ih =>
      obtain ⟨first, later⟩ := List.pairwise_cons.mp sorted
      have nearHere := near other List.mem_cons_self
      have kept := ih later fun one member => near one (List.mem_cons_of_mem _ member)
      have behind (before : state.left other ≤ state.left timer) :
          (other :: state.place timer rest).Pairwise
            fun first second => state.left first ≤ state.left second := by
        refine List.pairwise_cons.mpr ⟨fun one member => ?_, kept⟩
        rcases List.mem_cons.mp ((perm_place state rest).mem_iff.mp member) with rfl | member
        · exact before
        · exact first one member
      unfold place
      simp only [tickSub_eq_zero_iff state listed nearHere close,
        tickSub_lt_half_iff state listed nearHere close]
      split
      · rename_i same
        exact behind (Nat.le_of_eq same)
      · split
        · rename_i before
          refine List.pairwise_cons.mpr ⟨fun one member => ?_, sorted⟩
          rcases List.mem_cons.mp member with rfl | member
          · exact before
          · exact Nat.le_trans before (first one member)
        · rename_i after
          exact behind (by omega)

/-- How many timers of the list are due. -/
def dues (state : Timers) : Nat :=
  state.list.countP fun timer => state.left timer = 0

end Timers

/-! ## The operations -/

/-- The timer that an action is about. -/
def TimerAction.timer : TimerAction → Nat
  | .start timer | .stop timer | .setTime timer _ | .setOneshot timer | .setPeriodic timer => timer

/-- A time that `rt_timer_start` takes. -/
def TimerAction.valid : TimerAction → Prop
  | .setTime _ time => 0 < time ∧ time < halfTick
  | _ => True

/-- What an operation about other timers leaves of this one. -/
def Aside (state target : Timers) (timer : Nat) : Prop :=
  target.timers timer = state.timers timer ∧ (timer ∈ target.list ↔ timer ∈ state.list)

theorem Aside.left {state target : Timers} {timer : Nat} (aside : Aside state target timer)
    (tick : target.tick = state.tick) : target.left timer = state.left timer := by
  unfold Timers.left
  rw [aside.1, tick]

/-- What every operation of threads and timeout functions keeps. -/
structure Operated (state target : Timers) (timer : Nat) : Prop where
  listed : Listed target
  tick : target.tick = state.tick
  calls : target.calls = state.calls
  dues : target.dues ≤ state.dues
  aside : ∀ other, other ≠ timer → Aside state target other

theorem Operated.trans {state middle target : Timers} {timer : Nat}
    (first : Operated state middle timer) (second : Operated middle target timer) :
    Operated state target timer where
  listed := second.listed
  tick := second.tick.trans first.tick
  calls := second.calls.trans first.calls
  dues := Nat.le_trans second.dues first.dues
  aside := fun other different =>
    ⟨(second.aside other different).1.trans (first.aside other different).1,
      (second.aside other different).2.trans (first.aside other different).2⟩

namespace Listed

variable {state : Timers} {timer : Nat}

theorem remove (listed : Listed state) (timer : Nat) :
    Operated state (state.remove timer) timer where
  listed :=
    { tick := listed.tick
      timeouts := listed.timeouts
      times := listed.times
      distinct := listed.distinct.erase timer
      sorted := listed.sorted.sublist List.erase_sublist
      near := fun other member => listed.near other (List.mem_of_mem_erase member) }
  tick := rfl
  calls := rfl
  dues := List.erase_sublist.countP_le
  aside := fun _ different => ⟨rfl, List.mem_erase_of_ne different⟩

theorem modify (listed : Listed state) {change : Timer → Timer}
    (same : ∀ fields, (change fields).timeoutTick = fields.timeoutTick)
    (times : 0 < (change (state.timers timer)).initTick ∧
      (change (state.timers timer)).initTick < halfTick) :
    Operated state (state.modify timer change) timer where
  listed :=
    { tick := listed.tick
      timeouts := by
        intro other
        by_cases self : other = timer
        · rw [self, Timers.modify_self, same]
          exact listed.timeouts timer
        · rw [Timers.modify_of_ne _ _ self]
          exact listed.timeouts other
      times := by
        intro other
        by_cases self : other = timer
        · rw [self, Timers.modify_self]
          exact times
        · rw [Timers.modify_of_ne _ _ self]
          exact listed.times other
      distinct := listed.distinct
      sorted := by
        simp only [Timers.left_modify _ _ same]
        exact listed.sorted
      near := by
        simp only [Timers.left_modify _ _ same]
        exact listed.near }
  tick := rfl
  calls := rfl
  dues := by
    unfold Timers.dues
    simp only [Timers.left_modify _ _ same]
    exact Nat.le_refl _
  aside := fun _ different => ⟨Timers.modify_of_ne _ _ different, Iff.rfl⟩

/-- A timer that is not in the list gets a timeout. -/
theorem schedule (listed : Listed state) (absent : timer ∉ state.list) :
    Operated state (state.modify timer fun fields =>
      { fields with timeoutTick := (state.tick + fields.initTick) % 4294967296 }) timer ∧
    (state.modify timer fun fields => { fields with
      timeoutTick := (state.tick + fields.initTick) % 4294967296 }).left timer =
        (state.timers timer).initTick := by
  have others (other : Nat) (different : other ≠ timer) :
      (state.modify timer fun fields => { fields with
        timeoutTick := (state.tick + fields.initTick) % 4294967296 }).left other =
          state.left other := by
    unfold Timers.left
    rw [Timers.modify_of_ne _ _ different, Timers.tick_modify]
  have apart (other : Nat) (member : other ∈ state.list) : other ≠ timer := by
    rintro rfl
    exact absent member
  refine ⟨⟨⟨listed.tick, ?_, ?_, listed.distinct, ?_, ?_⟩, rfl, rfl, ?_, ?_⟩, ?_⟩
  · intro other
    by_cases self : other = timer
    · rw [self, Timers.modify_self]
      exact Nat.mod_lt _ (by decide)
    · rw [Timers.modify_of_ne _ _ self]
      exact listed.timeouts other
  · intro other
    by_cases self : other = timer
    · rw [self, Timers.modify_self]
      exact listed.times timer
    · rw [Timers.modify_of_ne _ _ self]
      exact listed.times other
  · refine listed.sorted.imp_of_mem fun {first second} one two before => ?_
    rw [others first (apart first one), others second (apart second two)]
    exact before
  · intro other member
    rw [others other (apart other member)]
    exact listed.near other member
  · apply Nat.le_of_eq
    apply List.countP_congr
    intro other member
    rw [others other (apart other member)]
  · exact fun other different => ⟨Timers.modify_of_ne _ _ different, Iff.rfl⟩
  · have now := listed.tick
    have time := (listed.times timer).2
    unfold halfTick at time
    unfold Timers.left
    rw [Timers.modify_self, Timers.tick_modify]
    unfold tickSub
    simp only
    omega

/-- `rt_timer_start` up to the insertion -/
theorem prepare (listed : Listed state) (timer : Nat) :
    ∃ target, state.prepare timer = some target ∧ Operated state target timer ∧
      timer ∉ target.list ∧ target.left timer = (state.timers timer).initTick ∧
      (target.timers timer).initTick = (state.timers timer).initTick ∧
      (target.timers timer).periodic = (state.timers timer).periodic := by
  have removed := listed.remove timer
  have absent : timer ∉ (state.remove timer).list :=
    fun member => (listed.distinct.mem_erase_iff.mp member).1 rfl
  have stopped : Operated (state.remove timer) ((state.remove timer).modify timer fun fields =>
      { fields with activated := false }) timer :=
    removed.listed.modify (fun _ => rfl) (listed.times timer)
  obtain ⟨scheduled, left⟩ := stopped.listed.schedule absent
  have own : ((state.remove timer).modify timer fun fields =>
      { fields with activated := false }).timers timer =
        { state.timers timer with activated := false } :=
    Timers.modify_self _ _
  refine ⟨_, ?_, (removed.trans stopped).trans scheduled, absent, ?_, ?_, ?_⟩
  · unfold Timers.prepare
    simp only
    rw [if_pos]
    rw [own]
    exact (listed.times timer).2
  · rw [left, own]
  · rw [Timers.modify_self, own]
  · rw [Timers.modify_self, own]

/-- The rest of `rt_timer_start` -/
theorem insert (listed : Listed state) (absent : timer ∉ state.list)
    (close : state.left timer < halfTick) (later : 0 < state.left timer) :
    Operated state (state.insert timer) timer ∧ timer ∈ (state.insert timer).list ∧
      (state.insert timer).left timer = state.left timer ∧
      (state.insert timer).timers timer = { state.timers timer with activated := true } := by
  have perm : (state.place timer state.list).Perm (timer :: state.list) :=
    state.perm_place state.list
  have member (other : Nat) : other ∈ state.place timer state.list ↔
      other = timer ∨ other ∈ state.list := by
    rw [perm.mem_iff, List.mem_cons]
  have placed : Operated state { state with list := state.place timer state.list } timer :=
    { listed :=
        { tick := listed.tick
          timeouts := listed.timeouts
          times := listed.times
          distinct := perm.nodup_iff.mpr (List.nodup_cons.mpr ⟨absent, listed.distinct⟩)
          sorted := state.sorted_place listed listed.sorted listed.near close
          near := by
            intro other here
            rcases (member other).mp here with rfl | before
            · exact close
            · exact listed.near other before }
      tick := rfl
      calls := rfl
      dues := by
        change (state.place timer state.list).countP (fun other => state.left other = 0) ≤ _
        rw [perm.countP_eq, List.countP_cons_of_neg (by simpa using Nat.ne_of_gt later)]
        exact Nat.le_refl _
      aside := fun other different => ⟨rfl, by
        rw [member]
        exact or_iff_right different⟩ }
  have marked : Operated { state with list := state.place timer state.list }
      (state.insert timer) timer :=
    placed.listed.modify (fun _ => rfl) (listed.times timer)
  refine ⟨placed.trans marked, (member timer).mpr (Or.inl rfl), ?_, ?_⟩
  · unfold Timers.insert Timers.left
    rw [Timers.modify_self]
    rfl
  · exact Timers.modify_self _ _

/-- `rt_timer_start` -/
theorem start (listed : Listed state) (timer : Nat) :
    ∃ target, state.timerStart timer = some target ∧ Operated state target timer ∧
      timer ∈ target.list ∧ target.left timer = (state.timers timer).initTick ∧
      (target.timers timer).initTick = (state.timers timer).initTick ∧
      (target.timers timer).periodic = (state.timers timer).periodic ∧
      (target.timers timer).activated = true := by
  obtain ⟨middle, prepared, operated, absent, left, time, periodic⟩ := listed.prepare timer
  obtain ⟨inserted, member, kept, own⟩ := operated.listed.insert absent
    (left ▸ (listed.times timer).2) (left ▸ (listed.times timer).1)
  refine ⟨middle.insert timer, ?_, operated.trans inserted, member, kept.trans left, ?_, ?_, ?_⟩
  · unfold Timers.timerStart
    rw [prepared]
    rfl
  · rw [own]
    exact time
  · rw [own]
    exact periodic
  · rw [own]

/-- `rt_timer_stop` -/
theorem stop (listed : Listed state) (timer : Nat) :
    Operated state (state.timerStop timer) timer := by
  unfold Timers.timerStop
  split
  · have removed := listed.remove timer
    exact removed.trans (removed.listed.modify (fun _ => rfl) (listed.times timer))
  · exact ⟨listed, rfl, rfl, Nat.le_refl _, fun _ _ => ⟨rfl, Iff.rfl⟩⟩

theorem act (listed : Listed state) {action : TimerAction} (valid : action.valid) :
    ∃ target, state.act action = some target ∧ Operated state target action.timer := by
  cases action with
  | start timer =>
      obtain ⟨target, started, operated, -⟩ := listed.start timer
      exact ⟨target, started, operated⟩
  | stop timer => exact ⟨_, rfl, listed.stop timer⟩
  | setTime timer time => exact ⟨_, rfl, listed.modify (fun _ => rfl) valid⟩
  | setOneshot timer => exact ⟨_, rfl, listed.modify (fun _ => rfl) (listed.times timer)⟩
  | setPeriodic timer => exact ⟨_, rfl, listed.modify (fun _ => rfl) (listed.times timer)⟩

/-! ## Timeouts -/

/-- The actions of a timeout function. -/
theorem actions (listed : Listed state) {actions : List TimerAction}
    (valid : ∀ action ∈ actions, action.valid) :
    ∃ target, actions.foldlM Timers.act state = some target ∧ Listed target ∧
      target.tick = state.tick ∧ target.calls = state.calls ∧ target.dues ≤ state.dues ∧
      ∀ other, (∀ action ∈ actions, action.timer ≠ other) → Aside state target other := by
  induction actions generalizing state with
  | nil => exact ⟨state, rfl, listed, rfl, rfl, Nat.le_refl _, fun _ _ => ⟨rfl, Iff.rfl⟩⟩
  | cons action rest ih =>
      obtain ⟨middle, acted, operated⟩ := listed.act (valid action List.mem_cons_self)
      obtain ⟨target, executed, kept, tick, calls, dues, aside⟩ := ih operated.listed
        fun other member => valid other (List.mem_cons_of_mem _ member)
      refine ⟨target, ?_, kept, tick.trans operated.tick, calls.trans operated.calls,
        Nat.le_trans dues operated.dues, fun other apart => ?_⟩
      · rw [List.foldlM_cons, acted]
        exact executed
      · obtain ⟨fields, member⟩ := operated.aside other
          fun same => apart action List.mem_cons_self same.symm
        obtain ⟨later, there⟩ := aside other
          fun one here => apart one (List.mem_cons_of_mem _ here)
        exact ⟨later.trans fields, there.trans member⟩

/-- What the timeout of one timer does to another, and to itself if its function leaves it
alone. -/
theorem expire (listed : Listed state) {functions : Nat → List TimerAction}
    (valid : ∀ action ∈ functions timer, action.valid) {rest : List Nat}
    (front : state.list = timer :: rest) (due : state.left timer = 0) :
    ∃ target, state.expire functions timer = some target ∧ Listed target ∧
      target.tick = state.tick ∧ target.calls = timer :: state.calls ∧
      target.dues < state.dues ∧
      (∀ other, other ≠ timer → (∀ action ∈ functions timer, action.timer ≠ other) →
        Aside state target other) ∧
      ((∀ action ∈ functions timer, action.timer ≠ timer) →
        (target.timers timer).initTick = (state.timers timer).initTick ∧
        (target.timers timer).periodic = (state.timers timer).periodic ∧
        if (state.timers timer).periodic ∧ (state.timers timer).activated then
          timer ∈ target.list ∧ target.left timer = (state.timers timer).initTick ∧
            (target.timers timer).activated = true
        else timer ∉ target.list ∧ (target.timers timer).activated = false) := by
  have removed := listed.remove timer
  have fewer : (state.remove timer).dues < state.dues := by
    unfold Timers.dues Timers.remove
    simp only [front, List.erase_cons_head]
    rw [List.countP_cons_of_pos (by simpa using due)]
    exact Nat.lt_succ_self _
  have called : Listed { state.remove timer with calls := timer :: state.calls } :=
    ⟨removed.listed.tick, removed.listed.timeouts, removed.listed.times, removed.listed.distinct,
      removed.listed.sorted, removed.listed.near⟩
  obtain ⟨middle, executed, kept, tick, calls, dues, aside⟩ := called.actions valid
  have stopped : Operated middle (middle.modify timer fun fields =>
      { fields with activated := false }) timer :=
    kept.modify (fun _ => rfl) (kept.times timer)
  have asideBefore (other : Nat) (different : other ≠ timer)
      (apart : ∀ action ∈ functions timer, action.timer ≠ other) : Aside state middle other := by
    obtain ⟨fields, member⟩ := removed.aside other different
    obtain ⟨later, there⟩ := aside other apart
    exact ⟨later.trans fields, there.trans member⟩
  have absent : timer ∉ (state.remove timer).list :=
    fun member => (listed.distinct.mem_erase_iff.mp member).1 rfl
  unfold Timers.expire Timers.callTimeout
  change ∃ target, (List.foldlM Timers.act
    { state.remove timer with calls := timer :: state.calls } (functions timer)).bind _ = _ ∧ _
  rw [executed, Option.bind_some]
  simp only
  by_cases again : (middle.timers timer).periodic = true ∧ (middle.timers timer).activated = true
  · rw [if_pos again]
    obtain ⟨target, started, operated, member, left, time, periodic, active⟩ :=
      stopped.listed.start timer
    rw [Timers.modify_self] at left time periodic
    refine ⟨target, started, operated.listed, operated.tick.trans tick,
      operated.calls.trans calls,
      Nat.lt_of_le_of_lt (Nat.le_trans operated.dues (Nat.le_trans stopped.dues dues)) fewer,
      fun other different apart => ?_, fun apart => ?_⟩
    · obtain ⟨fields, here⟩ := asideBefore other different apart
      obtain ⟨middleFields, middleHere⟩ := (stopped.trans operated).aside other different
      exact ⟨middleFields.trans fields, middleHere.trans here⟩
    · obtain ⟨own, -⟩ := aside timer apart
      change middle.timers timer = state.timers timer at own
      rw [own] at again left time periodic
      rw [if_pos again]
      exact ⟨time, periodic, member, left, active⟩
  · rw [if_neg again]
    refine ⟨_, rfl, stopped.listed, tick, calls,
      Nat.lt_of_le_of_lt (Nat.le_trans stopped.dues dues) fewer,
      fun other different apart => ?_, fun apart => ?_⟩
    · obtain ⟨fields, here⟩ := asideBefore other different apart
      obtain ⟨middleFields, middleHere⟩ := stopped.aside other different
      exact ⟨middleFields.trans fields, middleHere.trans here⟩
    · obtain ⟨own, here⟩ := aside timer apart
      change middle.timers timer = state.timers timer at own
      rw [own] at again
      rw [if_neg again, Timers.modify_self, own]
      exact ⟨rfl, rfl, fun member => absent (here.mp member), rfl⟩

/-- `rt_timer_check` returns after the timers that are due, and keeps what every timeout
keeps. -/
theorem check (listed : Listed state) {functions : Nat → List TimerAction}
    (valid : ∀ timer, ∀ action ∈ functions timer, action.valid) {kept : Timers → Prop}
    (start : kept state)
    (timeout : ∀ before timer rest, Listed before → kept before → before.list = timer :: rest →
      before.left timer = 0 → ∀ after, before.expire functions timer = some after → kept after)
    {rounds : Nat} (enough : state.dues < rounds) :
    ∃ target, Timers.timerCheck functions rounds state = some target ∧ Listed target ∧
      target.tick = state.tick ∧ (∀ timer ∈ target.list, 0 < target.left timer) ∧ kept target := by
  induction rounds generalizing state with
  | zero => exact absurd enough (Nat.not_lt_zero _)
  | succ rounds ih =>
      unfold Timers.timerCheck
      cases front : state.list with
      | nil => exact ⟨state, rfl, listed, rfl, by simp [front], start⟩
      | cons first rest =>
          have member : first ∈ state.list := by
            rw [front]
            exact List.mem_cons_self
          simp only [Timers.due_iff state listed (listed.near first member)]
          by_cases due : state.left first = 0
          · rw [if_pos due]
            obtain ⟨middle, expired, middleListed, tick, -, fewer, -⟩ :=
              listed.expire (valid first) front due
            obtain ⟨target, checked, last, lastTick, after⟩ := ih middleListed
              (timeout state first rest listed start front due middle expired) (by omega)
            refine ⟨target, ?_, last, lastTick.trans tick, after⟩
            rw [expired]
            exact checked
          · rw [if_neg due]
            -- the first timer comes first
            refine ⟨state, rfl, listed, rfl, fun timer here => ?_, start⟩
            have sorted := listed.sorted
            rw [front] at sorted here
            rcases List.mem_cons.mp here with rfl | behind
            · exact Nat.pos_of_ne_zero due
            · exact Nat.lt_of_lt_of_le (Nat.pos_of_ne_zero due)
                ((List.pairwise_cons.mp sorted).1 timer behind)

end Listed

/-- What a check does to a timer that no timeout function starts, stops or sets. -/
structure Served (state target : Timers) (timer : Nat) : Prop where
  time : (target.timers timer).initTick = (state.timers timer).initTick
  periodic : (target.timers timer).periodic = (state.timers timer).periodic
  outcome : Aside state target timer ∧ target.calls.count timer = state.calls.count timer ∨
    timer ∈ state.list ∧ state.left timer = 0 ∧
      target.calls.count timer = state.calls.count timer + 1 ∧
      if (state.timers timer).periodic ∧ (state.timers timer).activated then
        timer ∈ target.list ∧ target.left timer = (state.timers timer).initTick ∧
          (target.timers timer).activated = true
      else timer ∉ target.list ∧ (target.timers timer).activated = false

theorem Served.timeout {state before after : Timers} {timer first : Nat} {rest : List Nat}
    {functions : Nat → List TimerAction} (served : Served state before timer)
    (tick : before.tick = state.tick)
    (valid : ∀ action ∈ functions first, action.valid)
    (apart : ∀ action ∈ functions first, action.timer ≠ timer) (listed : Listed before)
    (front : before.list = first :: rest) (due : before.left first = 0)
    (expired : before.expire functions first = some after) : Served state after timer := by
  obtain ⟨target, same, targetListed, targetTick, calls, -, aside, own⟩ :=
    listed.expire valid front due
  obtain rfl : target = after := Option.some.inj (same.symm.trans expired)
  by_cases self : first = timer
  · subst self
    obtain ⟨time, periodic, shape⟩ := own apart
    refine ⟨time.trans served.time, periodic.trans served.periodic, Or.inr ?_⟩
    rcases served.outcome with ⟨there, count⟩ | ⟨-, -, -, fired⟩
    · have member : first ∈ state.list := by
        rw [← there.2, front]
        exact List.mem_cons_self
      have left := there.left tick
      rw [there.1] at shape
      refine ⟨member, left.symm.trans due, ?_, shape⟩
      rw [calls, List.count_cons_self, count]
    · -- a timer that has been served is not due again
      exfalso
      have positive := (listed.times first).1
      rw [served.time] at positive
      split at fired
      · omega
      · apply fired.1
        rw [front]
        exact List.mem_cons_self
  · obtain ⟨fields, member⟩ := aside timer (Ne.symm self) apart
    have left := Aside.left ⟨fields, member⟩ targetTick
    have count : target.calls.count timer = before.calls.count timer := by
      rw [calls, List.count_cons_of_ne self]
    refine ⟨?_, ?_, ?_⟩
    · rw [fields]
      exact served.time
    · rw [fields]
      exact served.periodic
    · rw [count, left, fields, member]
      refine served.outcome.imp_left fun ⟨there, same⟩ => ⟨?_, same⟩
      exact ⟨fields.trans there.1, member.trans there.2⟩

end BerPiNbiot.Kernel
