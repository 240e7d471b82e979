import BerPiNbiot.Kernel.Mutex
import BerPiNbiot.Modem.Connect
import Mathlib.Data.UInt

/-!
# Power saving

`qsdk_psm_entry` holds the AT lock while the module sleeps.  Entering takes the
lock without looking at the current status, leaving releases it once, and the
lock is recursive: a repeated report of sleep adds a hold that nobody takes
back.

The iteration of the thread is run against a relation that fixes what the PSM
thread's own calls do to the status and to the lock and lets the other threads
do to the lock whatever they can in between.  A take that has to wait ends in
the state of a take at a moment when the lock is free, since the release that
wakes the waiting thread hands the lock over with one hold.
-/

namespace BerPiNbiot.Modem

open BerPiNbiot.Kernel
open BerPiNbiot.Resumption
open BerPiNbiot.Text

/-! ## The thread -/

/-- The flags that the PSM thread waits for. -/
def psmRequested : EventSet :=
  eventEnterPsm ||| eventExitPsm ||| eventExitPsmReboot

/-- Wake the module's AT interface up and switch automatic sleep off. -/
def wakeUp : Code Unit := do
  let _ ← qsdkNbWaitConnect
  let _ ← atObjExecCmd (ascii "AT+CPSMS=0")

/-- What `qsdk_psm_entry` does with a received set. -/
def psmHandle (status : EventSet) : Code Unit := do
  if status = eventEnterPsm then
    writePsmStatus .enterPsm
    lockTake
  else if status = eventExitPsm ∨ status = eventExitPsmReboot then
    if status = eventExitPsmReboot then
      writePsmStatus .psmRun
      lockRelease
      wakeUp
    if (← readPsmStatus) = .enterPsm then
      lockRelease
      wakeUp
    if status = eventExitPsm then
      if ← getPsmStatus then
        writePsmStatus .exitPsm
        eventSend .nbEvent eventEnterRun

/-- One turn of the loop of `qsdk_psm_entry`. -/
def qsdkPsmIteration : Code Unit := do
  match ← eventRecv .nbEvent .or psmRequested none with
  | none => return ()
  | some status => psmHandle status

/-- A single flag received by the PSM thread. -/
inductive PsmEvent
  | enter
  | exit
  | exitReboot
  deriving DecidableEq, Repr

/-- The flag of an event in `nb_event`. -/
def PsmEvent.flag : PsmEvent → EventSet
  | .enter => eventEnterPsm
  | .exit => eventExitPsm
  | .exitReboot => eventExitPsmReboot

/-! ## Its environment -/

/-- What the PSM thread shares with the others here. -/
structure PsmState where
  nbiotPsmStatus : NbStatus := .exitPsm
  lock : Mutex Thread := {}
  deriving DecidableEq, Repr

/-- The mutex after the other threads' turn and a take of the PSM thread. -/
def Acquires (before after : Mutex Thread) : Prop :=
  ∃ free, Interferes .psm before free ∧ rtMutexTake .psm free = (true, after)

/-- The mutex after the other threads' turn and a release of the PSM thread. -/
def Releases (before after : Mutex Thread) : Prop :=
  ∃ middle, Interferes .psm before middle ∧ after = (rtMutexRelease .psm middle).1

/-- The answers to the PSM thread in a turn that receives `event`. -/
def PsmResponds (event : PsmEvent) (before : PsmState) :
    (request : Call) → request.Answer → PsmState → Prop
  | .eventRecv .., answer, after =>
      answer = some event.flag ∧ after.nbiotPsmStatus = before.nbiotPsmStatus ∧
        Interferes .psm before.lock after.lock
  | .readPsmStatus, answer, after =>
      answer = before.nbiotPsmStatus ∧ after.nbiotPsmStatus = before.nbiotPsmStatus ∧
        Interferes .psm before.lock after.lock
  | .writePsmStatus status, _, after =>
      after.nbiotPsmStatus = status ∧ Interferes .psm before.lock after.lock
  | .lockTake, _, after =>
      after.nbiotPsmStatus = before.nbiotPsmStatus ∧ Acquires before.lock after.lock
  | .lockRelease, _, after =>
      after.nbiotPsmStatus = before.nbiotPsmStatus ∧ Releases before.lock after.lock
  -- An AT command brackets its transaction with the lock.
  | .execCmd _, _, after | .waitConnect _, _, after =>
      after.nbiotPsmStatus = before.nbiotPsmStatus ∧
        ∃ held, Acquires before.lock held ∧ Releases held after.lock
  | _, _, after =>
      after.nbiotPsmStatus = before.nbiotPsmStatus ∧ Interferes .psm before.lock after.lock

/-- The PSM thread consumes the events one at a time. -/
def PsmRun : List PsmEvent → PsmState → PsmState → Prop
  | [], before, after => after = before
  | event :: rest, before, after =>
      ∃ middle, Program.Runs (PsmResponds event) qsdkPsmIteration before ()
        middle ∧ PsmRun rest middle after

/-- The holds that the PSM thread has on the AT lock. -/
def PsmState.hold (state : PsmState) : UInt8 :=
  (state.lock.view .psm).getD 0

/-! ## One turn -/

/-- The status and the PSM thread's view of the lock. -/
def PsmState.view (state : PsmState) : NbStatus × Option UInt8 :=
  (state.nbiotPsmStatus, state.lock.view .psm)

/-- A turn of the loop on the view. -/
def psmNext (view : NbStatus × Option UInt8) : PsmEvent → NbStatus × Option UInt8
  | .enter => (.enterPsm, some (viewTake view.2))
  | .exit => (.exitPsm, if view.1 = .enterPsm then viewRelease view.2 else view.2)
  | .exitReboot => (.psmRun, viewRelease view.2)

theorem acquires_view {before after : Mutex Thread} (acquired : Acquires before after) :
    after.view .psm = some (viewTake (before.view .psm)) := by
  rcases acquired with ⟨free, ⟨coherent, view⟩, taken⟩
  rw [(rtMutexTake_view coherent taken).1, view]

theorem releases_view {before after : Mutex Thread} (released : Releases before after) :
    after.view .psm = viewRelease (before.view .psm) := by
  rcases released with ⟨middle, ⟨coherent, view⟩, rfl⟩
  rw [(rtMutexRelease_view coherent).1, view]

/-- After a release, a bracketed AT command leaves the view alone.  It would not
do so on a wrapped hold count of zero, which a release never leaves behind. -/
theorem viewRelease_bracket (view : Option UInt8) :
    viewRelease (some (viewTake (viewRelease view))) = viewRelease view := by
  cases view with
  | none => rfl
  | some hold =>
      by_cases last : hold - 1 = 0
      · simp [viewRelease, viewTake, last]
      · have back : hold - 1 + 1 - 1 = hold - 1 := UInt8.add_sub_cancel _ _
        simp only [viewRelease, last, if_false, viewTake, back]

/-- Waking up keeps a view that a release has left. -/
theorem wakeUp_view {event : PsmEvent} {before after : PsmState} {released : Option UInt8}
    (run : Program.Runs (PsmResponds event) wakeUp before () after)
    (view : before.lock.view .psm = viewRelease released) :
    after.view = before.view := by
  have bracket : ∀ {first last : Mutex Thread}, first.view .psm = viewRelease released →
      (∃ held, Acquires first held ∧ Releases held last) →
      last.view .psm = viewRelease released := by
    rintro first last start ⟨held, acquired, freed⟩
    rw [releases_view freed, acquires_view acquired, start, viewRelease_bracket]
  rcases run with ⟨connected, middle, ⟨status, lock⟩, run⟩
  have middleView := bracket view lock
  cases connected with
  | true =>
      rcases run with ⟨_, last, ⟨lastStatus, lastLock⟩, _, rfl⟩
      rw [PsmState.view, PsmState.view, lastStatus, status, bracket middleView lastLock, view]
  | false =>
      obtain ⟨_, deleted, ⟨deletedStatus, _, deletedLock⟩, _, last, ⟨lastStatus, lastLock⟩, _,
        rfl⟩ := run
      have deletedView : deleted.lock.view .psm = viewRelease released := by
        rw [deletedLock, middleView]
      rw [PsmState.view, PsmState.view, lastStatus, deletedStatus, status,
        bracket deletedView lastLock, view]

theorem psmHandle_enter_view {event : PsmEvent} {before after : PsmState}
    (run : Program.Runs (PsmResponds event) (psmHandle eventEnterPsm) before () after) :
    after.view = psmNext before.view .enter := by
  rcases run with ⟨_, marked, ⟨markedStatus, _, markedLock⟩, _, last, ⟨status, acquired⟩, _, rfl⟩
  rw [PsmState.view, status, markedStatus, acquires_view acquired, markedLock]
  rfl

theorem readPsmStatus_runs {event : PsmEvent} {before after : PsmState} {status : NbStatus}
    (run : Program.Runs (PsmResponds event) readPsmStatus before status after) :
    status = before.nbiotPsmStatus ∧ after.view = before.view := by
  rcases run with ⟨_, _, ⟨rfl, seenStatus, _, seenLock⟩, rfl, rfl⟩
  constructor
  · rfl
  · rw [PsmState.view, seenStatus, seenLock]
    rfl

/-- A release followed by a wake-up. -/
theorem release_wakeUp_view {event : PsmEvent} {before freed after : PsmState}
    (releaseRun : Program.Runs (PsmResponds event) lockRelease before () freed)
    (wakeRun : Program.Runs (PsmResponds event) wakeUp freed () after) :
    after.view = (before.nbiotPsmStatus, viewRelease (before.lock.view .psm)) := by
  rcases releaseRun with ⟨_, _, ⟨freedStatus, released⟩, _, rfl⟩
  have freedView := releases_view released
  rw [wakeUp_view wakeRun freedView, PsmState.view, freedStatus, freedView]

/-- Leaving sleep ends in the status `exitPsm`, whatever it was before. -/
theorem markExit_view {event : PsmEvent} {before after : PsmState}
    (run : Program.Runs (PsmResponds event)
      (do
        if ← getPsmStatus then
          writePsmStatus .exitPsm
          eventSend .nbEvent eventEnterRun) before () after) :
    after.view = (.exitPsm, before.lock.view .psm) := by
  simp only [getPsmStatus, Program.runs_bind, Program.runs_ret, Program.pure_eq_ret] at run
  rcases run with ⟨_, _, ⟨status, seen, seenRun, rfl, rfl⟩, run⟩
  rcases readPsmStatus_runs seenRun with ⟨rfl, seenView⟩
  by_cases out : before.nbiotPsmStatus = .exitPsm
  · simp only [out, ne_eq, not_true_eq_false, decide_false, Bool.false_eq_true, if_false,
      Program.runs_ret, true_and] at run
    rw [run, seenView, PsmState.view, out]
  · simp only [out, ne_eq, not_false_eq_true, decide_true, if_true] at run
    obtain ⟨_, marked, ⟨markedStatus, _, markedLock⟩, _, last, ⟨lastStatus, _, lastLock⟩, _,
      rfl⟩ := run
    rw [PsmState.view, lastStatus, markedStatus, lastLock, markedLock]
    exact congrArg _ (congrArg Prod.snd seenView)

theorem psmHandle_exit_view {event : PsmEvent} {before after : PsmState}
    (run : Program.Runs (PsmResponds event) (psmHandle eventExitPsm) before () after) :
    after.view = psmNext before.view .exit := by
  have own : ¬ eventExitPsm = eventEnterPsm := by decide
  have other : ¬ eventExitPsm = eventExitPsmReboot := by decide
  simp only [psmHandle, own, other, if_false, if_true, true_or] at run
  rcases (Program.runs_bind _ _ _ _ _ _).mp run with ⟨status, seen, seenRun, run⟩
  rcases readPsmStatus_runs seenRun with ⟨rfl, seenView⟩
  rw [PsmState.view, PsmState.view, Prod.mk.injEq] at seenView
  by_cases asleep : before.nbiotPsmStatus = .enterPsm
  · rw [if_pos asleep] at run
    rcases (Program.runs_bind _ _ _ _ _ _).mp run with ⟨_, freed, releaseRun, run⟩
    rcases (Program.runs_bind _ _ _ _ _ _).mp run with ⟨_, woken, wakeRun, run⟩
    have wokenView := congrArg Prod.snd (release_wakeUp_view releaseRun wakeRun)
    rw [markExit_view run, psmNext, PsmState.view, if_pos asleep, ← seenView.2]
    exact congrArg _ wokenView
  · rw [if_neg asleep] at run
    rw [markExit_view run, psmNext, PsmState.view, if_neg asleep, seenView.2]

theorem psmHandle_exitReboot_view {event : PsmEvent} {before after : PsmState}
    (run : Program.Runs (PsmResponds event) (psmHandle eventExitPsmReboot) before () after) :
    after.view = psmNext before.view .exitReboot := by
  have own : ¬ eventExitPsmReboot = eventEnterPsm := by decide
  have other : ¬ eventExitPsmReboot = eventExitPsm := by decide
  simp only [psmHandle, own, other, if_false, if_true, or_true] at run
  obtain ⟨_, marked, ⟨_, _, ⟨markedStatus, _, markedLock⟩, _, rfl⟩, run⟩ :=
    (Program.runs_bind _ _ _ _ _ _).mp run
  rcases (Program.runs_bind _ _ _ _ _ _).mp run with ⟨_, freed, releaseRun, run⟩
  rcases (Program.runs_bind _ _ _ _ _ _).mp run with ⟨_, woken, wakeRun, run⟩
  have wokenView := release_wakeUp_view releaseRun wakeRun
  rw [markedStatus, markedLock] at wokenView
  rcases (Program.runs_bind _ _ _ _ _ _).mp run with ⟨status, seen, seenRun, run⟩
  rcases readPsmStatus_runs seenRun with ⟨rfl, seenView⟩
  have awake : ¬ woken.nbiotPsmStatus = .enterPsm := by
    have status : woken.nbiotPsmStatus = .psmRun := congrArg Prod.fst wokenView
    rw [status]
    decide
  rw [if_neg awake] at run
  rcases run with ⟨_, rfl⟩
  rw [seenView, wokenView]
  rfl

/-- A turn of the loop acts on the view as `psmNext`. -/
theorem qsdkPsmIteration_view {event : PsmEvent} {before after : PsmState}
    (run : Program.Runs (PsmResponds event) qsdkPsmIteration before () after) :
    after.view = psmNext before.view event := by
  rcases run with ⟨_, received, ⟨rfl, status, _, lock⟩, run⟩
  have view : received.view = before.view := by
    rw [PsmState.view, status, lock]
    rfl
  rw [← view]
  cases event with
  | enter => exact psmHandle_enter_view run
  | exit => exact psmHandle_exit_view run
  | exitReboot => exact psmHandle_exitReboot_view run

/-- A run acts on the view as the fold of its turns. -/
theorem psmRun_view {events : List PsmEvent} {before after : PsmState}
    (run : PsmRun events before after) : after.view = events.foldl psmNext before.view := by
  induction events generalizing before with
  | nil =>
      rw [run]
      rfl
  | cons event rest ih =>
      rcases run with ⟨middle, turn, later⟩
      rw [ih later, qsdkPsmIteration_view turn]
      rfl

/-! ## Every run of events exists -/

theorem exists_interferes_free (mutex : Mutex Thread) (coherent : mutex.Coherent .psm) :
    ∃ free, Interferes .psm mutex free ∧ (rtMutexTake .psm free).1 = true := by
  by_cases own : mutex.owner = some .psm
  · exact ⟨mutex, ⟨coherent, rfl⟩, rtMutexTake_of_free (Or.inr own)⟩
  · refine ⟨{}, ⟨⟨fun _ => rfl, by simp⟩, ?_⟩, rtMutexTake_of_free (Or.inl rfl)⟩
    rw [view_eq_none_iff.mpr own]
    rfl

theorem exists_acquires {mutex : Mutex Thread} (coherent : mutex.Coherent .psm) :
    ∃ held, Acquires mutex held ∧ held.Coherent .psm := by
  rcases exists_interferes_free mutex coherent with ⟨free, interferes, taken⟩
  have result : rtMutexTake .psm free = (true, (rtMutexTake .psm free).2) := by
    rw [← taken]
  exact ⟨_, ⟨free, interferes, result⟩, (rtMutexTake_view interferes.1 result).2⟩

theorem exists_releases {mutex : Mutex Thread} (coherent : mutex.Coherent .psm) :
    ∃ freed, Releases mutex freed ∧ freed.Coherent .psm :=
  ⟨_, ⟨mutex, ⟨coherent, rfl⟩, rfl⟩, (rtMutexRelease_view coherent).2⟩

/-- Every call of the PSM thread is answered. -/
theorem exists_psmResponds (event : PsmEvent) (state : PsmState)
    (coherent : state.lock.Coherent .psm) (request : Call) :
    ∃ (answer : request.Answer) (next : PsmState),
      PsmResponds event state request answer next ∧ next.lock.Coherent .psm := by
  rcases exists_acquires coherent with ⟨held, acquired, heldCoherent⟩
  rcases exists_releases coherent with ⟨freed, released, freedCoherent⟩
  rcases exists_releases heldCoherent with ⟨idle, idleReleased, idleCoherent⟩
  have same : Interferes .psm state.lock state.lock := ⟨coherent, rfl⟩
  cases request with
  | execCmd _ | waitConnect _ =>
      exact ⟨true, { state with lock := idle }, ⟨rfl, held, acquired, idleReleased⟩, idleCoherent⟩
  | lockTake => exact ⟨(), { state with lock := held }, ⟨rfl, acquired⟩, heldCoherent⟩
  | lockRelease => exact ⟨(), { state with lock := freed }, ⟨rfl, released⟩, freedCoherent⟩
  | eventRecv => exact ⟨some event.flag, state, ⟨rfl, rfl, same⟩, coherent⟩
  | readPsmStatus => exact ⟨state.nbiotPsmStatus, state, ⟨rfl, rfl, same⟩, coherent⟩
  | writePsmStatus status =>
      exact ⟨(), { state with nbiotPsmStatus := status }, ⟨rfl, same⟩, coherent⟩
  | _ => exact ⟨(Call.nonempty_answer _).some, state, ⟨rfl, same⟩, coherent⟩

theorem exists_psmRun (events : List PsmEvent) (before : PsmState)
    (coherent : before.lock.Coherent .psm) : ∃ after, PsmRun events before after := by
  induction events generalizing before with
  | nil => exact ⟨before, rfl⟩
  | cons event rest ih =>
      have total :=
        Program.exists_runs (PsmResponds event) (exists_psmResponds event) qsdkPsmIteration
      rcases total before coherent with ⟨_, middle, turn, middleCoherent⟩
      rcases ih middle middleCoherent with ⟨after, later⟩
      exact ⟨after, middle, turn, later⟩

/-! ## Releasing the lock -/

/-- The number of reports of sleep at the end of a run of events. -/
def trailingEnters (events : List PsmEvent) : Nat :=
  (events.reverse.takeWhile (· = .enter)).length

theorem trailingEnters_append_enter (events : List PsmEvent) :
    trailingEnters (events ++ [.enter]) = trailingEnters events + 1 := by
  simp [trailingEnters]

theorem trailingEnters_append_of_ne {event : PsmEvent} (other : event ≠ .enter)
    (events : List PsmEvent) : trailingEnters (events ++ [event]) = 0 := by
  simp [trailingEnters, other]

/-- Outside sleep the PSM thread has no hold on the AT lock. -/
def PsmState.Released (state : PsmState) : Prop :=
  state.nbiotPsmStatus ≠ .enterPsm → state.hold = 0

/-- After each turn of the events the lock is released when it should be. -/
def AlwaysReleased (events : List PsmEvent) : Prop :=
  ∀ finished, finished <+: events → ∀ state, PsmRun finished {} state → state.Released

/-- Every event other than a report of sleep comes after none of these or after
one, counted modulo the size of the hold count. -/
def SingleEnters (events : List PsmEvent) : Prop :=
  ∀ earlier event, earlier ++ [event] <+: events → event ≠ .enter →
    trailingEnters earlier = 0 ∨ trailingEnters earlier % 256 = 1

/-- The view behind a number of reports of sleep. -/
def AsleepView (enters : Nat) (view : NbStatus × Option UInt8) : Prop :=
  if enters = 0 then view.1 ≠ .enterPsm ∧ view.2 = none
  else view = (.enterPsm, some (UInt8.ofNat enters))

theorem singleEnters_concat_iff (events : List PsmEvent) (event : PsmEvent) :
    SingleEnters (events ++ [event]) ↔ SingleEnters events ∧
      (event ≠ .enter → trailingEnters events = 0 ∨ trailingEnters events % 256 = 1) := by
  constructor
  · intro single
    refine ⟨fun earlier other inside => single earlier other ?_, single events event ?_⟩
    · exact inside.trans (List.prefix_append _ _)
    · exact List.prefix_refl _
  · rintro ⟨single, last⟩ earlier other inside
    rcases List.prefix_concat_iff.mp inside with whole | inside
    · rcases List.append_inj' whole rfl with ⟨rfl, tail⟩
      cases tail
      exact last
    · exact single earlier other inside

theorem alwaysReleased_concat_iff (events : List PsmEvent) (event : PsmEvent) :
    AlwaysReleased (events ++ [event]) ↔ AlwaysReleased events ∧
      ∀ state, PsmRun (events ++ [event]) {} state → state.Released := by
  constructor
  · intro always
    refine ⟨fun finished inside => always finished ?_, always _ (List.prefix_refl _)⟩
    exact inside.trans (List.prefix_append _ _)
  · rintro ⟨always, last⟩ finished inside
    rcases List.prefix_concat_iff.mp inside with whole | inside
    · rw [whole]
      exact last
    · exact always finished inside

theorem ofNat_sub_one_eq_zero_iff (enters : Nat) :
    UInt8.ofNat enters - 1 = 0 ↔ enters % 256 = 1 := by
  rw [sub_eq_zero, ← UInt8.toNat_inj, UInt8.toNat_ofNat']
  rfl

theorem asleepView_enter {enters : Nat} {view : NbStatus × Option UInt8}
    (asleep : AsleepView enters view) : AsleepView (enters + 1) (psmNext view .enter) := by
  rw [AsleepView, if_neg (Nat.succ_ne_zero enters), psmNext]
  by_cases awake : enters = 0
  · rw [AsleepView, if_pos awake] at asleep
    rw [asleep.2, awake]
    rfl
  · rw [AsleepView, if_neg awake] at asleep
    rw [asleep, viewTake, UInt8.ofNat_add]
    rfl

/-- What an event other than a report of sleep leaves of the holds. -/
theorem psmNext_leave {enters : Nat} {view : NbStatus × Option UInt8}
    (asleep : AsleepView enters view) {event : PsmEvent} (leaves : event ≠ .enter) :
    (psmNext view event).1 ≠ .enterPsm ∧
      (psmNext view event).2 =
        if enters = 0 ∨ enters % 256 = 1 then none else some (UInt8.ofNat enters - 1) := by
  have released : viewRelease view.2 =
      if enters = 0 ∨ enters % 256 = 1 then none else some (UInt8.ofNat enters - 1) := by
    by_cases awake : enters = 0
    · rw [AsleepView, if_pos awake] at asleep
      rw [asleep.2, if_pos (Or.inl awake)]
      rfl
    · rw [AsleepView, if_neg awake] at asleep
      rw [asleep, viewRelease]
      simp only [ofNat_sub_one_eq_zero_iff, awake, false_or]
  cases event with
  | enter => contradiction
  | exitReboot => exact ⟨by simp [psmNext], released⟩
  | exit =>
      constructor
      · simp [psmNext]
      · rw [psmNext, ← released]
        by_cases awake : enters = 0
        · rw [AsleepView, if_pos awake] at asleep
          rw [if_neg asleep.1, asleep.2]
          rfl
        · rw [AsleepView, if_neg awake] at asleep
          rw [asleep, if_pos rfl]

/-- Along single reports the view counts the reports at the end. -/
theorem asleepView_of_singleEnters (events : List PsmEvent) (single : SingleEnters events) :
    AsleepView (trailingEnters events) (events.foldl psmNext (PsmState.view {})) := by
  induction events using List.reverseRecOn with
  | nil => exact ⟨by decide, rfl⟩
  | append_singleton earlier event ih =>
      rcases (singleEnters_concat_iff earlier event).mp single with ⟨before, last⟩
      have asleep := ih before
      rw [List.foldl_append, List.foldl_cons, List.foldl_nil]
      by_cases report : event = .enter
      · rw [report, trailingEnters_append_enter]
        exact asleepView_enter asleep
      · rcases psmNext_leave asleep report with ⟨status, hold⟩
        rw [trailingEnters_append_of_ne report, AsleepView, if_pos rfl]
        rw [if_pos (last report)] at hold
        exact ⟨status, hold⟩

/-- After single reports, one more event releases the lock when it should
exactly when the reports stay single. -/
theorem released_concat_iff {events : List PsmEvent} (single : SingleEnters events)
    (event : PsmEvent) :
    (∀ state, PsmRun (events ++ [event]) {} state → state.Released) ↔
      (event ≠ .enter → trailingEnters events = 0 ∨ trailingEnters events % 256 = 1) := by
  have asleep := asleepView_of_singleEnters events single
  have stateView : ∀ {state}, PsmRun (events ++ [event]) {} state →
      state.view = psmNext (events.foldl psmNext (PsmState.view {})) event := by
    intro state run
    rw [psmRun_view run, List.foldl_append]
    rfl
  by_cases report : event = .enter
  · refine iff_of_true (fun state run awake => ?_) (fun other => absurd report other)
    have status := congrArg Prod.fst (stateView run)
    rw [report] at status
    exact absurd status awake
  · rcases psmNext_leave asleep report with ⟨status, hold⟩
    have holdView : ∀ {state}, PsmRun (events ++ [event]) {} state →
        state.hold = (if trailingEnters events = 0 ∨ trailingEnters events % 256 = 1 then none
          else some (UInt8.ofNat (trailingEnters events) - 1)).getD 0 := by
      intro state run
      rw [← hold, ← stateView run]
      rfl
    constructor
    · intro released _
      rcases exists_psmRun (events ++ [event]) {} ⟨fun _ => rfl, by simp⟩ with ⟨state, run⟩
      have awake : state.nbiotPsmStatus ≠ .enterPsm := by
        have same := congrArg Prod.fst (stateView run)
        change state.nbiotPsmStatus = _ at same
        rw [same]
        exact status
      have zero := released state run awake
      rw [holdView run] at zero
      by_contra repeated
      rw [if_neg repeated, Option.getD_some, ofNat_sub_one_eq_zero_iff] at zero
      exact repeated (Or.inr zero)
    · intro counted state run _
      rw [holdView run, if_pos (counted report)]
      rfl

/-- In every run of events, with any answers of the modem and any use of the
lock by other threads, the AT lock is released outside sleep after every turn
if and only if no event other than a report of sleep comes directly after
several reports of sleep. -/
theorem alwaysReleased_iff_singleEnters (events : List PsmEvent) :
    AlwaysReleased events ↔ SingleEnters events := by
  induction events using List.reverseRecOn with
  | nil =>
      constructor
      · intro _ earlier event inside
        simp at inside
      · intro _ finished inside state run
        rw [List.prefix_nil] at inside
        subst inside
        cases run
        exact fun _ => rfl
  | append_singleton earlier event ih =>
      rw [alwaysReleased_concat_iff, singleEnters_concat_iff, ih]
      exact and_congr_right fun single => released_concat_iff single event

/-- The module reports sleep twice and wakes up: the PSM thread keeps the lock. -/
theorem repeatedEnter_keeps_lock :
    (∃ state, PsmRun [.enter, .enter, .exit] {} state ∧ state.nbiotPsmStatus = .exitPsm ∧
      state.hold = 1) ∧
    ¬ ∀ events, AlwaysReleased events := by
  obtain ⟨state, run⟩ :=
    exists_psmRun [.enter, .enter, .exit] {} ⟨fun _ => rfl, by simp⟩
  have view := psmRun_view run
  have status : state.nbiotPsmStatus = .exitPsm := congrArg Prod.fst view
  have hold : state.hold = 1 := congrArg (fun view => view.2.getD 0) view
  refine ⟨⟨state, run, status, hold⟩, fun always => ?_⟩
  have released := always _ _ (List.prefix_refl _) state run (by rw [status]; decide)
  rw [hold] at released
  contradiction

end BerPiNbiot.Modem
