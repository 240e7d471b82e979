import BerPiNbiot.App.Completion

/-!
# Forged responses

`rt_thread_suspend` has no effect on a thread that waits already, but the
`rt_thread_resume` behind it ends whatever the uploader waits for by then.  When
that is the end of a response, its command returns `RT_EOK` without one.

A resume that only undoes a suspension, or finds the uploader ready, forges
nothing.
-/

namespace BerPiNbiot.App.Exchange

open BerPiNbiot.Kernel
open BerPiNbiot.Modem
open BerPiNbiot.Resumption
open BerPiNbiot.Text
open BerPiNbiot.Transition
open Recovery (Work Status mayWait mayWake)

/-- `rt_device_write(client->device, ...)` -/
def AtCall.writes : AtCall → Bool
  | .write _ => true
  | _ => false

/-- A resume undoes a suspension or finds the uploader not waiting, and no notice
is left over when a command of the uploader begins. -/
def Proper (state : State) : Move → Prop
  | .run thread _ => ∀ request ∈ state.nextCall thread,
      (AtCall.resumes request = true → state.effective = true ∨ ¬ state.Waits) ∧
      (AtCall.writes request = true → thread = .dataUp → state.begun .dataUp = false →
        state.respNotice.value = 0)
  | _ => True

instance (state : State) : DecidablePred (Proper state)
  | .run thread _ =>
      inferInstanceAs (Decidable (∀ request ∈ state.nextCall thread,
        (AtCall.resumes request = true → state.effective = true ∨ ¬ state.Waits) ∧
        (AtCall.writes request = true → thread = .dataUp → state.begun .dataUp = false →
          state.respNotice.value = 0)))
  | .block _ => isTrue trivial
  | .wake _ => isTrue trivial
  | .timeout _ => isTrue trivial
  | .line _ => isTrue trivial
  | .urc _ _ => isTrue trivial

/-! ## The invariant -/

/-- The stages of the threads agree with what is remembered of them. -/
structure Known (state : State) (stage : Thread → Stage) : Prop where
  staged : Staged state.threads stage
  begun : ∀ thread, state.begun thread = (stage thread).busy
  taken : stage .dataUp = .taken → state.noticed = true

/-- What holds along proper runs.  A command of the uploader that has not been
completed still has its response object in place. -/
structure Sound (state : State) : Prop where
  known : ∃ stage, Known state stage
  owed : state.begun .dataUp = true → state.noticed = false →
    state.resp = some .dataUp ∧ state.respNotice.value = 0
  queued : Queued state.threads state.respNotice
  effective : state.effective = true → state.threads.status .dataUp = .suspended
  cut : state.cut = false
  completed : ∀ noticed ∈ state.completed, noticed = true

/-- While another thread is in a transaction, the uploader has no command
begun. -/
theorem Known.begun_eq_false {state : State} {stage : Thread → Stage}
    (known : Known state stage) {thread : Thread} (inside : stage thread ≠ .idle)
    (other : thread ≠ .dataUp) : state.begun .dataUp = false := by
  rw [known.begun, known.staged.alone inside fun same => other same.symm]
  rfl

theorem Known.apart {state : State} {stage : Thread → Stage} (known : Known state stage)
    {thread : Thread} {request : AtCall} {resume : request.Answer → Work}
    (next : (state.threads.work thread).next = some ⟨request, resume⟩)
    (inside : ¬ Stage.idle.Allows request) : stage thread ≠ .idle := by
  intro idle
  have allows := ((known.staged.standing thread).next next).1
  rw [idle] at allows
  exact inside allows

variable {state : State}

/-! ## Calls -/

/-- What a call leaves of the client when it neither begins nor ends a command. -/
theorem client_other {thread : Thread} {request : AtCall} (notWrite : AtCall.writes request = false)
    (notRelease : request ≠ .driver .lockRelease) :
    (state.client thread request).resp = state.resp ∧
      (state.client thread request).noticed = state.noticed := by
  cases request with
  | write line => contradiction
  | respStatus =>
      simp only [State.client]
      split <;> exact ⟨rfl, rfl⟩
  | driver request =>
      cases request with
      | lockRelease => exact absurd rfl notRelease
      | _ => exact ⟨rfl, rfl⟩
  | _ => exact ⟨rfl, rfl⟩

theorem client_frame (state : State) (thread : Thread) (request : AtCall) :
    (state.client thread request).respNotice = state.respNotice ∧
      (state.client thread request).cut = state.cut := by
  cases request with
  | write line =>
      simp only [State.client]
      split <;> exact ⟨rfl, rfl⟩
  | respStatus =>
      simp only [State.client]
      split <;> exact ⟨rfl, rfl⟩
  | driver request => cases request <;> exact ⟨rfl, rfl⟩
  | _ => exact ⟨rfl, rfl⟩

theorem begunAfter_other {request : AtCall} (notWrite : AtCall.writes request = false)
    (notRelease : request ≠ .driver .lockRelease) (begun : Bool) :
    begunAfter request begun = begun := by
  cases request with
  | write line => contradiction
  | driver request =>
      cases request with
      | lockRelease => exact absurd rfl notRelease
      | _ => rfl
  | _ => rfl

/-- Only a new command of the uploader forgets its notice. -/
theorem client_noticed {thread : Thread} (request : AtCall) (begun : state.begun .dataUp = true) :
    (state.client thread request).noticed = state.noticed := by
  cases request with
  | write line =>
      simp only [State.client]
      split
      · rfl
      · rename_i first
        have other : thread ≠ .dataUp := by
          rintro rfl
          exact first begun
        simp only [State.begin, decide_eq_false other, Bool.not_false, Bool.and_true]
  | respStatus =>
      simp only [State.client]
      split <;> rfl
  | driver request => cases request <;> rfl
  | _ => rfl

namespace Sound

theorem known_made (sound : Sound state) {thread : Thread}
    {reply : (request : AtCall) → request.Answer} {request : AtCall}
    {resume : request.Answer → Work}
    (next : (state.threads.work thread).next = some ⟨request, resume⟩)
    (notNotice : AtCall.takesNotice request = false) (notResume : AtCall.resumes request = false)
    {after : Recovery.State}
    (answered : state.threads.answer thread reply request resume = some after) :
    ∃ stage, Known (state.made thread request after) stage := by
  rcases sound.known with ⟨stage, known⟩
  rcases staged_answer known.staged next notNotice notResume answered with
    ⟨later, staged, advances⟩
  refine ⟨later, staged, fun other => ?_, fun reached => ?_⟩
  · rw [advances.busy other]
    change Function.update state.begun thread (begunAfter request (state.begun thread)) other = _
    by_cases same : other = thread
    · subst same
      rw [Function.update_self, if_pos rfl, known.begun]
    · rw [Function.update_of_ne same, if_neg same, known.begun]
  · have before := advances.taken .dataUp reached
    have begun : state.begun .dataUp = true := by
      rw [known.begun, before]
      rfl
    exact (client_noticed request begun).trans (known.taken before)

theorem owed_made (sound : Sound state) {thread : Thread} {request : AtCall}
    {resume : request.Answer → Work}
    (next : (state.threads.work thread).next = some ⟨request, resume⟩)
    (leftOver : AtCall.writes request = true → thread = .dataUp → state.begun .dataUp = false →
      state.respNotice.value = 0) (after : Recovery.State)
    (begun : (state.made thread request after).begun .dataUp = true)
    (unnoticed : (state.made thread request after).noticed = false) :
    (state.made thread request after).resp = some .dataUp ∧ state.respNotice.value = 0 := by
  rcases sound.known with ⟨stage, known⟩
  change Function.update state.begun thread (begunAfter request (state.begun thread)) .dataUp =
    true at begun
  change (state.client thread request).noticed = false at unnoticed
  change (state.client thread request).resp = some .dataUp ∧ state.respNotice.value = 0
  -- Another thread that begins or ends a command has the lock to itself.
  have others : thread ≠ .dataUp → ¬ Stage.idle.Allows request → False := by
    intro other inside
    rw [Function.update_of_ne fun same => other same.symm,
      known.begun_eq_false (known.apart next inside) other] at begun
    contradiction
  by_cases writes : AtCall.writes request = true
  · cases request with
    | write line =>
        by_cases first : state.begun thread = true
        · simp only [State.client, if_pos first] at unnoticed ⊢
          apply sound.owed _ unnoticed
          by_cases own : thread = .dataUp
          · rw [← own]
            exact first
          · exact (others own id).elim
        · simp only [State.client, if_neg first]
          by_cases own : thread = .dataUp
          · subst own
            exact ⟨rfl, leftOver rfl rfl (Bool.not_eq_true _ ▸ first)⟩
          · exact (others own id).elim
    | _ => contradiction
  · rw [Bool.not_eq_true] at writes
    by_cases release : request = .driver .lockRelease
    · subst release
      by_cases own : thread = .dataUp
      · subst own
        rw [Function.update_self] at begun
        contradiction
      · exact (others own id).elim
    · rcases client_other writes release with ⟨resp, noticed⟩
      rw [begunAfter_other writes release, Function.update_eq_self] at begun
      rw [noticed] at unnoticed
      rw [resp]
      exact sound.owed begun unnoticed

theorem effective_made (sound : Sound state) {thread : Thread}
    {reply : (request : AtCall) → request.Answer} {request : AtCall}
    {resume : request.Answer → Work} {after : Recovery.State}
    (settles : Settles state.threads after state.respNotice)
    (answered : state.threads.answer thread reply request resume = some after)
    (effective : (state.made thread request after).effective = true) :
    after.status .dataUp = .suspended := by
  change (state.client thread request).effective = true at effective
  have same : state.effective = true → after.status .dataUp = .suspended :=
    fun earlier => settles.suspended (sound.effective earlier)
  cases request with
  | write line =>
      simp only [State.client] at effective
      split at effective <;> exact same effective
  | respStatus =>
      simp only [State.client] at effective
      split at effective <;> exact same effective
  | driver request =>
      cases request with
      | dataUpSuspend =>
          cases answered
          have ready : state.threads.status .dataUp = .ready := of_decide_eq_true effective
          simp [Recovery.State.setWork, Recovery.State.suspendDataUp, Recovery.State.setStatus,
            ready]
      | _ => exact same effective
  | _ => exact same effective

theorem completed_made (sound : Sound state) {thread : Thread} {request : AtCall}
    {resume : request.Answer → Work}
    (next : (state.threads.work thread).next = some ⟨request, resume⟩) (after : Recovery.State) :
    ∀ noticed ∈ (state.made thread request after).completed, noticed = true := by
  change ∀ noticed ∈ (state.client thread request).completed, noticed = true
  cases request with
  | write line =>
      simp only [State.client]
      split <;> exact sound.completed
  | respStatus =>
      simp only [State.client]
      split
      · rename_i own
        rcases sound.known with ⟨stage, known⟩
        have allows := ((known.staged.standing thread).next next).1
        have taken : stage .dataUp = .taken := by
          rw [own.1] at allows
          cases reached : stage .dataUp with
          | taken => rfl
          | idle | locked | begun =>
              rw [reached] at allows
              contradiction
        intro noticed member
        rcases List.mem_append.mp member with earlier | now
        · exact sound.completed noticed earlier
        · rw [List.mem_singleton] at now
          rw [now]
          exact known.taken taken
      · exact sound.completed
  | driver request => cases request <;> exact sound.completed
  | _ => exact sound.completed

theorem made (sound : Sound state) {thread : Thread}
    {reply : (request : AtCall) → request.Answer} {request : AtCall}
    {resume : request.Answer → Work} (ready : state.threads.status thread = .ready)
    (next : (state.threads.work thread).next = some ⟨request, resume⟩)
    (notNotice : AtCall.takesNotice request = false) (notResume : AtCall.resumes request = false)
    (leftOver : AtCall.writes request = true → thread = .dataUp → state.begun .dataUp = false →
      state.respNotice.value = 0)
    {after : Recovery.State}
    (answered : state.threads.answer thread reply request resume = some after) :
    Sound (state.made thread request after) := by
  have settles := settles_answer sound.queued ready notResume answered
  rcases client_frame state thread request with ⟨respNotice, cut⟩
  refine ⟨sound.known_made next notNotice notResume answered, ?_, ?_,
    sound.effective_made settles answered, cut.trans sound.cut, sound.completed_made next after⟩
  · change _ → _ → _ ∧ (state.client thread request).respNotice.value = 0
    rw [respNotice]
    exact sound.owed_made next leftOver after
  · change Queued after (state.client thread request).respNotice
    rw [respNotice]
    exact settles.queued

/-- A thread takes the notice.  The uploader finds one only if the parser has
released it for the command at hand. -/
theorem takeNotice (sound : Sound state) {thread : Thread} {timeout : Nat} {resume : Bool → Work}
    (ready : state.threads.status thread = .ready)
    (next : (state.threads.work thread).next = some ⟨.respNotice timeout, resume⟩) :
    Sound (state.takeNotice thread resume) := by
  rcases sound.known with ⟨stage, known⟩
  have begun := begun_of_allows ((known.staged.standing thread).next next).1
  have busy : state.begun thread = true := by
    rw [known.begun, begun]
    rfl
  rw [State.takeNotice, rtSemTake]
  by_cases empty : state.respNotice.value = 0
  · rw [if_pos empty]
    have away : .dataUp = thread → .dataUp ∉ state.respNotice.waiting := by
      rintro rfl member
      rw [sound.queued.notice member] at ready
      contradiction
    refine ⟨⟨stage, known.staged.congr rfl rfl, known.begun, known.taken⟩, sound.owed, ?_, ?_,
      sound.cut, sound.completed⟩
    · exact sound.queued.waits ready away
    · intro effective
      have suspended := sound.effective effective
      have other : thread ≠ .dataUp := by
        rintro rfl
        rw [ready] at suspended
        contradiction
      exact (Recovery.setStatus_of_ne state.threads other .blocked).trans suspended
  · rw [if_neg empty]
    -- The uploader's notice is one of its own, and nobody else can take it.
    have owed : state.begun .dataUp = true → state.noticed = true := by
      intro begunUp
      by_contra unnoticed
      exact empty (sound.owed begunUp (Bool.not_eq_true _ ▸ unnoticed)).2
    rcases known.staged.takes next true with ⟨later, staged, same, reached⟩
    refine ⟨⟨later, staged, fun other => ?_, fun taken => ?_⟩, fun begunUp unnoticed => ?_,
      ⟨sound.queued.lock, sound.queued.lockOnce, sound.queued.notice, sound.queued.noticeOnce⟩,
      sound.effective, sound.cut, sound.completed⟩
    · rw [same]
      exact known.begun other
    · rcases reached .dataUp taken with before | ⟨rfl, _⟩
      · exact known.taken before
      · exact owed busy
    · have noticed := owed begunUp
      rw [show state.noticed = false from unnoticed] at noticed
      contradiction

theorem not_waits (sound : Sound state) (proper : state.effective = true ∨ ¬ state.Waits) :
    ¬ state.Waits := by
  rcases proper with effective | free
  · have suspended := sound.effective effective
    rintro (blocked | onLock)
    · rw [suspended] at blocked
      contradiction
    · rw [suspended] at onLock
      contradiction
  · exact free

theorem resumed_threads (sound : Sound state)
    (proper : state.effective = true ∨ ¬ state.Waits) :
    state.resumeDataUp = { state with
        threads := state.resumeDataUp.threads, effective := false, cut := false } ∧
      (state.resumeDataUp.threads = state.threads ∨
        state.threads.status .dataUp = .suspended ∧
          state.resumeDataUp.threads = state.threads.setStatus .dataUp .ready) := by
  have free := sound.not_waits proper
  have away : .dataUp ∉ state.respNotice.waiting :=
    fun member => free (Or.inl (sound.queued.notice member))
  rw [State.resumeDataUp, if_neg away, sound.cut, decide_eq_false free]
  refine ⟨rfl, ?_⟩
  unfold Recovery.State.resumeDataUp
  split
  · rename_i suspended
    exact Or.inr ⟨suspended, rfl⟩
  · rename_i blocked
    exact absurd (Or.inl blocked) free
  · rename_i onLock
    exact absurd (Or.inr onLock) free
  · exact Or.inl rfl
  · exact Or.inl rfl

/-- A resume that ends no wait. -/
theorem resumed (sound : Sound state) (proper : state.effective = true ∨ ¬ state.Waits) :
    Sound state.resumeDataUp := by
  rcases sound.resumed_threads proper with ⟨frame, threads⟩
  rcases sound.known with ⟨stage, known⟩
  rw [frame]
  refine ⟨⟨stage, ?_, known.begun, known.taken⟩, sound.owed, ?_, nofun, rfl, sound.completed⟩
  · rcases threads with same | ⟨_, equal⟩
    · exact known.staged.congr (by rw [same]) (by rw [same])
    · exact known.staged.congr (by rw [equal]; rfl) (by rw [equal]; rfl)
  · change Queued state.resumeDataUp.threads state.respNotice
    rcases threads with same | ⟨suspended, equal⟩
    · rw [same]
      exact sound.queued
    · rw [equal]
      exact sound.queued.setStatus suspended nofun nofun

/-- The resuming thread goes on. -/
theorem continued (sound : Sound state) {thread : Thread} {resume : Unit → Work}
    {before : Recovery.State} (same : state.threads.work thread = before.work thread)
    (next : (before.work thread).next = some ⟨.driver .dataUpResume, resume⟩) :
    Sound { state with threads := state.threads.setWork thread (resume ()) } := by
  rcases sound.known with ⟨stage, known⟩
  rw [← same] at next
  have moved := known.staged.made next () id
  rw [show (stage thread).next (.driver .dataUpResume) () = stage thread from rfl,
    Function.update_eq_self] at moved
  exact ⟨⟨stage, moved, known.begun, known.taken⟩, sound.owed, sound.queued.congr rfl rfl,
    sound.effective, sound.cut, sound.completed⟩

/-- The threads change, but for the lock, the work and what the uploader waits
for. -/
theorem rethread (sound : Sound state) {threads : Recovery.State}
    (staged : ∀ stage, Staged state.threads stage → Staged threads stage)
    (settles : Settles state.threads threads state.respNotice) :
    Sound { state with threads } := by
  rcases sound.known with ⟨stage, known⟩
  exact ⟨⟨stage, staged stage known.staged, known.begun, known.taken⟩, sound.owed, settles.queued,
    fun effective => settles.suspended (sound.effective effective), sound.cut, sound.completed⟩

/-- A thread outside the queues changes its status. -/
theorem setStatus (sound : Sound state) {thread : Thread} {before after : Status}
    (current : state.threads.status thread = before) (notOnLock : before ≠ .onLock)
    (away : before = .blocked → thread ∉ state.respNotice.waiting)
    (awake : before ≠ .suspended) :
    Sound { state with threads := state.threads.setStatus thread after } := by
  have settles : Settles state.threads (state.threads.setStatus thread after)
      state.respNotice := by
    refine ⟨sound.queued.setStatus current notOnLock away, fun suspended => ?_⟩
    have other : thread ≠ .dataUp := by
      rintro rfl
      exact awake (current.symm.trans suspended)
    exact (Recovery.setStatus_of_ne state.threads other after).trans suspended
  exact sound.rethread (fun _ staged => staged.congr rfl rfl) settles

theorem answer (sound : Sound state) {thread : Thread}
    {reply : (request : AtCall) → request.Answer} {request : AtCall}
    {resume : request.Answer → Work} (ready : state.threads.status thread = .ready)
    (next : (state.threads.work thread).next = some ⟨request, resume⟩)
    (proper : (AtCall.resumes request = true → state.effective = true ∨ ¬ state.Waits) ∧
      (AtCall.writes request = true → thread = .dataUp → state.begun .dataUp = false →
        state.respNotice.value = 0)) {target : State}
    (answered : state.answer thread reply request resume = some target) : Sound target := by
  have general (notNotice : AtCall.takesNotice request = false)
      (notResume : AtCall.resumes request = false)
      (delegated : (state.threads.answer thread (state.heard reply) request resume).map
        (state.made thread request) = some target) : Sound target := by
    rcases Option.map_eq_some_iff.mp delegated with ⟨after, answeredThere, rfl⟩
    exact sound.made ready next notNotice notResume proper.2 answeredThere
  cases request with
  | respNotice timeout =>
      cases answered
      exact sound.takeNotice ready next
  | driver request =>
      cases request with
      | dataUpResume =>
          cases answered
          have resumed := sound.resumed (proper.1 rfl)
          apply resumed.continued _ next
          rcases (sound.resumed_threads (proper.1 rfl)).2 with same | ⟨_, equal⟩
          · rw [same]
          · rw [equal]
            rfl
      | _ => exact general rfl rfl answered
  | _ => exact general rfl rfl answered

/-- A thread leaves the queue of the notice without a release for the uploader. -/
theorem leaves (sound : Sound state) {thread : Thread}
    (member : thread ∈ state.respNotice.waiting) {respNotice : Semaphore Thread}
    (shorter : respNotice.waiting = state.respNotice.waiting.erase thread)
    (value : respNotice.value = state.respNotice.value) {taken : Bool}
    (own : thread = .dataUp → taken = true → state.begun .dataUp = true → state.noticed = true) :
    Sound { state with threads := returned state.threads thread taken, respNotice } := by
  rcases sound.known with ⟨stage, known⟩
  have settles := sound.queued.returned member shorter taken
  rcases known.staged.returned thread taken with ⟨later, staged, busy, reached⟩
  refine ⟨⟨later, staged, fun other => ?_, fun here => ?_⟩, ?_, settles.queued,
    fun effective => settles.suspended (sound.effective effective), sound.cut, sound.completed⟩
  · rw [busy]
    exact known.begun other
  · rcases reached .dataUp here with before | ⟨same, success, begun⟩
    · exact known.taken before
    · apply own same.symm success
      rw [known.begun, begun]
      rfl
  · intro begun unnoticed
    rw [value]
    exact sound.owed begun unnoticed

/-- The parser completes the command in progress. -/
theorem line (sound : Sound state) (ok : Bool) : Sound (state.line ok) := by
  rw [State.line]
  split
  · exact sound
  · rename_i owner inPlace
    -- With the response object out of the way nothing is owed any more.
    have noticed : state.begun .dataUp = true →
        (state.noticed || decide (owner = .dataUp)) = true := by
      intro begun
      by_cases before : state.noticed = true
      · rw [before, Bool.true_or]
      · have same := (sound.owed begun (Bool.not_eq_true _ ▸ before)).1
        rw [inPlace] at same
        rw [decide_eq_true (Option.some.inj same), Bool.or_true]
    rcases sound.known with ⟨stage, known⟩
    have taken : stage .dataUp = .taken → (state.noticed || decide (owner = .dataUp)) = true := by
      intro reached
      apply noticed
      rw [known.begun, reached]
      rfl
    have after (respNotice : Semaphore Thread)
        (waiting : respNotice.waiting = state.respNotice.waiting) : Sound { state with
        respNotice, resp := none, respOk := ok,
        noticed := state.noticed || decide (owner = .dataUp) } := by
      refine ⟨⟨stage, known.staged, known.begun, taken⟩, fun begun unnoticed => ?_, ?_,
        sound.effective, sound.cut, sound.completed⟩
      · rw [noticed begun] at unnoticed
        contradiction
      · refine ⟨sound.queued.lock, sound.queued.lockOnce, ?_, ?_⟩
        · rw [waiting]
          exact sound.queued.notice
        · rw [waiting]
          exact sound.queued.noticeOnce
    rcases rtSemRelease_cases state.respNotice with
      ⟨queue, equal⟩ | ⟨woken, member, equal, shorter, value⟩
    · rw [equal]
      exact after _ rfl
    · rw [equal]
      exact (after state.respNotice rfl).leaves member shorter value fun _ _ => noticed

theorem step (sound : Sound state) {move : Move} (proper : Proper state move) {target : State}
    (moved : Exchange.step state move = some target) : Sound target := by
  cases move with
  | run thread reply =>
      rw [Exchange.step, Option.ite_none_right_eq_some] at moved
      rcases moved with ⟨ready, moved⟩
      split at moved
      · rename_i request resume next
        apply sound.answer ready next (proper request ?_) moved
        rw [State.nextCall, next]
        rfl
      · contradiction
  | block thread =>
      rw [Exchange.step, Option.ite_none_left_eq_some] at moved
      rcases Option.map_eq_some_iff.mp moved.2 with ⟨threads, blocked, rfl⟩
      rw [Recovery.step] at blocked
      split at blocked
      · rename_i ready _
        rw [Option.ite_none_right_eq_some] at blocked
        rcases blocked with ⟨_, equal⟩
        cases equal
        exact sound.setStatus ready Status.noConfusion Status.noConfusion Status.noConfusion
      · contradiction
  | wake thread =>
      rw [Exchange.step, Option.ite_none_left_eq_some] at moved
      rcases moved with ⟨away, moved⟩
      rcases Option.map_eq_some_iff.mp moved with ⟨threads, woken, rfl⟩
      rw [Recovery.step] at woken
      split at woken
      · rename_i blocked _
        rw [Option.ite_none_right_eq_some] at woken
        rcases woken with ⟨_, equal⟩
        cases equal
        exact sound.setStatus blocked Status.noConfusion (fun _ => away) Status.noConfusion
      · contradiction
  | timeout thread =>
      rw [Exchange.step, Option.ite_none_right_eq_some] at moved
      rcases moved with ⟨member, equal⟩
      cases equal
      have shorter : (state.respNotice.drop thread).waiting =
          state.respNotice.waiting.erase thread := rfl
      exact sound.leaves member shorter rfl fun _ success => absurd success Bool.false_ne_true
  | line ok =>
      cases moved
      exact sound.line ok
  | urc data driver =>
      rw [Exchange.step] at moved
      rcases Option.map_eq_some_iff.mp moved with ⟨threads, delivered, rfl⟩
      cases delivered
      exact sound.rethread (fun _ staged => staged.deliver _) (sound.queued.deliver _)

end Sound

theorem sound_start : Sound {} := by
  refine ⟨⟨fun _ => .idle, ⟨fun thread => ?_, nofun⟩, fun _ => rfl, nofun⟩, nofun,
    ⟨nofun, Nat.zero_le 1, nofun, Nat.zero_le 1⟩, nofun, rfl, nofun⟩
  cases thread with
  | net => exact orderly_transacted (avoids_netEntry (.netRecon 0))
  | dataUp => exact orderly_transacted (Recovery.avoids_dataUpEntry .entry)
  | qsdk | psm | shell | main => rfl

/-- In every interleaving of the network thread, the uploader and the parser in
which each resume undoes a suspension or finds the uploader not waiting, and no
notice is left over when a command of the uploader begins, no resume ends a wait
that no suspension began, and every command of the uploader that returned
`RT_EOK` was completed by the parser. -/
theorem completed_by_release (run : List Move) (final : State)
    (proper : Guarded step Proper {} run) (executed : exec step {} run = some final) :
    final.cut = false ∧ ∀ noticed ∈ final.completed, noticed = true := by
  have sound : Sound final :=
    exec_invariant (fun _ _ _ holds allowed moved => holds.step allowed moved) sound_start
      proper executed
  exact ⟨sound.cut, sound.completed⟩

/-- The next moves of a thread, with a module that answers its commands. -/
def serve (thread : Thread) (reply : (request : AtCall) → request.Answer) :
    Nat → State → List Move
  | 0, _ => []
  | moves + 1, state =>
      let move : Move :=
        if state.AtNotice thread ∧ state.respNotice.value = 0 then .line true
        else .run thread reply
      match step state move with
      | none => []
      | some target => move :: serve thread reply moves target

/-- A run that is continued from the state it reaches. -/
def continuing (run : List Move) (more : State → List Move) : List Move :=
  match exec step {} run with
  | none => run
  | some state => run ++ more state

/-- The network thread connects, starts the uploader and waits. -/
def connected : List Move :=
  continuing [] (serve .net Recovery.answeringAt 167) ++ [.block .net]

/-- The module reboots; the network thread makes the next moves of its
recovery. -/
def recovering (moves : Nat) (run : List Move) : List Move :=
  continuing
    (continuing (run ++ [.urc (ascii "REBOOT_CAUSE_UNKNOWN\r\n") {}])
      (serve .net Recovery.clearedTable 2))
    (serve .net Recovery.answeringAt moves)

/-- The uploader publishes; it is ready when the module reboots, so that it is
suspended during the recovery. -/
def suspendedRun : List Move :=
  recovering 167 (continuing connected (serve .dataUp Recovery.answeringAt 15))

private theorem suspendedRun_executes :
    (exec step {} suspendedRun).any (fun final =>
      decide (final.completed = [true] ∧ final.threads.status .dataUp = .ready)) = true := by
  decide +kernel

theorem suspendedRun_completed :
    ∃ final, exec step {} suspendedRun = some final ∧ final.completed = [true] ∧
      final.cut = false ∧ ∀ noticed ∈ final.completed, noticed = true := by
  obtain ⟨final, executed, holds⟩ := Option.any_eq_true .. |>.mp suspendedRun_executes
  refine ⟨final, executed, (of_decide_eq_true holds).1, ?_⟩
  exact completed_by_release suspendedRun final (by decide +kernel) executed

/-- The uploader waits for mail when the module reboots, so that it is not
suspended.  It publishes at the end of the recovery and waits for the response
when it is resumed. -/
def resumedWhileWaiting : List Move :=
  recovering 165
      (continuing connected (serve .dataUp Recovery.answeringAt 3) ++ [.block .dataUp]) ++
    .block .net :: .wake .dataUp :: List.replicate 9 (.run .dataUp Recovery.answeringAt) ++
    [.wake .net, .run .net Recovery.answeringAt, .run .net Recovery.answeringAt,
      .run .dataUp Recovery.answeringAt]

private theorem resumedWhileWaiting_executes :
    (exec step {} resumedWhileWaiting).any (fun final => decide (final.completed = [false])) =
      true := by
  decide +kernel

/-- The publish command returns `RT_EOK` although the parser has released
nothing for it. -/
theorem resumedWhileWaiting_forged :
    ¬ ∀ run final, exec step {} run = some final →
      final.cut = false ∧ ∀ noticed ∈ final.completed, noticed = true := by
  intro always
  obtain ⟨final, executed, holds⟩ := Option.any_eq_true .. |>.mp resumedWhileWaiting_executes
  have completed := (always resumedWhileWaiting final executed).2
  rw [of_decide_eq_true holds] at completed
  exact absurd (completed false List.mem_cons_self) Bool.false_ne_true

end BerPiNbiot.App.Exchange
