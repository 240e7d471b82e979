import BerPiNbiot.App.Exchange

/-!
# Completed commands

A thread that has written a command owns the AT lock, so that nobody else touches
`client->resp` until it has released the lock.  As long as no resume cuts a wait
of the uploader short, and no notice of an earlier command is left over when its
command begins, a notice that it takes is one that the parser has released for
this command.
-/

namespace BerPiNbiot.App.Exchange

open BerPiNbiot.Kernel
open BerPiNbiot.Modem
open BerPiNbiot.Resumption
open BerPiNbiot.Text
open BerPiNbiot.Transition
open Recovery (Work Status mayWait mayWake)

/-! ## The lock keeps the threads apart -/

/-- Each thread stands at its stage, and it owns the lock in a transaction. -/
structure Staged (threads : Recovery.State) (stage : Thread → Stage) : Prop where
  standing : ∀ thread, Standing (stage thread) (threads.work thread)
  owns : ∀ thread, stage thread ≠ .idle → threads.lock.owner = some thread

namespace Staged

variable {threads : Recovery.State} {stage : Thread → Stage}

theorem alone (staged : Staged threads stage) {thread other : Thread}
    (inside : stage thread ≠ .idle) (different : other ≠ thread) : stage other = .idle := by
  by_contra otherInside
  have same := (staged.owns other otherInside).symm.trans (staged.owns thread inside)
  exact different (Option.some.inj same)

/-- A thread goes on. -/
theorem setWork (staged : Staged threads stage) {thread : Thread} {work : Work} {after : Stage}
    (standing : Standing after work)
    (owns : after ≠ .idle → threads.lock.owner = some thread) :
    Staged (threads.setWork thread work) (Function.update stage thread after) := by
  constructor
  · intro other
    by_cases same : other = thread
    · subst same
      rw [Function.update_self, Recovery.State.setWork]
      simpa using standing
    · rw [Function.update_of_ne same, Recovery.State.setWork]
      simpa [same] using staged.standing other
  · intro other inside
    by_cases same : other = thread
    · subst same
      rw [Function.update_self] at inside
      exact owns inside
    · rw [Function.update_of_ne same] at inside
      exact staged.owns other inside

/-- Only the lock and the work count. -/
theorem congr (staged : Staged threads stage) {after : Recovery.State}
    (owner : after.lock.owner = threads.lock.owner) (work : after.work = threads.work) :
    Staged after stage := by
  constructor
  · rw [work]
    exact staged.standing
  · rw [owner]
    exact staged.owns

/-- A call other than on the lock. -/
theorem made (staged : Staged threads stage) {thread : Thread} {request : AtCall}
    {resume : request.Answer → Work}
    (next : (threads.work thread).next = some ⟨request, resume⟩) (answer : request.Answer)
    (stays : (stage thread).next request answer ≠ .idle → stage thread ≠ .idle) :
    Staged (threads.setWork thread (resume answer))
      (Function.update stage thread ((stage thread).next request answer)) := by
  apply staged.setWork (((staged.standing thread).next next).2 answer)
  intro inside
  exact staged.owns thread (stays inside)

/-- Nobody in a transaction receives from `net_error`. -/
theorem sendNetError (staged : Staged threads stage) (set : EventSet) :
    Staged (threads.sendNetError set) stage := by
  unfold Recovery.State.sendNetError
  simp only
  split
  · rename_i next
    split
    · rename_i received left _
      have moved := staged.made next (some received) id
      rw [show (stage .net).next (.driver (.eventRecv .netError _ _ _)) (some received) =
        stage .net from rfl, Function.update_eq_self] at moved
      exact moved.congr rfl rfl
    · exact staged.congr rfl rfl
  · exact staged.congr rfl rfl

theorem startupDataUp (staged : Staged threads stage) : Staged threads.startupDataUp stage := by
  unfold Recovery.State.startupDataUp
  split
  · exact staged.congr rfl rfl
  · exact staged

theorem suspendDataUp (staged : Staged threads stage) : Staged threads.suspendDataUp stage := by
  unfold Recovery.State.suspendDataUp
  split
  · exact staged.congr rfl rfl
  · exact staged

/-- A thread in the queue of the lock gets it and goes on. -/
theorem pass (staged : Staged threads stage) {woken : Thread}
    (owner : threads.lock.owner = some woken) :
    Staged (threads.pass woken) stage ∨
      Staged (threads.pass woken) (Function.update stage woken .locked) := by
  unfold Recovery.State.pass
  split
  · rename_i resume next
    have standing := ((staged.standing woken).next next).2 ()
    exact Or.inr ((staged.setWork standing fun _ => owner).congr rfl rfl)
  · exact Or.inl staged

end Staged

/-! ## Calls and stages -/

/-- What a call other than a take of the notice does to the stages. -/
structure Advances (thread : Thread) (request : AtCall) (before after : Thread → Stage) :
    Prop where
  busy : ∀ other, (after other).busy =
    if other = thread then begunAfter request (before thread).busy else (before other).busy
  taken : ∀ other, after other = .taken → before other = .taken

theorem Stage.busy_next {stage : Stage} {request : AtCall} (allows : stage.Allows request)
    (other : AtCall.takesNotice request = false) (answer : request.Answer) :
    (stage.next request answer).busy = begunAfter request stage.busy ∧
      (stage.next request answer = .taken → stage = .taken) := by
  cases request with
  | respNotice timeout => contradiction
  | write line => exact ⟨rfl, nofun⟩
  | driver request =>
      cases request with
      | lockTake =>
          cases stage with
          | idle => exact ⟨rfl, nofun⟩
          | locked | begun | taken => contradiction
      | lockRelease => exact ⟨rfl, nofun⟩
      | _ => exact ⟨rfl, id⟩
  | _ => exact ⟨rfl, id⟩

variable {threads : Recovery.State} {stage : Thread → Stage}

theorem advances_update {thread : Thread} {request : AtCall}
    (allows : (stage thread).Allows request) (other : AtCall.takesNotice request = false)
    (answer : request.Answer) :
    Advances thread request stage
      (Function.update stage thread ((stage thread).next request answer)) := by
  rcases Stage.busy_next allows other answer with ⟨busy, taken⟩
  constructor
  · intro place
    by_cases same : place = thread
    · subst same
      rw [Function.update_self, if_pos rfl, busy]
    · rw [Function.update_of_ne same, if_neg same]
  · intro place
    by_cases same : place = thread
    · subst same
      rw [Function.update_self]
      exact taken
    · rw [Function.update_of_ne same]
      exact id

/-- An idle thread that gets the lock has not written its command. -/
theorem Advances.locked {thread woken : Thread} {request : AtCall} {after : Thread → Stage}
    (advances : Advances thread request stage after) (idle : after woken = .idle) :
    Advances thread request stage (Function.update after woken .locked) := by
  constructor
  · intro place
    rw [← advances.busy place]
    by_cases same : place = woken
    · subst same
      rw [Function.update_self, idle]
      rfl
    · rw [Function.update_of_ne same]
  · intro place
    by_cases same : place = woken
    · subst same
      rw [Function.update_self]
      exact nofun
    · rw [Function.update_of_ne same]
      exact advances.taken place

/-- A thread takes the lock, or waits for it. -/
theorem staged_lockTake (staged : Staged threads stage) {thread : Thread}
    {reply : (request : AtCall) → request.Answer} {resume : Unit → Work}
    (next : (threads.work thread).next = some ⟨.driver .lockTake, resume⟩)
    {after : Recovery.State}
    (answered : threads.answer thread reply (.driver .lockTake) resume = some after) :
    ∃ later, Staged after later ∧ Advances thread (.driver .lockTake) stage later := by
  rcases (staged.standing thread).next next with ⟨allows, rest⟩
  rw [Recovery.State.answer] at answered
  split at answered
  · rename_i lock taken
    cases answered
    rcases rtMutexTake_owner taken with ⟨free, owner⟩
    refine ⟨_, ?_, advances_update allows rfl ()⟩
    -- Nobody else is in a transaction, for the lock was free.
    have apart : Staged { threads with lock } stage := by
      refine ⟨staged.standing, fun other inside => ?_⟩
      have owned := staged.owns other inside
      rcases free with none | own
      · rw [none] at owned
        contradiction
      · rw [owner, ← own]
        exact owned
    exact apart.setWork (rest ()) fun _ => owner
  · rename_i lock taken
    cases answered
    refine ⟨stage, staged.congr (rtMutexTake_owner taken) rfl, ?_, fun _ => id⟩
    intro other
    split
    · rename_i same
      rw [same]
      rfl
    · rfl

/-- A thread releases the lock, and the first in the queue goes on. -/
theorem staged_lockRelease (staged : Staged threads stage) {thread : Thread}
    {reply : (request : AtCall) → request.Answer} {resume : Unit → Work}
    (next : (threads.work thread).next = some ⟨.driver .lockRelease, resume⟩)
    {after : Recovery.State}
    (answered : threads.answer thread reply (.driver .lockRelease) resume = some after) :
    ∃ later, Staged after later ∧ Advances thread (.driver .lockRelease) stage later := by
  rcases (staged.standing thread).next next with ⟨allows, rest⟩
  have inside : stage thread ≠ .idle := by
    intro idle
    rw [idle] at allows
    exact allows
  have advances := advances_update allows rfl ()
  have idle : ∀ other, Function.update stage thread .idle other = .idle := by
    intro other
    by_cases same : other = thread
    · rw [same, Function.update_self]
    · rw [Function.update_of_ne same, staged.alone inside same]
  have released : Staged ({ threads with lock := (rtMutexRelease thread threads.lock).1 }.setWork
      thread (resume ())) (Function.update stage thread .idle) := by
    have gone := staged.made next () fun _ => inside
    exact ⟨gone.standing, fun other different => absurd (idle other) different⟩
  rw [Recovery.State.answer] at answered
  split at answered
  · cases answered
    exact ⟨_, released, advances⟩
  · rename_i woken handed
    cases answered
    rcases released.pass (rtMutexRelease_owner handed) with still | going
    · exact ⟨_, still, advances⟩
    · exact ⟨_, going, advances.locked (idle woken)⟩

/-- `rt_thread_resume(data_up_thread_id)` -/
def AtCall.resumes : AtCall → Bool
  | .driver .dataUpResume => true
  | _ => false

/-- A call other than a take of the notice and a resume. -/
theorem staged_answer (staged : Staged threads stage) {thread : Thread}
    {reply : (request : AtCall) → request.Answer} {request : AtCall}
    {resume : request.Answer → Work}
    (next : (threads.work thread).next = some ⟨request, resume⟩)
    (notNotice : AtCall.takesNotice request = false) (notResume : AtCall.resumes request = false)
    {after : Recovery.State} (answered : threads.answer thread reply request resume = some after) :
    ∃ later, Staged after later ∧ Advances thread request stage later := by
  rcases (staged.standing thread).next next with ⟨allows, rest⟩
  have update : ∀ answer, Advances thread request stage
      (Function.update stage thread ((stage thread).next request answer)) :=
    advances_update allows notNotice
  cases request with
  | respNotice timeout => contradiction
  | write line =>
      cases answered
      refine ⟨_, staged.made next _ fun _ idle => ?_, update _⟩
      rw [idle] at allows
      exact allows
  | driver request =>
      cases request with
      | lockTake => exact staged_lockTake staged next answered
      | lockRelease => exact staged_lockRelease staged next answered
      | dataUpResume => contradiction
      | dataUpStartup =>
          cases answered
          have done := staged.startupDataUp
          exact ⟨_, done.setWork (rest ()) (done.owns thread), update ()⟩
      | dataUpSuspend =>
          cases answered
          have done := staged.suspendDataUp
          exact ⟨_, done.setWork (rest ()) (done.owns thread), update ()⟩
      | eventSend object set =>
          cases object with
          | nbEvent =>
              cases answered
              exact ⟨_, staged.made next _ id, update _⟩
          | netError =>
              cases answered
              have sent := staged.sendNetError set
              exact ⟨_, sent.setWork (rest ()) (sent.owns thread), update ()⟩
      | eventRecv object flag set timeout =>
          cases object with
          | nbEvent =>
              cases answered
              exact ⟨_, staged.made next _ id, update _⟩
          | netError =>
              rw [Recovery.State.answer] at answered
              split at answered
              · rename_i received left _
                cases answered
                have cleared : Staged { threads with netError := left } stage :=
                  staged.congr rfl rfl
                exact ⟨_, cleared.made next (some received) id, update (some received)⟩
              · contradiction
      | _ =>
          cases answered
          exact ⟨_, staged.made next _ id, update _⟩
  | _ =>
      cases answered
      exact ⟨_, staged.made next _ id, update _⟩

/-! ## The queues of the lock and of the notice -/

/-- The uploader stands in a queue only while it waits there. -/
structure Queued (threads : Recovery.State) (respNotice : Semaphore Thread) : Prop where
  lock : .dataUp ∈ threads.lock.waiting → threads.status .dataUp = .onLock
  lockOnce : threads.lock.waiting.count .dataUp ≤ 1
  notice : .dataUp ∈ respNotice.waiting → threads.status .dataUp = .blocked
  noticeOnce : respNotice.waiting.count .dataUp ≤ 1

namespace Queued

variable {respNotice : Semaphore Thread}

theorem congr (queued : Queued threads respNotice) {after : Recovery.State}
    (waiting : after.lock.waiting = threads.lock.waiting)
    (status : after.status .dataUp = threads.status .dataUp) : Queued after respNotice := by
  constructor
  · rw [waiting, status]
    exact queued.lock
  · rw [waiting]
    exact queued.lockOnce
  · rw [status]
    exact queued.notice
  · exact queued.noticeOnce

/-- A thread that does not wait in a queue changes its status. -/
theorem setStatus (queued : Queued threads respNotice) {thread : Thread} {before after : Status}
    (current : threads.status thread = before) (notOnLock : before ≠ .onLock)
    (away : before = .blocked → thread ∉ respNotice.waiting) :
    Queued (threads.setStatus thread after) respNotice := by
  by_cases own : thread = .dataUp
  · subst own
    constructor
    · intro member
      exact absurd (current.symm.trans (queued.lock member)) notOnLock
    · exact queued.lockOnce
    · intro member
      have blocked := current.symm.trans (queued.notice member)
      exact absurd member (away blocked)
    · exact queued.noticeOnce
  · exact queued.congr rfl (Recovery.setStatus_of_ne threads own after)

/-- A ready thread goes to wait for the notice. -/
theorem waits (queued : Queued threads respNotice) {thread : Thread}
    (ready : threads.status thread = .ready)
    (away : .dataUp = thread → .dataUp ∉ respNotice.waiting) :
    Queued (threads.setStatus thread .blocked)
      { respNotice with waiting := respNotice.waiting ++ [thread] } := by
  by_cases own : thread = .dataUp
  · subst own
    refine ⟨?_, queued.lockOnce, fun _ => rfl, ?_⟩
    · intro member
      rw [queued.lock member] at ready
      contradiction
    · rw [List.count_append, List.count_eq_zero_of_not_mem (away rfl)]
      exact le_refl 1
  · have status := Recovery.setStatus_of_ne threads own .blocked
    refine ⟨?_, queued.lockOnce, ?_, ?_⟩
    · rw [status]
      exact queued.lock
    · rw [status]
      intro member
      rw [List.mem_append, List.mem_singleton] at member
      exact queued.notice (member.resolve_right fun same => own same.symm)
    · rw [List.count_append, List.count_singleton, if_neg (by simpa using own)]
      exact queued.noticeOnce

theorem startupDataUp (queued : Queued threads respNotice) :
    Queued threads.startupDataUp respNotice := by
  unfold Recovery.State.startupDataUp
  split
  · rename_i created
    exact queued.setStatus created nofun nofun
  · exact queued

theorem suspendDataUp (queued : Queued threads respNotice) :
    Queued threads.suspendDataUp respNotice := by
  unfold Recovery.State.suspendDataUp
  split
  · rename_i ready
    exact queued.setStatus ready nofun nofun
  · exact queued

theorem sendNetError (queued : Queued threads respNotice) (set : EventSet) :
    Queued (threads.sendNetError set) respNotice := by
  rcases Recovery.sendNetError_view threads set with ⟨lock, status, _⟩
  exact queued.congr (congrArg Mutex.waiting lock) status

end Queued

/-- What a call other than a resume does to the uploader's status. -/
structure Settles (threads after : Recovery.State) (respNotice : Semaphore Thread) : Prop where
  queued : Queued after respNotice
  suspended : threads.status .dataUp = .suspended → after.status .dataUp = .suspended

variable {respNotice : Semaphore Thread}

theorem settles_lockTake (queued : Queued threads respNotice) {thread : Thread}
    {reply : (request : AtCall) → request.Answer} {resume : Unit → Work}
    (ready : threads.status thread = .ready) {after : Recovery.State}
    (answered : threads.answer thread reply (.driver .lockTake) resume = some after) :
    Settles threads after respNotice := by
  rw [Recovery.State.answer] at answered
  split at answered
  · rename_i lock taken
    cases answered
    have waiting : lock.waiting = threads.lock.waiting := rtMutexTake_waiting taken
    exact ⟨queued.congr waiting rfl, id⟩
  · rename_i lock taken
    cases answered
    have waiting : lock.waiting = threads.lock.waiting ++ [thread] :=
      rtMutexTake_waiting taken
    by_cases own : thread = .dataUp
    · subst own
      have gone : .dataUp ∉ threads.lock.waiting := by
        intro member
        rw [queued.lock member] at ready
        contradiction
      refine ⟨⟨fun _ => rfl, ?_, ?_, queued.noticeOnce⟩, ?_⟩
      · change lock.waiting.count .dataUp ≤ 1
        rw [waiting, List.count_append, List.count_eq_zero_of_not_mem gone]
        exact le_refl 1
      · intro member
        rw [queued.notice member] at ready
        contradiction
      · intro suspended
        rw [ready] at suspended
        contradiction
    · have status := Recovery.setStatus_of_ne { threads with lock } own .onLock
      refine ⟨⟨?_, ?_, ?_, queued.noticeOnce⟩, ?_⟩
      · intro member
        change .dataUp ∈ lock.waiting at member
        rw [waiting, List.mem_append, List.mem_singleton] at member
        rw [status]
        exact queued.lock (member.resolve_right fun same => own same.symm)
      · change lock.waiting.count .dataUp ≤ 1
        rw [waiting, List.count_append, List.count_singleton, if_neg (by simpa using own)]
        exact queued.lockOnce
      · rw [status]
        exact queued.notice
      · rw [status]
        exact id

theorem pass_lock (threads : Recovery.State) (thread : Thread) :
    (threads.pass thread).lock = threads.lock := by
  unfold Recovery.State.pass
  split
  · rfl
  · rfl

theorem settles_lockRelease (queued : Queued threads respNotice) {thread : Thread}
    {reply : (request : AtCall) → request.Answer} {resume : Unit → Work} {after : Recovery.State}
    (answered : threads.answer thread reply (.driver .lockRelease) resume = some after) :
    Settles threads after respNotice := by
  rw [Recovery.State.answer] at answered
  rcases rtMutexRelease_waiting thread threads.lock with ⟨waiting, none⟩ | ⟨woken, handed, waiting⟩
  · simp only [none] at answered
    cases answered
    exact ⟨queued.congr waiting rfl, id⟩
  · simp only [handed] at answered
    cases answered
    have once := queued.lockOnce
    rw [waiting] at once
    by_cases own : woken = .dataUp
    · subst own
      have status : threads.status .dataUp = .onLock := by
        apply queued.lock
        rw [waiting]
        exact List.mem_cons_self
      rw [List.count_cons_self] at once
      have gone : .dataUp ∉ (rtMutexRelease thread threads.lock).1.waiting :=
        List.count_eq_zero.mp (by omega)
      have lock := pass_lock ({ threads with
        lock := (rtMutexRelease thread threads.lock).1 }.setWork thread (resume ())) .dataUp
      refine ⟨⟨?_, ?_, ?_, queued.noticeOnce⟩, ?_⟩
      · rw [lock]
        exact fun member => absurd member gone
      · rw [lock]
        exact (List.count_eq_zero_of_not_mem gone).trans_le (Nat.zero_le 1)
      · intro member
        rw [queued.notice member] at status
        contradiction
      · intro suspended
        rw [status] at suspended
        contradiction
    · obtain ⟨lock, status, _⟩ := Recovery.pass_of_ne ({ threads with
        lock := (rtMutexRelease thread threads.lock).1 }.setWork thread (resume ())) own
      rw [List.count_cons_of_ne own] at once
      refine ⟨⟨?_, ?_, ?_, queued.noticeOnce⟩, ?_⟩
      · rw [lock, status]
        intro member
        apply queued.lock
        rw [waiting]
        exact List.mem_cons_of_mem woken member
      · rw [lock]
        exact once
      · rw [status]
        exact queued.notice
      · rw [status]
        exact id

/-- A call other than a take of the notice and a resume leaves a suspended
uploader alone. -/
theorem settles_answer (queued : Queued threads respNotice) {thread : Thread}
    {reply : (request : AtCall) → request.Answer} {request : AtCall}
    {resume : request.Answer → Work} (ready : threads.status thread = .ready)
    (notResume : AtCall.resumes request = false) {after : Recovery.State}
    (answered : threads.answer thread reply request resume = some after) :
    Settles threads after respNotice := by
  cases request with
  | driver request =>
      cases request with
      | lockTake => exact settles_lockTake queued ready answered
      | lockRelease => exact settles_lockRelease queued answered
      | dataUpResume => contradiction
      | dataUpStartup =>
          cases answered
          refine ⟨queued.startupDataUp.congr rfl rfl, fun suspended => ?_⟩
          simp [Recovery.State.startupDataUp, Recovery.State.setWork, suspended]
      | dataUpSuspend =>
          cases answered
          refine ⟨queued.suspendDataUp.congr rfl rfl, fun suspended => ?_⟩
          simp [Recovery.State.suspendDataUp, Recovery.State.setWork, suspended]
      | eventSend object set =>
          cases object with
          | nbEvent =>
              cases answered
              exact ⟨queued.congr rfl rfl, id⟩
          | netError =>
              cases answered
              refine ⟨(queued.sendNetError set).congr rfl rfl, fun suspended => ?_⟩
              exact (Recovery.sendNetError_view threads set).2.1.trans suspended
      | eventRecv object flag set timeout =>
          cases object with
          | nbEvent =>
              cases answered
              exact ⟨queued.congr rfl rfl, id⟩
          | netError =>
              rw [Recovery.State.answer] at answered
              split at answered
              · cases answered
                exact ⟨queued.congr rfl rfl, id⟩
              · contradiction
      | _ =>
          cases answered
          exact ⟨queued.congr rfl rfl, id⟩
  | _ =>
      cases answered
      exact ⟨queued.congr rfl rfl, id⟩

/-- A notification of a reboot wakes at most the network thread. -/
theorem Staged.deliver (staged : Staged threads stage) (effects : List Effect) :
    Staged (effects.foldl Recovery.State.deliver threads) stage := by
  induction effects generalizing threads with
  | nil => exact staged
  | cons effect rest ih =>
      cases effect with
      | sendNetError set => exact ih (staged.sendNetError set)
      | sendNbEvent set => exact ih staged
      | assertionFailed => exact ih staged
      | dataCallback topic mesg mesgLen => exact ih staged

theorem Queued.deliver (queued : Queued threads respNotice) (effects : List Effect) :
    Settles threads (effects.foldl Recovery.State.deliver threads) respNotice := by
  induction effects generalizing threads with
  | nil => exact ⟨queued, id⟩
  | cons effect rest ih =>
      cases effect with
      | sendNetError set =>
          rcases ih (queued.sendNetError set) with ⟨later, suspended⟩
          refine ⟨later, fun before => suspended ?_⟩
          exact (Recovery.sendNetError_view threads set).2.1.trans before
      | sendNbEvent set => exact ih queued
      | assertionFailed => exact ih queued
      | dataCallback topic mesg mesgLen => exact ih queued

/-! ## Returning from the wait for the notice -/

theorem returned_work (threads : Recovery.State) (thread : Thread) (taken : Bool) :
    returned threads thread taken = threads ∨
      ∃ timeout resume, (threads.work thread).next = some ⟨.respNotice timeout, resume⟩ ∧
        returned threads thread taken =
          (threads.setWork thread (resume taken)).setStatus thread .ready := by
  unfold returned
  split
  · rename_i timeout resume next
    exact Or.inr ⟨timeout, resume, next, rfl⟩
  · exact Or.inl rfl

theorem begun_of_allows {stage : Stage} {timeout : Nat}
    (allows : stage.Allows (.respNotice timeout)) : stage = .begun := by
  cases stage with
  | begun => rfl
  | idle | locked | taken => contradiction

/-- A thread takes the notice, or gives up. -/
theorem Staged.takes (staged : Staged threads stage) {thread : Thread} {timeout : Nat}
    {resume : Bool → Work}
    (next : (threads.work thread).next = some ⟨.respNotice timeout, resume⟩) (taken : Bool) :
    ∃ later, Staged (threads.setWork thread (resume taken)) later ∧
      (∀ other, (later other).busy = (stage other).busy) ∧
      ∀ other, later other = .taken → stage other = .taken ∨ other = thread ∧ taken = true := by
  have begun := begun_of_allows ((staged.standing thread).next next).1
  have moved := staged.made next taken fun _ => by
    rw [begun]
    exact Stage.noConfusion
  refine ⟨_, moved, fun other => ?_, fun other => ?_⟩
  · by_cases same : other = thread
    · subst same
      rw [Function.update_self, begun]
      cases taken <;> rfl
    · rw [Function.update_of_ne same]
  · by_cases same : other = thread
    · subst same
      rw [Function.update_self, begun]
      cases taken with
      | true => exact fun _ => Or.inr ⟨rfl, rfl⟩
      | false => exact nofun
    · rw [Function.update_of_ne same]
      exact Or.inl

theorem Staged.returned (staged : Staged threads stage) (thread : Thread) (taken : Bool) :
    ∃ later, Staged (returned threads thread taken) later ∧
      (∀ other, (later other).busy = (stage other).busy) ∧
      ∀ other, later other = .taken → stage other = .taken ∨
        other = thread ∧ taken = true ∧ stage other = .begun := by
  rcases returned_work threads thread taken with same | ⟨timeout, resume, next, equal⟩
  · rw [same]
    exact ⟨stage, staged, fun _ => rfl, fun _ => Or.inl⟩
  · rw [equal]
    have begun := begun_of_allows ((staged.standing thread).next next).1
    rcases staged.takes next taken with ⟨later, moved, busy, reached⟩
    refine ⟨later, moved.congr rfl rfl, busy, fun other here => ?_⟩
    apply (reached other here).imp_right
    rintro ⟨rfl, success⟩
    exact ⟨rfl, success, begun⟩

/-- A thread leaves the queue of the notice. -/
theorem Queued.returned (queued : Queued threads respNotice) {thread : Thread}
    (member : thread ∈ respNotice.waiting) {after : Semaphore Thread}
    (shorter : after.waiting = respNotice.waiting.erase thread) (taken : Bool) :
    Settles threads (returned threads thread taken) after := by
  by_cases own : thread = .dataUp
  · subst own
    have status := queued.notice member
    have gone : after.waiting.count .dataUp = 0 := by
      rw [shorter, List.count_erase_self]
      exact Nat.sub_eq_zero_of_le queued.noticeOnce
    have apart : .dataUp ∉ threads.lock.waiting := by
      intro waits
      rw [queued.lock waits] at status
      contradiction
    have lock : (Exchange.returned threads .dataUp taken).lock = threads.lock := by
      rcases returned_work threads .dataUp taken with same | ⟨_, _, _, equal⟩
      · rw [same]
      · rw [equal]
        rfl
    refine ⟨⟨?_, ?_, ?_, gone.trans_le (Nat.zero_le 1)⟩, ?_⟩
    · rw [lock]
      exact fun waits => absurd waits apart
    · rw [lock]
      exact queued.lockOnce
    · exact fun waits => absurd waits (List.count_eq_zero.mp gone)
    · intro suspended
      rw [status] at suspended
      contradiction
  · have frame : (Exchange.returned threads thread taken).lock = threads.lock ∧
        (Exchange.returned threads thread taken).status .dataUp = threads.status .dataUp := by
      rcases returned_work threads thread taken with same | ⟨_, _, _, equal⟩
      · rw [same]
        exact ⟨rfl, rfl⟩
      · rw [equal]
        exact ⟨rfl, Recovery.setStatus_of_ne _ own _⟩
    rcases frame with ⟨lock, status⟩
    refine ⟨⟨?_, ?_, ?_, ?_⟩, ?_⟩
    · rw [lock, status]
      exact queued.lock
    · rw [lock]
      exact queued.lockOnce
    · rw [shorter, status]
      intro waits
      exact queued.notice (List.mem_of_mem_erase waits)
    · rw [shorter, List.count_erase_of_ne fun same => own same.symm]
      exact queued.noticeOnce
    · rw [status]
      exact id

end BerPiNbiot.App.Exchange
