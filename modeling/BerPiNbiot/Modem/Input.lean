import BerPiNbiot.Kernel.Semaphore
import BerPiNbiot.Kernel.Serial
import BerPiNbiot.Transition.Core

/-!
# Characters from the modem

`at_client_getchar` of the parser thread against the interrupts of the serial device.  After a
read without a byte the parser resets the semaphore `rx_notice` and waits for it; an interrupt
releases it when there is something to read.

An interrupt can come between any two of the three calls.  The reset forgets an interrupt that
comes before it, so that the parser may sleep beside bytes it could read.
-/

namespace BerPiNbiot.Modem

open BerPiNbiot.Kernel
open BerPiNbiot.Ring
open BerPiNbiot.Transition

/-- Where the parser is in `at_client_getchar`. -/
inductive Place where
  | away
  | reading
  | missed
  | cleared
  | waiting
  deriving DecidableEq

/-- The serial device, `rx_notice`, the parser and the characters that it has got. -/
structure Input where
  fifo : RxFifo
  notice : Semaphore Unit
  place : Place
  characters : List UInt8

/-- The serial interrupt, and the parser's steps through `at_client_getchar` with its
calls of `rt_device_read`, `rt_sem_control` and `rt_sem_take`. -/
inductive InputEvent where
  | interrupt (bytes : List UInt8)
  | getchar
  | read
  | reset
  | take (time : Bool)
  | timeout

namespace Input

/-- `at_client_para_init` and `rt_device_open` -/
def init : Input where
  fifo := Port.opened.fifo
  notice := {}
  place := .away
  characters := []

/-- `at_client_rx_ind` with a positive size -/
def rxInd (input : Input) : Input :=
  match rtSemRelease input.notice with
  | (notice, none) => { input with notice }
  | (notice, some _) => { input with notice, place := .reading }

/-- `rt_hw_serial_isr` -/
def serialIsr (mode : RxMode) (bufsz : Nat) (bytes : List UInt8) (input : Input) : Input :=
  let input := { input with fifo := mode.receive bufsz input.fifo bytes }
  if mode.rxLength bufsz input.fifo = 0 then input else input.rxInd

/-- One interrupt, or the parser up to its next call. -/
def step (mode : RxMode) (bufsz : Nat) (input : Input) : InputEvent → Option Input
  | .interrupt bytes => some (input.serialIsr mode bufsz bytes)
  | .getchar => if input.place = .away then some { input with place := .reading } else none
  | .read =>
      if input.place = .reading then
        match mode.readByte bufsz input.fifo with
        | (none, fifo) => some { input with fifo, place := .missed }
        | (some byte, fifo) =>
            some { input with fifo, place := .away, characters := input.characters ++ [byte] }
      else none
  | .reset =>
      if input.place = .missed then
        some { input with notice := (rtSemReset 0 input.notice).1, place := .cleared }
      else none
  | .take time =>
      if input.place = .cleared then
        match rtSemTake () input.notice with
        | (true, notice) => some { input with notice, place := .reading }
        | (false, notice) =>
            if time then some { input with notice, place := .waiting }
            else some { input with place := .away }
      else none
  | .timeout =>
      if input.place = .waiting then
        some { input with notice := input.notice.drop (), place := .away }
      else none

/-- What the parser could read. -/
def unread (bufsz : Nat) (input : Input) : List UInt8 :=
  input.fifo.unread bufsz

/-- The buffer and the semaphore are in order: the parser alone can wait. -/
structure Sound (mode : RxMode) (bufsz : Nat) (input : Input) : Prop where
  fifo : mode.Sound bufsz input.fifo
  queue : input.notice.waiting = if input.place = .waiting then [()] else []

end Input

section Runs

variable {mode : RxMode} {bufsz : Nat} {input target : Input}

theorem sound_init (sized : mode.Sized bufsz) : Input.init.Sound mode bufsz :=
  ⟨sized.opened, rfl⟩

/-- What an interrupt does: the bytes are stored, and when there are any to read the parser is
woken or the release is counted. -/
theorem serialIsr_cases (sound : input.Sound mode bufsz) {bytes : List UInt8}
    (fits : mode.Fits bufsz bytes) :
    (input.serialIsr mode bufsz bytes).Sound mode bufsz ∧
      (input.serialIsr mode bufsz bytes).unread bufsz =
        latest (mode.limit bufsz) (input.unread bufsz ++ bytes) ∧
      (((input.serialIsr mode bufsz bytes).unread bufsz = [] ∧
          (input.serialIsr mode bufsz bytes).place = input.place ∧
          (input.serialIsr mode bufsz bytes).notice = input.notice) ∨
        ((input.serialIsr mode bufsz bytes).unread bufsz ≠ [] ∧
          if input.place = .waiting then (input.serialIsr mode bufsz bytes).place = .reading
          else (input.serialIsr mode bufsz bytes).place = input.place ∧
            (input.serialIsr mode bufsz bytes).notice.value = input.notice.value + 1)) := by
  obtain ⟨fifo, received⟩ := sound.fifo.receive fits
  have length := fifo.rxLength
  have queue := sound.queue
  unfold Input.serialIsr
  simp only
  by_cases nothing : mode.rxLength bufsz (mode.receive bufsz input.fifo bytes) = 0
  · rw [if_pos nothing]
    rw [nothing] at length
    exact ⟨⟨fifo, queue⟩, received, Or.inl ⟨List.eq_nil_of_length_eq_zero length.symm, rfl, rfl⟩⟩
  · rw [if_neg nothing]
    have some_byte : (mode.receive bufsz input.fifo bytes).unread bufsz ≠ [] := by
      intro empty
      rw [empty] at length
      exact nothing length
    unfold Input.rxInd rtSemRelease
    simp only
    by_cases waits : input.place = .waiting
    · rw [if_pos waits] at queue
      simp only [queue, waits, if_true]
      exact ⟨⟨fifo, rfl⟩, received, Or.inr ⟨some_byte, trivial⟩⟩
    · rw [if_neg waits] at queue
      simp only [queue, waits, if_false]
      refine ⟨⟨fifo, ?_⟩, received, Or.inr ⟨some_byte, trivial, trivial⟩⟩
      rw [if_neg waits]

/-- What the parser does up to its next call.  It finds nothing only where nothing is to be
read, and it waits only for a semaphore without a release. -/
theorem parser_cases (sound : input.Sound mode bufsz) {event : InputEvent}
    (stepped : input.step mode bufsz event = some target) :
    (∃ bytes, event = .interrupt bytes ∧ target = input.serialIsr mode bufsz bytes) ∨
      target.Sound mode bufsz ∧
        ((target.place = .away ∨ target.place = .reading) ∨
          (event = .read ∧ target.place = .missed ∧ target.unread bufsz = []) ∨
          (input.place = .missed ∧ target.place = .cleared ∧
            target.unread bufsz = input.unread bufsz ∧ target.notice.value = 0) ∨
          (input.place = .cleared ∧ input.notice.value = 0 ∧ target.place = .waiting ∧
            target.unread bufsz = input.unread bufsz)) := by
  have queue := sound.queue
  cases event with
  | interrupt bytes => exact Or.inl ⟨bytes, rfl, (Option.some.inj stepped).symm⟩
  | getchar =>
      refine Or.inr ?_
      simp only [Input.step] at stepped
      split at stepped
      case isTrue here =>
        obtain rfl := Option.some.inj stepped
        rw [here] at queue
        exact ⟨⟨sound.fifo, queue⟩, Or.inl (Or.inr rfl)⟩
      case isFalse => nomatch stepped
  | read =>
      refine Or.inr ?_
      obtain ⟨fifo, found, rest⟩ := sound.fifo.readByte
      simp only [Input.step] at stepped
      split at stepped
      case isTrue here =>
        rw [here] at queue
        split at stepped
        case h_1 after none =>
          obtain rfl := Option.some.inj stepped
          rw [none] at fifo found rest
          have empty := List.head?_eq_none_iff.mp found.symm
          rw [empty] at rest
          exact ⟨⟨fifo, queue⟩, Or.inr (Or.inl ⟨rfl, rfl, rest⟩)⟩
        case h_2 byte after some =>
          obtain rfl := Option.some.inj stepped
          rw [some] at fifo
          exact ⟨⟨fifo, queue⟩, Or.inl (Or.inl rfl)⟩
      case isFalse => nomatch stepped
  | reset =>
      refine Or.inr ?_
      simp only [Input.step] at stepped
      split at stepped
      case isTrue here =>
        obtain rfl := Option.some.inj stepped
        exact ⟨⟨sound.fifo, rfl⟩, Or.inr (Or.inr (Or.inl ⟨here, rfl, rfl, rfl⟩))⟩
      case isFalse => nomatch stepped
  | take time =>
      refine Or.inr ?_
      simp only [Input.step, rtSemTake] at stepped
      split at stepped
      case isTrue here =>
        rw [here] at queue
        by_cases zero : input.notice.value = 0
        · simp only [zero, if_true] at stepped
          cases time with
          | true =>
              obtain rfl := Option.some.inj stepped
              refine ⟨⟨sound.fifo, ?_⟩, Or.inr (Or.inr (Or.inr ⟨here, zero, rfl, rfl⟩))⟩
              change input.notice.waiting ++ [()] = [()]
              rw [queue]
              rfl
          | false =>
              obtain rfl := Option.some.inj stepped
              exact ⟨⟨sound.fifo, queue⟩, Or.inl (Or.inl rfl)⟩
        · simp only [zero, if_false] at stepped
          obtain rfl := Option.some.inj stepped
          exact ⟨⟨sound.fifo, queue⟩, Or.inl (Or.inr rfl)⟩
      case isFalse => nomatch stepped
  | timeout =>
      refine Or.inr ?_
      simp only [Input.step] at stepped
      split at stepped
      case isTrue here =>
        obtain rfl := Option.some.inj stepped
        rw [here] at queue
        refine ⟨⟨sound.fifo, ?_⟩, Or.inl (Or.inl rfl)⟩
        change input.notice.waiting.erase () = []
        rw [queue]
        rfl
      case isFalse => nomatch stepped

end Runs

/-! ## Sleeping beside bytes -/

namespace Input

/-- What the hardware and the scheduler have to keep to: an interrupt brings no more than the
buffer holds, none with bytes comes between the read that fails and the reset, and no 65536 of
them come between the reset and the call that waits. -/
def Timely (mode : RxMode) (bufsz : Nat) (input : Input) : InputEvent → Prop
  | .interrupt bytes =>
      mode.Fits bufsz bytes ∧ (input.place = .missed → bytes = []) ∧
        (input.place = .cleared → input.notice.value ≠ 65535)
  | _ => True

instance (mode : RxMode) (bufsz : Nat) (input : Input) (event : InputEvent) :
    Decidable (Timely mode bufsz input event) :=
  match event with
  | .interrupt _ => inferInstanceAs (Decidable (_ ∧ (_ → _) ∧ (_ → _)))
  | .getchar | .read | .reset | .take _ | .timeout => isTrue trivial

/-- A parser that waits, or is about to, has not missed anything. -/
structure Alert (mode : RxMode) (bufsz : Nat) (input : Input) : Prop where
  sound : input.Sound mode bufsz
  missed : input.place = .missed → input.unread bufsz = []
  cleared : input.place = .cleared → input.notice.value = 0 → input.unread bufsz = []
  waiting : input.place = .waiting → input.unread bufsz = []

end Input

section Sleep

variable {mode : RxMode} {bufsz : Nat} {input target : Input}

theorem uint16_succ_ne_zero {value : UInt16} (small : value ≠ 65535) : value + 1 ≠ 0 := by
  intro zero
  apply small
  have back : value = 0 - 1 := by rw [← zero, UInt16.add_sub_cancel]
  exact back

theorem alert_step {event : InputEvent} (alert : input.Alert mode bufsz)
    (timely : input.Timely mode bufsz event)
    (stepped : input.step mode bufsz event = some target) : target.Alert mode bufsz := by
  rcases parser_cases alert.sound stepped with ⟨bytes, rfl, rfl⟩ | ⟨sound, cases⟩
  · obtain ⟨fits, early, few⟩ := timely
    obtain ⟨sound, unread, ⟨empty, place, notice⟩ | ⟨some_byte, rest⟩⟩ :=
      serialIsr_cases alert.sound fits
    · exact ⟨sound, fun _ => empty, fun _ _ => empty, fun _ => empty⟩
    · by_cases waits : input.place = .waiting
      · rw [if_pos waits] at rest
        refine ⟨sound, ?_, ?_, ?_⟩ <;> rw [rest] <;> exact nofun
      · rw [if_neg waits] at rest
        obtain ⟨place, value⟩ := rest
        refine ⟨sound, fun missed => ?_, fun cleared zero => ?_, fun waiting => ?_⟩
        · rw [place] at missed
          rw [unread, alert.missed missed, early missed]
          exact latest_of_le (Nat.zero_le _)
        · rw [place] at cleared
          rw [value] at zero
          exact absurd zero (uint16_succ_ne_zero (few cleared))
        · rw [place] at waiting
          exact absurd waiting waits
  · rcases cases with (away | reading) | ⟨-, missed, empty⟩ |
      ⟨before, cleared, same, zero⟩ | ⟨before, zero, waiting, same⟩
    · refine ⟨sound, ?_, ?_, ?_⟩ <;> rw [away] <;> exact nofun
    · refine ⟨sound, ?_, ?_, ?_⟩ <;> rw [reading] <;> exact nofun
    · exact ⟨sound, fun _ => empty, fun _ _ => empty, fun _ => empty⟩
    · have empty := same.trans (alert.missed before)
      exact ⟨sound, fun _ => empty, fun _ _ => empty, fun _ => empty⟩
    · have empty := same.trans (alert.cleared before zero)
      exact ⟨sound, fun _ => empty, fun _ _ => empty, fun _ => empty⟩

/-- In every order of interrupts and calls that keeps to `Timely`, the parser waits only while
there is nothing to read. -/
theorem getchar_alert (sized : mode.Sized bufsz) {run : List InputEvent}
    (timely : Guarded (Input.step mode bufsz) (Input.Timely mode bufsz) Input.init run)
    (executed : exec (Input.step mode bufsz) Input.init run = some target)
    (waiting : target.place = .waiting) : target.unread bufsz = [] := by
  have start : Input.init.Alert mode bufsz := ⟨sound_init sized, nofun, nofun, nofun⟩
  have alert := exec_invariant (fun _ _ _ holds allowed stepped => alert_step holds allowed stepped)
    start timely executed
  exact alert.waiting waiting

theorem getchar_alert_concrete : ∃ target,
    exec (Input.step .int 4) Input.init
      [.getchar, .read, .reset, .interrupt [65], .take true, .read, .getchar, .read, .reset,
        .take true] = some target ∧
    target.place = .waiting ∧ target.characters = [65] ∧ target.unread 4 = [] :=
  ⟨_, rfl, rfl, rfl, @getchar_alert .int 4 _ (show 2 ≤ 4 by decide) [.getchar, .read, .reset,
    .interrupt [65], .take true, .read, .getchar, .read, .reset, .take true] (by decide) rfl rfl⟩

/-- The interrupts among some that find anything to read behind `pending` bytes. -/
def indications (pending : List UInt8) : List (List UInt8) → Nat
  | [] => 0
  | bytes :: rest =>
      (if pending ++ bytes = [] then 0 else 1) + indications (pending ++ bytes) rest

theorem latest_eq_nil_iff {limit : Nat} (positive : 0 < limit) {values : List UInt8} :
    latest limit values = [] ↔ values = [] := by
  rw [latest, List.drop_eq_nil_iff]
  constructor
  · intro short
    apply List.eq_nil_of_length_eq_zero
    omega
  · rintro rfl
    exact Nat.zero_le _

/-- Interrupts one after the other, while the parser is between two calls. -/
theorem interrupts_run (sound : input.Sound mode bufsz) (awake : input.place ≠ .waiting)
    {pending : List UInt8} (start : input.unread bufsz = latest (mode.limit bufsz) pending)
    {interrupts : List (List UInt8)} (fits : ∀ bytes ∈ interrupts, mode.Fits bufsz bytes) :
    ∃ target, exec (Input.step mode bufsz) input (interrupts.map .interrupt) = some target ∧
      target.Sound mode bufsz ∧ target.place = input.place ∧
      target.unread bufsz = latest (mode.limit bufsz) (pending ++ interrupts.flatten) ∧
      target.notice.value = input.notice.value + UInt16.ofNat (indications pending interrupts) := by
  induction interrupts generalizing input pending with
  | nil =>
      refine ⟨input, rfl, sound, rfl, ?_, ?_⟩
      · rw [List.flatten_nil, List.append_nil, start]
      · exact (UInt16.add_zero _).symm
  | cons bytes rest ih =>
      obtain ⟨after, unread, counted⟩ :=
        serialIsr_cases sound (fits bytes List.mem_cons_self)
      rw [start, latest_append] at unread
      have place : (input.serialIsr mode bufsz bytes).place = input.place := by
        rcases counted with ⟨-, place, -⟩ | ⟨-, rest⟩
        · exact place
        · rw [if_neg awake] at rest
          exact rest.1
      have value : (input.serialIsr mode bufsz bytes).notice.value = input.notice.value +
          UInt16.ofNat (if pending ++ bytes = [] then 0 else 1) := by
        have empty := @latest_eq_nil_iff _ sound.fifo.limit_pos (pending ++ bytes)
        rw [← unread] at empty
        rcases counted with ⟨none, -, notice⟩ | ⟨some_byte, rest⟩
        · rw [if_pos (empty.mp none), notice]
          exact (UInt16.add_zero _).symm
        · rw [if_neg awake] at rest
          rw [if_neg fun none => some_byte (empty.mpr none), rest.2]
          rfl
      obtain ⟨target, executed, sound, same, kept, total⟩ :=
        ih after (by rw [place]; exact awake) unread fun bytes member =>
          fits bytes (List.mem_cons_of_mem _ member)
      refine ⟨target, executed, sound, same.trans place, ?_, ?_⟩
      · rw [kept, List.flatten_cons, List.append_assoc]
      · rw [total, value, UInt16.add_assoc, ← UInt16.ofNat_add]
        rfl

theorem sound_run {run : List InputEvent} (sound : input.Sound mode bufsz)
    (fitting : ∀ bytes, .interrupt bytes ∈ run → mode.Fits bufsz bytes)
    (executed : exec (Input.step mode bufsz) input run = some target) :
    target.Sound mode bufsz := by
  induction run generalizing input with
  | nil =>
      obtain rfl := Option.some.inj executed
      exact sound
  | cons event rest ih =>
      obtain ⟨middle, stepped, later⟩ :=
        (exec_cons_eq_some_iff _ _ _ _ _).mp executed
      refine ih ?_ (fun bytes member => fitting bytes (List.mem_cons_of_mem _ member)) later
      rcases parser_cases sound stepped with ⟨bytes, rfl, rfl⟩ | ⟨after, -⟩
      · exact (serialIsr_cases sound (fitting bytes List.mem_cons_self)).1
      · exact after

/-- A read that fails leaves nothing to read. -/
theorem unread_of_missed {run : List InputEvent} (sized : mode.Sized bufsz)
    (fitting : ∀ bytes, .interrupt bytes ∈ run → mode.Fits bufsz bytes)
    (executed : exec (Input.step mode bufsz) Input.init (run ++ [.read]) = some input)
    (missed : input.place = .missed) :
    input.Sound mode bufsz ∧ input.unread bufsz = [] := by
  rw [exec_append] at executed
  obtain ⟨before, ran, last⟩ := Option.bind_eq_some_iff.mp executed
  obtain ⟨after, stepped, done⟩ := (exec_cons_eq_some_iff _ _ _ _ _).mp last
  obtain rfl := Option.some.inj done
  rcases parser_cases (sound_run (sound_init sized) fitting ran) stepped with
    ⟨bytes, other, -⟩ |
      ⟨sound, (away | reading) | ⟨-, -, empty⟩ | ⟨-, cleared, -⟩ | ⟨-, -, waiting, -⟩⟩
  · nomatch other
  · exact absurd (missed.symm.trans away) nofun
  · exact absurd (missed.symm.trans reading) nofun
  · exact ⟨sound, empty⟩
  · exact absurd (missed.symm.trans cleared) nofun
  · exact absurd (missed.symm.trans waiting) nofun

theorem uint16_ofNat_eq_zero_iff {count : Nat} : UInt16.ofNat count = 0 ↔ count % 65536 = 0 := by
  rw [← UInt16.toNat_inj, UInt16.toNat_ofNat]
  rfl

theorem take_waits (mode : RxMode) (bufsz : Nat) (cleared : input.place = .cleared) :
    ∃ target, input.step mode bufsz (.take true) = some target ∧
      target.unread bufsz = input.unread bufsz ∧
      (target.place = .waiting ↔ input.notice.value = 0) := by
  simp only [Input.step, rtSemTake, cleared, if_true]
  by_cases zero : input.notice.value = 0
  · simp only [zero, if_true]
    exact ⟨_, rfl, rfl, iff_of_true rfl trivial⟩
  · simp only [zero, if_false]
    exact ⟨_, rfl, rfl, iff_of_false nofun not_false⟩

/-- From every read that fails in every run: with the interrupts `early` before the reset and
`late` behind it the parser goes to sleep beside bytes that it could read if and only if there
are any and the releases behind the reset are none or a multiple of 65536. -/
theorem getchar_sleeps_iff (sized : mode.Sized bufsz) {run : List InputEvent}
    (fitting : ∀ bytes, .interrupt bytes ∈ run → mode.Fits bufsz bytes)
    (executed : exec (Input.step mode bufsz) Input.init (run ++ [.read]) = some input)
    (missed : input.place = .missed) {early late : List (List UInt8)}
    (fits : ∀ bytes ∈ early ++ late, mode.Fits bufsz bytes) :
    ∃ target, exec (Input.step mode bufsz) input
        (early.map .interrupt ++ .reset :: late.map .interrupt ++ [.take true]) = some target ∧
      target.unread bufsz = latest (mode.limit bufsz) (early.flatten ++ late.flatten) ∧
      (target.place = .waiting ∧ target.unread bufsz ≠ [] ↔
        early.flatten ++ late.flatten ≠ [] ∧
          indications early.flatten late % 65536 = 0) := by
  obtain ⟨sound, empty⟩ := unread_of_missed sized fitting executed missed
  have positive := sound.fifo.limit_pos
  obtain ⟨first, ranFirst, soundFirst, placeFirst, unreadFirst, -⟩ :=
    @interrupts_run mode bufsz input sound (by rw [missed]; exact nofun) []
      (by rw [empty]; exact (latest_of_le (Nat.zero_le _)).symm) early
      fun bytes member => fits bytes (List.mem_append_left _ member)
  rw [List.nil_append] at unreadFirst
  rw [missed] at placeFirst
  have soundReset : Input.Sound mode bufsz
      { first with notice := (rtSemReset 0 first.notice).1, place := .cleared } :=
    ⟨soundFirst.fifo, rfl⟩
  obtain ⟨second, ranSecond, soundSecond, placeSecond, unreadSecond, value⟩ :=
    @interrupts_run mode bufsz _ soundReset nofun early.flatten unreadFirst late
      fun bytes member => fits bytes (List.mem_append_right _ member)
  change second.place = .cleared at placeSecond
  change _ = 0 + UInt16.ofNat _ at value
  rw [UInt16.zero_add] at value
  have reset : first.step mode bufsz .reset =
      some { first with notice := (rtSemReset 0 first.notice).1, place := .cleared } := by
    simp only [Input.step, placeFirst, if_true]
  have ran : exec (Input.step mode bufsz) input
      (early.map .interrupt ++ .reset :: late.map .interrupt) = some second := by
    rw [exec_append, ranFirst]
    change exec _ first _ = _
    rw [exec_cons, reset]
    exact ranSecond
  have nonempty : second.unread bufsz ≠ [] ↔ early.flatten ++ late.flatten ≠ [] := by
    rw [unreadSecond]
    exact not_congr (latest_eq_nil_iff positive)
  obtain ⟨target, stepped, same, sleeps⟩ := take_waits mode bufsz placeSecond
  refine ⟨target, ?_, same.trans unreadSecond, ?_⟩
  · rw [exec_append, ran]
    change exec _ second _ = _
    rw [exec_cons, stepped]
    rfl
  · rw [same, sleeps, nonempty, value, uint16_ofNat_eq_zero_iff, and_comm]

theorem getchar_sleeps_iff_concrete : ∃ input target,
    exec (Input.step .dma 4) Input.init ([.getchar] ++ [.read]) = some input ∧
    exec (Input.step .dma 4) input ([[65, 66]].map .interrupt ++ .reset :: [].map .interrupt ++
      [.take true]) = some target ∧
    target.place = .waiting ∧ target.unread 4 = [65, 66] := by
  obtain ⟨target, executed, unread, sleeps⟩ :=
    @getchar_sleeps_iff .dma 4 _ ⟨by decide, by decide⟩ [.getchar]
      (fun _ member => nomatch List.mem_singleton.mp member) rfl rfl [[65, 66]] [] (by decide)
  exact ⟨_, target, rfl, executed, (sleeps.mpr (by decide)).1, unread⟩

end Sleep

end BerPiNbiot.Modem
