import Mathlib.Data.List.Nodup

/-!
# RT-Thread event objects

An event object is a 32-bit set of pending flags.  `rt_event_send` adds flags,
`rt_event_recv` with `RT_EVENT_FLAG_CLEAR` takes the requested ones out as soon
as all of them (`RT_EVENT_FLAG_AND`) or some of them (`RT_EVENT_FLAG_OR`) are
pending.  Receiving is one atomic step of the kernel: a receiver that has to
wait is served by the send that satisfies it, with the same result.

The second half relates requested sets to lists of flag positions, so that what
a receiver gets is the list of its requested positions that are pending.
-/

namespace BerPiNbiot.Kernel

/-- `rt_uint32_t` flag sets. -/
abbrev EventSet := BitVec 32

/-- The two ways in which `rt_event_recv` combines the requested flags. -/
inductive EventFlag
  | and
  | or
  deriving DecidableEq

/-- The pending set after `rt_event_send`. -/
def rtEventSend (pending set : EventSet) : EventSet :=
  pending ||| set

/-- `rt_event_recv` with `RT_EVENT_FLAG_CLEAR`: the received set and the set
left pending, or `none` while the caller has to wait. -/
def rtEventRecv (flag : EventFlag) (set pending : EventSet) : Option (EventSet × EventSet) :=
  match flag with
  | .and => if pending &&& set = set then some (pending &&& set, pending &&& ~~~set) else none
  | .or => if pending &&& set ≠ 0 then some (pending &&& set, pending &&& ~~~set) else none

theorem rtEventRecv_eq_some {flag : EventFlag} {set pending received left : EventSet}
    (result : rtEventRecv flag set pending = some (received, left)) :
    received = pending &&& set ∧ left = pending &&& ~~~set := by
  unfold rtEventRecv at result
  cases flag with
  | and =>
      simp only at result
      split at result
      · cases result
        exact ⟨rfl, rfl⟩
      · contradiction
  | or =>
      simp only at result
      split at result
      · cases result
        exact ⟨rfl, rfl⟩
      · contradiction

/-- A receiver of all its flags finds them all pending. -/
theorem rtEventRecv_and {set pending received left : EventSet}
    (result : rtEventRecv .and set pending = some (received, left)) : pending &&& set = set := by
  simp only [rtEventRecv, Option.ite_none_right_eq_some] at result
  exact result.1

/-! ## Flag positions -/

/-- The position with a number. -/
def positionOf (number : Nat) : Fin 32 :=
  Fin.ofNat 32 number

/-- The single flag `1 << position`. -/
def flagAt (position : Fin 32) : EventSet :=
  BitVec.twoPow 32 position

/-- The set with exactly the listed flags. -/
def flagsAt (positions : List (Fin 32)) : EventSet :=
  positions.foldr (fun position set => flagAt position ||| set) 0

/-- The listed positions that are pending. -/
def pendingAt (pending : EventSet) (positions : List (Fin 32)) : List (Fin 32) :=
  positions.filter fun position => pending.getLsbD position

theorem getLsbD_flagAt_iff (position index : Fin 32) :
    (flagAt position).getLsbD index = true ↔ index = position := by
  rw [flagAt, BitVec.getLsbD_twoPow]
  simp [Fin.ext_iff, eq_comm]

theorem getLsbD_flagsAt_iff (positions : List (Fin 32)) (index : Fin 32) :
    (flagsAt positions).getLsbD index = true ↔ index ∈ positions := by
  induction positions with
  | nil => simp [flagsAt]
  | cons position rest ih =>
      rw [flagsAt, List.foldr_cons, ← flagsAt, BitVec.getLsbD_or, Bool.or_eq_true,
        getLsbD_flagAt_iff, ih, List.mem_cons]

/-- Masking a pending set with the requested flags keeps exactly the requested
positions that are pending. -/
theorem and_flagsAt (pending : EventSet) (positions : List (Fin 32)) :
    pending &&& flagsAt positions = flagsAt (pendingAt pending positions) := by
  apply BitVec.eq_of_getLsbD_eq
  intro index bound
  have requested := getLsbD_flagsAt_iff positions ⟨index, bound⟩
  have kept := getLsbD_flagsAt_iff (pendingAt pending positions) ⟨index, bound⟩
  rw [Bool.eq_iff_iff, BitVec.getLsbD_and, Bool.and_eq_true, requested, kept, pendingAt,
    List.mem_filter]
  exact and_comm

/-- A flag set determines which positions it was made of. -/
theorem flagsAt_eq_iff (left right : List (Fin 32)) :
    flagsAt left = flagsAt right ↔ ∀ position, position ∈ left ↔ position ∈ right := by
  constructor
  · intro equal position
    have bits := congrArg (fun set : EventSet => set.getLsbD position) equal
    rw [Bool.eq_iff_iff, getLsbD_flagsAt_iff, getLsbD_flagsAt_iff] at bits
    exact bits
  · intro same
    apply BitVec.eq_of_getLsbD_eq
    intro index bound
    have leftBit := getLsbD_flagsAt_iff left ⟨index, bound⟩
    have rightBit := getLsbD_flagsAt_iff right ⟨index, bound⟩
    rw [Bool.eq_iff_iff, leftBit, rightBit]
    exact same ⟨index, bound⟩

/-- The received set is one given flag exactly when that flag is the only
requested one that is pending. -/
theorem flagsAt_pendingAt_eq_flagAt_iff {pending : EventSet} {positions : List (Fin 32)}
    {position : Fin 32} (distinct : positions.Nodup) :
    flagsAt (pendingAt pending positions) = flagAt position ↔
      pendingAt pending positions = [position] := by
  have single : flagAt position = flagsAt [position] := by simp [flagsAt]
  rw [single, flagsAt_eq_iff]
  have keptDistinct : (pendingAt pending positions).Nodup := distinct.filter _
  constructor
  · intro same
    have perm : (pendingAt pending positions).Perm [position] :=
      (List.perm_ext_iff_of_nodup keptDistinct (List.nodup_singleton position)).mpr same
    exact List.perm_singleton.mp perm
  · intro equal
    simp [equal]

/-! ## Receivers that compare for equality -/

section Receiver

variable {Event P : Type*} {position : Event → Fin 32} {events : List Event}
  {pending received left : EventSet}

/-- A receiver always gets one of the flags it asked for. -/
theorem exists_received (result : rtEventRecv .or (flagsAt (events.map position)) pending =
    some (received, left)) :
    ∃ event ∈ events, received.getLsbD (position event) = true := by
  have some_pending : pendingAt pending (events.map position) ≠ [] := by
    intro none
    have nothing : pending &&& flagsAt (events.map position) = 0 := by
      rw [and_flagsAt, none]
      rfl
    simp [rtEventRecv, nothing] at result
  rcases List.exists_mem_of_ne_nil _ some_pending with ⟨index, member⟩
  have requested : index ∈ events.map position := (List.mem_filter.mp member).1
  rcases List.mem_map.mp requested with ⟨event, eventMem, rfl⟩
  refine ⟨event, eventMem, ?_⟩
  rw [(rtEventRecv_eq_some result).1, and_flagsAt, getLsbD_flagsAt_iff]
  exact member

/-- A receiver that serves a set only when it equals one flag serves everything
it consumes exactly when at most one requested flag is pending. -/
theorem served_iff (injective : Function.Injective position) (distinct : events.Nodup)
    {handle : EventSet → P} {branch : Event → P} {dropped : P}
    (single : ∀ event, handle (flagAt (position event)) = branch event)
    (other : ∀ set, (∀ event, set ≠ flagAt (position event)) → handle set = dropped)
    (differs : ∀ event, branch event ≠ dropped)
    (result : rtEventRecv .or (flagsAt (events.map position)) pending = some (received, left)) :
    (∀ event, received.getLsbD (position event) = true → handle received = branch event) ↔
      (pendingAt pending (events.map position)).length ≤ 1 := by
  have mapped : (events.map position).Nodup := distinct.map injective
  have receivedEq : received = flagsAt (pendingAt pending (events.map position)) := by
    rw [(rtEventRecv_eq_some result).1, and_flagsAt]
  rcases exists_received result with ⟨first, _, firstIn⟩
  constructor
  · intro served
    by_contra several
    have noFlag : ∀ event, received ≠ flagAt (position event) := by
      intro event equal
      rw [receivedEq, flagsAt_pendingAt_eq_flagAt_iff mapped] at equal
      rw [equal] at several
      exact several (Nat.le_refl 1)
    exact differs first ((served first firstIn).symm.trans (other received noFlag))
  · intro few event eventIn
    have member : position event ∈ pendingAt pending (events.map position) := by
      rw [receivedEq, getLsbD_flagsAt_iff] at eventIn
      exact eventIn
    have only : pendingAt pending (events.map position) = [position event] := by
      rcases List.mem_iff_append.mp member with ⟨rest, perm⟩
      rcases perm with ⟨tail, split⟩
      rw [split] at few ⊢
      simp only [List.length_append, List.length_cons] at few
      have noRest : rest = [] := List.eq_nil_of_length_eq_zero (by omega)
      have noTail : tail = [] := List.eq_nil_of_length_eq_zero (by omega)
      rw [noRest, noTail]
      rfl
    have equal : received = flagAt (position event) := by
      rw [receivedEq]
      exact (flagsAt_pendingAt_eq_flagAt_iff mapped).mpr only
    rw [equal]
    exact single event

end Receiver

end BerPiNbiot.Kernel
