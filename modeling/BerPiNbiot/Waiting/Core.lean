import Mathlib.Data.List.Nodup

/-!
# Units and the parties that wait for them

Parties take units that others give.  A party that finds none waits in a queue, and every
unit that is given wakes the first party of the queue, which then tries again; another party
may have taken the unit by then, and the woken one waits once more.

A wake-up is lost when units lie about while parties wait and none of the parties that have
been woken is still on its way.  `Prompt` is the invariant that excludes it.
-/

namespace BerPiNbiot.Waiting

universe u

/-- Units, the parties that wait for one, and the parties that have been woken and have not
tried again. -/
structure Gate (ι : Type u) where
  units : Nat
  waiting : List ι
  woken : List ι

variable {ι : Type u}

namespace Gate

/-- A unit is given, and the first of the queue is woken. -/
def give (gate : Gate ι) : Gate ι :=
  match gate.waiting with
  | [] => { gate with units := gate.units + 1 }
  | first :: rest => ⟨gate.units + 1, rest, first :: gate.woken⟩

/-- A unit is taken by a party, whether it had been woken or not. -/
def take [DecidableEq ι] (gate : Gate ι) (party : ι) : Gate ι :=
  { gate with units := gate.units - 1, woken := gate.woken.erase party }

/-- A party that has found no unit waits. -/
def wait [DecidableEq ι] (gate : Gate ι) (party : ι) (queue : List ι) : Gate ι :=
  { gate with waiting := queue, woken := gate.woken.erase party }

/-- A party of the queue gives up. -/
def leave [DecidableEq ι] (gate : Gate ι) (party : ι) : Gate ι :=
  { gate with waiting := gate.waiting.erase party }

/-- A party that has been woken gives up. -/
def resign [DecidableEq ι] (gate : Gate ι) (party : ι) : Gate ι :=
  { gate with woken := gate.woken.erase party }

/-- Everybody is sent away. -/
def clear (gate : Gate ι) (units : Nat) : Gate ι :=
  { gate with units := units, waiting := [] }

/-- No wake-up is lost: while parties wait there are as many woken ones as there are units. -/
structure Prompt (gate : Gate ι) : Prop where
  enough : gate.waiting ≠ [] → gate.units ≤ gate.woken.length
  once : gate.waiting.Nodup
  wokenOnce : gate.woken.Nodup
  apart : ∀ party ∈ gate.waiting, party ∉ gate.woken

namespace Prompt

variable {gate : Gate ι} {party : ι}

theorem give (prompt : Prompt gate) : Prompt gate.give := by
  unfold Gate.give
  cases queue : gate.waiting with
  | nil =>
      exact ⟨fun waits => absurd rfl waits, List.nodup_nil, prompt.wokenOnce,
        fun _ member => absurd member List.not_mem_nil⟩
  | cons first rest =>
      have once := prompt.once
      rw [queue, List.nodup_cons] at once
      have apart := prompt.apart
      rw [queue] at apart
      have enough := prompt.enough (by simp [queue])
      refine ⟨fun _ => Nat.succ_le_succ enough, once.2, ?_, ?_⟩
      · exact List.nodup_cons.mpr ⟨apart first List.mem_cons_self, prompt.wokenOnce⟩
      · intro other member
        rw [List.mem_cons, not_or]
        refine ⟨?_, apart other (List.mem_cons_of_mem _ member)⟩
        rintro rfl
        exact once.1 member

variable [DecidableEq ι]

theorem take (prompt : Prompt gate) (some_unit : 0 < gate.units) :
    Prompt (gate.take party) where
  enough := by
    intro waits
    have enough := prompt.enough waits
    have fewer : gate.woken.length ≤ (gate.woken.erase party).length + 1 := by
      rw [List.length_erase]
      split <;> omega
    change gate.units - 1 ≤ (gate.woken.erase party).length
    omega
  once := prompt.once
  wokenOnce := prompt.wokenOnce.erase party
  apart := fun other member woken => prompt.apart other member (List.mem_of_mem_erase woken)

theorem wait (prompt : Prompt gate) {queue : List ι} (none_left : gate.units = 0)
    (once : queue.Nodup) (members : ∀ other ∈ queue, other = party ∨ other ∈ gate.waiting) :
    Prompt (gate.wait party queue) where
  enough := fun _ => none_left ▸ Nat.zero_le _
  once := once
  wokenOnce := prompt.wokenOnce.erase party
  apart := by
    intro other member woken
    rcases members other member with rfl | before
    · exact (prompt.wokenOnce.mem_erase_iff.mp woken).1 rfl
    · exact prompt.apart other before (List.mem_of_mem_erase woken)

theorem leave (prompt : Prompt gate) : Prompt (gate.leave party) where
  enough := by
    intro waits
    apply prompt.enough
    intro empty
    change gate.waiting.erase party ≠ [] at waits
    rw [empty] at waits
    exact waits rfl
  once := prompt.once.erase party
  wokenOnce := prompt.wokenOnce
  apart := fun other member => prompt.apart other (List.mem_of_mem_erase member)

theorem resign (prompt : Prompt gate) (none_left : gate.units = 0) :
    Prompt (gate.resign party) where
  enough := fun _ => none_left ▸ Nat.zero_le _
  once := prompt.once
  wokenOnce := prompt.wokenOnce.erase party
  apart := fun other member woken => prompt.apart other member (List.mem_of_mem_erase woken)

omit [DecidableEq ι] in
/-- Units are taken by a party that does not wait for them. -/
theorem fewer (prompt : Prompt gate) {units : Nat} (less : units ≤ gate.units) :
    Prompt { gate with units := units } :=
  ⟨fun waits => Nat.le_trans less (prompt.enough waits), prompt.once, prompt.wokenOnce,
    prompt.apart⟩

omit [DecidableEq ι] in
theorem clear (prompt : Prompt gate) (units : Nat) : Prompt (gate.clear units) where
  enough := fun waits => absurd rfl waits
  once := List.nodup_nil
  wokenOnce := prompt.wokenOnce
  apart := fun _ member => absurd member List.not_mem_nil

end Prompt

end Gate

end BerPiNbiot.Waiting
