import BerPiNbiot.Text.Memory

/-!
# Buffers with checked indexing

A buffer has a size and remembers which of its cells have been stored to.  A store
outside of it and a read of anything that has not been stored are faults.  As long
as no fault occurs the buffer refines a memory without an end: every stored cell
holds the byte that the memory has at its address.
-/

namespace BerPiNbiot.Text

/-- What checked indexing reports. -/
inductive Fault
  | outOfRange (index : Nat)
  | unstored (index : Nat)
  deriving DecidableEq, Repr

/-- The cells of a buffer; `none` has not been stored to. -/
abbrev Buffer (size : Nat) := Vector (Option UInt8) size

variable {size : Nat}

/-- A buffer as it is allocated. -/
def Buffer.fresh (size : Nat) : Buffer size :=
  Vector.replicate size none

/-- One store. -/
def Buffer.store (buffer : Buffer size) (store : Store) : Except Fault (Buffer size) :=
  if inside : store.1 < size then .ok (buffer.set store.1 (some store.2) inside)
  else .error (.outOfRange store.1)

/-- A row of stores, up to the first fault. -/
def Buffer.storeAll (buffer : Buffer size) : List Store → Except Fault (Buffer size)
  | [] => .ok buffer
  | store :: rest =>
      match buffer.store store with
      | .ok next => Buffer.storeAll next rest
      | .error fault => .error fault

/-- One read. -/
def Buffer.read (buffer : Buffer size) (index : Nat) : Except Fault UInt8 :=
  if inside : index < size then
    match buffer[index] with
    | some byte => .ok byte
    | none => .error (.unstored index)
  else .error (.outOfRange index)

/-- The loop of `strlen`, with the number of cells from `index` on. -/
def Buffer.strlenFrom (buffer : Buffer size) (index : Nat) : Nat → Except Fault Nat
  | 0 => .error (.outOfRange index)
  | remaining + 1 =>
      match buffer.read index with
      | .ok byte => if byte = 0 then .ok index else buffer.strlenFrom (index + 1) remaining
      | .error fault => .error fault

/-- `strlen` -/
def Buffer.strlen (buffer : Buffer size) : Except Fault Nat :=
  buffer.strlenFrom 0 size

/-! ## Faults of stores -/

theorem Buffer.storeAll_append (buffer : Buffer size) (first second : List Store) :
    buffer.storeAll (first ++ second) =
      match buffer.storeAll first with
      | .ok next => Buffer.storeAll next second
      | .error fault => .error fault := by
  induction first generalizing buffer with
  | nil => rfl
  | cons store rest ih =>
      rw [List.cons_append, storeAll, storeAll]
      cases buffer.store store with
      | ok next => exact ih next
      | error fault => rfl

/-- Stores inside the buffer are no faults. -/
theorem Buffer.exists_storeAll (buffer : Buffer size) {stores : List Store}
    (inside : ∀ store ∈ stores, store.1 < size) :
    ∃ result, buffer.storeAll stores = .ok result := by
  induction stores generalizing buffer with
  | nil => exact ⟨buffer, rfl⟩
  | cons store rest ih =>
      rw [List.forall_mem_cons] at inside
      rw [storeAll, Buffer.store, dif_pos inside.1]
      exact ih _ inside.2

/-- A text that runs over the end is stopped at the end. -/
theorem Buffer.storeAll_storesAt_of_lt (buffer : Buffer size) {address : Nat} {text : Bytes}
    (start : address ≤ size) (crosses : size < address + text.length) :
    buffer.storeAll (storesAt address text) = .error (.outOfRange size) := by
  induction text generalizing buffer address with
  | nil =>
      rw [List.length_nil] at crosses
      omega
  | cons byte rest ih =>
      rw [storesAt, storeAll, Buffer.store]
      by_cases last : address = size
      · subst last
        rw [dif_neg (Nat.lt_irrefl address)]
      · have inside : address < size := by omega
        rw [dif_pos inside]
        rw [List.length_cons] at crosses
        exact ih _ (by omega) (by omega)

/-! ## What is stored -/

/-- The cell has been stored to. -/
def Buffer.Stored (buffer : Buffer size) (index : Nat) : Prop :=
  ∃ inside : index < size, buffer[index] ≠ none

/-- Stored cells hold the bytes of the memory. -/
def Buffer.Refines (buffer : Buffer size) (memory : Memory) : Prop :=
  ∀ index (inside : index < size), buffer[index] = none ∨ buffer[index] = some (memory index)

theorem Buffer.fresh_refines (memory : Memory) : (Buffer.fresh size).Refines memory := by
  intro index inside
  left
  exact Vector.getElem_replicate inside

theorem Buffer.store_eq_ok {buffer next : Buffer size} {store : Store}
    (stored : buffer.store store = .ok next) :
    ∃ inside : store.1 < size, next = buffer.set store.1 (some store.2) inside := by
  rw [Buffer.store] at stored
  by_cases inside : store.1 < size
  · rw [dif_pos inside] at stored
    cases stored
    exact ⟨inside, rfl⟩
  · rw [dif_neg inside] at stored
    contradiction

theorem Buffer.Refines.store {buffer next : Buffer size} {memory : Memory} {store : Store}
    (refines : buffer.Refines memory) (stored : buffer.store store = .ok next) :
    next.Refines (memory.store store) := by
  rcases Buffer.store_eq_ok stored with ⟨inside, rfl⟩
  intro index within
  rw [Memory.store]
  by_cases same : index = store.1
  · subst same
    right
    rw [if_pos rfl]
    exact Vector.getElem_set_self inside
  · rw [if_neg same, Vector.getElem_set_ne inside within (Ne.symm same)]
    exact refines index within

/-- A store keeps what is stored and adds its own address. -/
theorem Buffer.stored_of_store {buffer next : Buffer size} {store : Store} {index : Nat}
    (stored : buffer.store store = .ok next) (either : index = store.1 ∨ buffer.Stored index) :
    next.Stored index := by
  rcases Buffer.store_eq_ok stored with ⟨inside, rfl⟩
  by_cases same : index = store.1
  · subst same
    refine ⟨inside, ?_⟩
    rw [Vector.getElem_set_self inside]
    exact Option.some_ne_none _
  · rcases either with here | ⟨within, before⟩
    · contradiction
    · refine ⟨within, ?_⟩
      rwa [Vector.getElem_set_ne inside within (Ne.symm same)]

/-- A row of stores without a fault does to the buffer what it does to the memory. -/
theorem Buffer.Refines.storeAll {buffer result : Buffer size} {memory : Memory}
    {stores : List Store} (refines : buffer.Refines memory)
    (stored : buffer.storeAll stores = .ok result) : result.Refines (memory.after stores) := by
  induction stores generalizing buffer memory with
  | nil =>
      cases stored
      exact refines
  | cons store rest ih =>
      rw [Buffer.storeAll] at stored
      cases first : buffer.store store with
      | ok next =>
          rw [first] at stored
          exact ih (refines.store first) stored
      | error fault =>
          rw [first] at stored
          contradiction

theorem Buffer.stored_of_storeAll {buffer result : Buffer size} {stores : List Store}
    {index : Nat} (stored : buffer.storeAll stores = .ok result)
    (either : (∃ store ∈ stores, index = store.1) ∨ buffer.Stored index) : result.Stored index := by
  induction stores generalizing buffer with
  | nil =>
      cases stored
      rcases either with ⟨store, member, _⟩ | before
      · contradiction
      · exact before
  | cons store rest ih =>
      rw [Buffer.storeAll] at stored
      cases first : buffer.store store with
      | ok next =>
          rw [first] at stored
          apply ih stored
          rcases either with ⟨other, member, same⟩ | before
          · rw [List.mem_cons] at member
            rcases member with rfl | later
            · exact .inr (Buffer.stored_of_store first (.inl same))
            · exact .inl ⟨other, later, same⟩
          · exact .inr (Buffer.stored_of_store first (.inr before))
      | error fault =>
          rw [first] at stored
          contradiction

/-! ## Reading -/

/-- A stored cell is read as the memory has it. -/
theorem Buffer.Refines.read {buffer : Buffer size} {memory : Memory} {index : Nat}
    (refines : buffer.Refines memory) (stored : buffer.Stored index) :
    buffer.read index = .ok (memory index) := by
  rcases stored with ⟨inside, some⟩
  rcases refines index inside with none | byte
  · contradiction
  · rw [Buffer.read, dif_pos inside, byte]

/-- The loop of `strlen` stops at the first zero when everything up to it is
stored. -/
theorem Buffer.Refines.strlenFrom {buffer : Buffer size} {memory : Memory} {index length : Nat}
    (refines : buffer.Refines memory) (start : index ≤ length)
    (stored : ∀ place ≤ length, buffer.Stored place)
    (text : ∀ place < length, memory place ≠ 0) (terminated : memory length = 0)
    {remaining : Nat} (room : length < index + remaining) :
    buffer.strlenFrom index remaining = .ok length := by
  induction remaining generalizing index with
  | zero => omega
  | succ remaining ih =>
      rw [Buffer.strlenFrom, refines.read (stored index start)]
      by_cases last : index = length
      · subst last
        exact if_pos terminated
      · have before : index < length := by omega
        simp only [if_neg (text index before)]
        exact ih before (by omega)

theorem Buffer.Refines.strlen {buffer : Buffer size} {memory : Memory} {length : Nat}
    (refines : buffer.Refines memory) (stored : ∀ place ≤ length, buffer.Stored place)
    (text : ∀ place < length, memory place ≠ 0) (terminated : memory length = 0) :
    buffer.strlen = .ok length := by
  rcases stored length le_rfl with ⟨inside, _⟩
  exact refines.strlenFrom (Nat.zero_le length) stored text terminated (by omega)

end BerPiNbiot.Text
