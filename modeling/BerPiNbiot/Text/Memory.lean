import BerPiNbiot.Text.Search

/-!
# Byte memory

A buffer is a memory addressed from its start.  What a function does to it is the
list of its single-byte stores in order, so that the addresses it touches can be
inspected as well as the bytes it leaves behind.  The memory has no end: whether a
store stays inside a buffer is a property of its address.
-/

namespace BerPiNbiot.Text

/-- The bytes behind an address. -/
abbrev Memory := Nat → UInt8

/-- An address and the byte stored to it. -/
abbrev Store := Nat × UInt8

/-- The memory after one store. -/
def Memory.store (memory : Memory) (store : Store) : Memory :=
  fun address => if address = store.1 then store.2 else memory address

/-- The memory after a row of stores. -/
def Memory.after (memory : Memory) (stores : List Store) : Memory :=
  stores.foldl Memory.store memory

/-- The stores that put a text behind an address. -/
def storesAt (address : Nat) : Bytes → List Store
  | [] => []
  | byte :: rest => (address, byte) :: storesAt (address + 1) rest

/-- The bytes from an address on. -/
def Memory.load (memory : Memory) (address : Nat) : Nat → Bytes
  | 0 => []
  | count + 1 => memory address :: memory.load (address + 1) count

/-- The stores of `sprintf`: the text and its terminator. -/
def sprintfAt (address : Nat) (text : Bytes) : List Store :=
  storesAt address (text ++ [0])

/-- The stores of `memset`. -/
def memsetAt (address : Nat) (byte : UInt8) (count : Nat) : List Store :=
  storesAt address (List.replicate count byte)

theorem Memory.after_append (memory : Memory) (first second : List Store) :
    memory.after (first ++ second) = (memory.after first).after second :=
  List.foldl_append

@[simp]
theorem Memory.length_load (memory : Memory) (address count : Nat) :
    (memory.load address count).length = count := by
  induction count generalizing address with
  | zero => rfl
  | succ count ih => rw [load, List.length_cons, ih]

theorem Memory.mem_load {memory : Memory} {address count place : Nat} (low : address ≤ place)
    (high : place < address + count) : memory place ∈ memory.load address count := by
  induction count generalizing address with
  | zero => omega
  | succ count ih =>
      rw [load, List.mem_cons]
      by_cases first : place = address
      · left
        rw [first]
      · right
        exact ih (by omega) (by omega)

theorem Memory.load_add (memory : Memory) (address first second : Nat) :
    memory.load address (first + second) =
      memory.load address first ++ memory.load (address + first) second := by
  induction first generalizing address with
  | zero => rw [Nat.zero_add, load, List.nil_append, Nat.add_zero]
  | succ first ih =>
      rw [Nat.add_right_comm, load, load, ih, List.cons_append, Nat.add_assoc, Nat.add_comm 1]

theorem Memory.load_congr {memory other : Memory} {address count : Nat}
    (same : ∀ place, address ≤ place → place < address + count → memory place = other place) :
    memory.load address count = other.load address count := by
  induction count generalizing address with
  | zero => rfl
  | succ count ih =>
      rw [load, load, same address le_rfl (by omega)]
      congr 1
      apply ih
      intro place low high
      exact same place (by omega) (by omega)

/-- The bytes of a memory that is constant on the loaded addresses. -/
theorem Memory.load_replicate {memory : Memory} {address count : Nat} {byte : UInt8}
    (same : ∀ place, address ≤ place → place < address + count → memory place = byte) :
    memory.load address count = List.replicate count byte := by
  induction count generalizing address with
  | zero => rfl
  | succ count ih =>
      rw [load, same address le_rfl (by omega), List.replicate_succ]
      congr 1
      apply ih
      intro place low high
      exact same place (by omega) (by omega)

/-- The stores of a text touch the addresses of its bytes and no others. -/
theorem mem_storesAt_bounds {address : Nat} {text : Bytes} {store : Store}
    (member : store ∈ storesAt address text) :
    address ≤ store.1 ∧ store.1 < address + text.length := by
  induction text generalizing address with
  | nil => contradiction
  | cons byte rest ih =>
      rw [storesAt, List.mem_cons] at member
      rw [List.length_cons]
      rcases member with rfl | later
      · exact ⟨le_rfl, Nat.lt_add_of_pos_right (Nat.succ_pos _)⟩
      · have bounds := ih later
        omega

/-- Addresses outside the stores keep their bytes. -/
theorem Memory.after_of_notMem {memory : Memory} {stores : List Store} {place : Nat}
    (outside : ∀ store ∈ stores, store.1 ≠ place) : memory.after stores place = memory place := by
  induction stores generalizing memory with
  | nil => rfl
  | cons store rest ih =>
      rw [List.forall_mem_cons] at outside
      have later := @ih (memory.store store) outside.2
      rw [after, List.foldl_cons]
      rw [after] at later
      rw [later, Memory.store, if_neg outside.1.symm]

theorem Memory.after_storesAt_of_lt {memory : Memory} {address place : Nat} (text : Bytes)
    (below : place < address) : memory.after (storesAt address text) place = memory place := by
  apply after_of_notMem
  intro store member same
  have bounds := mem_storesAt_bounds member
  omega

theorem Memory.after_storesAt_of_le {memory : Memory} {address place : Nat} {text : Bytes}
    (above : address + text.length ≤ place) :
    memory.after (storesAt address text) place = memory place := by
  apply after_of_notMem
  intro store member same
  have bounds := mem_storesAt_bounds member
  omega

/-- What has been stored is loaded. -/
theorem Memory.load_after_storesAt (memory : Memory) (address : Nat) (text : Bytes) :
    (memory.after (storesAt address text)).load address text.length = text := by
  induction text generalizing memory address with
  | nil => rfl
  | cons byte rest ih =>
      have split : memory.after (storesAt address (byte :: rest)) =
          (memory.store (address, byte)).after (storesAt (address + 1) rest) := rfl
      have first : (memory.store (address, byte)).after (storesAt (address + 1) rest) address =
          byte := by
        rw [after_storesAt_of_lt rest (Nat.lt_succ_self address), Memory.store, if_pos rfl]
      rw [split, List.length_cons, load, first, ih]

/-- The terminator stands behind the text. -/
theorem Memory.after_sprintfAt (memory : Memory) (address : Nat) (text : Bytes) :
    (memory.after (sprintfAt address text)).load address text.length = text ∧
      memory.after (sprintfAt address text) (address + text.length) = 0 := by
  have whole := memory.load_after_storesAt address (text ++ [0])
  rw [List.length_append, load_add] at whole
  have parts := List.append_inj whole (by rw [length_load])
  refine ⟨parts.1, ?_⟩
  have last := parts.2
  rw [List.length_singleton, load, load] at last
  exact (List.cons.inj last).1

theorem Memory.after_memsetAt {memory : Memory} {address count place : Nat} {byte : UInt8}
    (low : address ≤ place) (high : place < address + count) :
    memory.after (memsetAt address byte count) place = byte := by
  have bytes := memory.load_after_storesAt address (List.replicate count byte)
  rw [List.length_replicate] at bytes
  have member := @Memory.mem_load (memory.after (memsetAt address byte count)) _ _ _ low high
  rw [memsetAt, bytes] at member
  exact List.eq_of_mem_replicate member

/-- A text printed into a cleared buffer is followed by zeros. -/
theorem Memory.load_sprintf_cleared (memory : Memory) {size : Nat} {text : Bytes}
    (fits : text.length + 1 ≤ size) :
    (memory.after (memsetAt 0 0 size ++ sprintfAt 0 text)).load 0 (size - 1) =
      text ++ List.replicate (size - 1 - text.length) 0 := by
  rcases (memory.after (memsetAt 0 0 size)).after_sprintfAt 0 text with ⟨stored, terminated⟩
  rw [Nat.zero_add] at terminated
  have split : size - 1 = text.length + (size - 1 - text.length) := by omega
  rw [after_append, split, load_add, stored, Nat.zero_add, Nat.add_sub_cancel_left]
  congr 1
  apply load_replicate
  intro place low high
  by_cases terminator : place = text.length
  · rw [terminator]
    exact terminated
  · have behind : 0 + (text ++ [0]).length ≤ place := by
      rw [List.length_append, List.length_singleton]
      omega
    rw [sprintfAt, after_storesAt_of_le behind]
    exact after_memsetAt (Nat.zero_le place) (by omega)

end BerPiNbiot.Text
