import BerPiNbiot.Modem.Hex
import BerPiNbiot.Text.Buffer

/-!
# The buffer of the hex coded payload

`qsdk_mqtt_pub_stream` allocates two bytes for every byte of the message and leaves
the stores to `string_to_hex`.  Each turn of the loop stores two digits, and
`rt_sprintf` stores a terminator behind them.  The terminators of the earlier turns
are overwritten by the next digits; the last one stands behind the buffer.

The stores are replayed on a buffer with checked indexing, followed by the
`strlen(str)` of the command, for every size the buffer could have.
-/

namespace BerPiNbiot.Modem

open BerPiNbiot.Text

/-! ## The caller -/

/-- A non-empty C string in the 32-bit address space. -/
structure Message where
  text : Bytes
  nonempty : text ≠ []
  noNul : (0 : UInt8) ∉ text
  addressable : text.length < 4294967296

/-- `strlen(mesg)` -/
def Message.length (message : Message) : Nat :=
  message.text.length

/-- The bytes behind `mesg`, with the terminator. -/
def Message.memory (message : Message) : Memory :=
  fun place => message.text.getD place 0

/-- A number as an `rt_size_t`. -/
def toSize (number : Nat) : Nat :=
  number % 4294967296

/-- A number as the `int` that `string_to_hex` receives. -/
def toInt (number : Nat) : Int :=
  Int.bmod number 4294967296

/-- The size of the allocation a program starts with. -/
def firstMalloc {α : Type} : Code α → Option Nat
  | .call (.malloc size) _ => some (toSize size)
  | _ => none

/-- The outcome of `string_to_hex` and the `strlen(str)` behind it on a buffer of the
given size; `none` is `RT_ERROR`, after which `str` is not read. -/
def replay (size : Nat) : Option (List Store) → Except Fault (Option Nat)
  | none => .ok none
  | some stores =>
      match (Buffer.fresh size).storeAll stores with
      | .ok str =>
          match str.strlen with
          | .ok length => .ok (some length)
          | .error fault => .error fault
      | .error fault => .error fault

/-- `string_to_hex(mesg, strlen(mesg), str)` -/
def encode (message : Message) : Option (List Store) :=
  stringToHexAt (some message.memory) (toInt message.length) (some 0)

/-- The encoder stays inside a buffer of the given size: all its stores do, and
neither they nor the reads of `strlen` are faults of checked indexing. -/
structure StaysInside (size : Nat) (message : Message) : Prop where
  stores : ∀ stores, encode message = some stores → ∀ store ∈ stores, store.1 < size
  noFault : ∀ fault, replay size (encode message) ≠ .error fault

/-! ## The stores of the loop -/

theorem Message.length_pos (message : Message) : 0 < message.length :=
  List.length_pos_of_ne_nil message.nonempty

/-- One turn stores two digits and a terminator. -/
theorem hexStores_succ (pString : Memory) (i : Nat) :
    hexStores pString 0 (i + 1) = hexStores pString 0 i ++
      storesAt (2 * i) [hexDigit (pString i / 16), hexDigit (pString i % 16), 0] := by
  rw [hexStores, printNumber_byte, Nat.zero_add, Nat.mul_comm i 2]
  rfl

/-- The turns of the loop store to all addresses up to their last terminator and to
no others. -/
theorem address_hexStores_iff (pString : Memory) (i index : Nat) :
    (∃ store ∈ hexStores pString 0 i, index = store.1) ↔ 0 < i ∧ index ≤ 2 * i := by
  induction i with
  | zero => simp [hexStores]
  | succ i ih =>
      have turn : (∃ store ∈ storesAt (2 * i)
            [hexDigit (pString i / 16), hexDigit (pString i % 16), 0], index = store.1) ↔
          index = 2 * i ∨ index = 2 * i + 1 ∨ index = 2 * i + 2 := by
        simp [storesAt]
      rw [hexStores_succ]
      simp only [List.mem_append, or_and_right, exists_or]
      rw [ih, turn]
      omega

theorem hexStores_lt {pString : Memory} {i size : Nat} (room : 0 < i → 2 * i < size) :
    ∀ store ∈ hexStores pString 0 i, store.1 < size := by
  intro store member
  rcases (address_hexStores_iff pString i store.1).mp ⟨store, member, rfl⟩ with ⟨positive, bound⟩
  exact Nat.lt_of_le_of_lt bound (room positive)

/-- A buffer without room for the last terminator is left at its end. -/
theorem storeAll_hexStores_of_le (pString : Memory) {i size : Nat} (positive : 0 < i)
    (short : size ≤ 2 * i) (buffer : Buffer size) :
    buffer.storeAll (hexStores pString 0 i) = .error (.outOfRange size) := by
  induction i with
  | zero => contradiction
  | succ i ih =>
      rw [hexStores_succ, Buffer.storeAll_append]
      by_cases earlier : 0 < i ∧ size ≤ 2 * i
      · rw [ih earlier.1 earlier.2]
      · -- the earlier turns stay inside, and this one crosses the end
        have start : 2 * i ≤ size := by omega
        have crosses : size < 2 * i + 3 := by omega
        have inside : ∀ store ∈ hexStores pString 0 i, store.1 < size :=
          hexStores_lt fun _ => by omega
        rcases buffer.exists_storeAll inside with ⟨next, stored⟩
        rw [stored]
        exact Buffer.storeAll_storesAt_of_lt next start crosses

/-- A buffer with room for the last terminator holds the digits of the text. -/
theorem strlen_hexStores (pString : Memory) {i size : Nat} (positive : 0 < i)
    (room : 2 * i < size) :
    ∃ str, (Buffer.fresh size).storeAll (hexStores pString 0 i) = .ok str ∧
      str.strlen = .ok (2 * i) := by
  rcases (Buffer.fresh size).exists_storeAll (hexStores_lt fun _ => room) with ⟨str, stored⟩
  let memory : Memory := fun _ => 0
  rcases after_hexStores memory pString i with ⟨digits, terminated⟩
  have refines : str.Refines (memory.after (hexStores pString 0 i)) :=
    (Buffer.fresh_refines memory).storeAll stored
  refine ⟨str, stored, refines.strlen ?_ ?_ (terminated positive)⟩
  · intro place within
    apply Buffer.stored_of_storeAll stored
    left
    exact (address_hexStores_iff pString i place).mpr ⟨positive, within⟩
  · intro place within zero
    have member := @Memory.mem_load (memory.after (hexStores pString 0 i)) 0 (2 * i) place
      (Nat.zero_le place) (by omega)
    rw [digits, zero] at member
    have digit := isUpperHex_of_mem_stringToHex member
    contradiction

/-! ## The size of the buffer -/

theorem toInt_of_lt {number : Nat} (small : number < 2147483648) : toInt number = number := by
  unfold toInt
  exact Int.bmod_eq_of_le (by omega) (by omega)

theorem toInt_neg {number : Nat} (large : 2147483648 ≤ number) (size : number < 4294967296) :
    toInt number < 0 := by
  unfold toInt
  rw [Int.bmod_def]
  omega

theorem stringToHexAt_of_nonpos {len : Int} (nonpos : len ≤ 0) (pString : Memory) :
    stringToHexAt (some pString) len (some 0) = none :=
  if_pos nonpos

/-- Where the length of the message is no `int`, `len` is negative. -/
theorem encode_of_large (message : Message) (large : 2147483648 ≤ message.length) :
    encode message = none :=
  stringToHexAt_of_nonpos (Int.le_of_lt (toInt_neg large message.addressable)) _

theorem encode_of_small (message : Message) (small : message.length < 2147483648) :
    encode message = some (hexStores message.memory 0 message.length) := by
  unfold encode
  rw [toInt_of_lt small]
  exact stringToHexAt_of_pos message.length_pos message.memory

/-- The encoder needs one byte more than its digits. -/
theorem replay_of_small (message : Message) (small : message.length < 2147483648) (size : Nat) :
    replay size (encode message) =
      if 2 * message.length < size then .ok (some (2 * message.length))
      else .error (.outOfRange size) := by
  rw [encode_of_small message small, replay]
  by_cases room : 2 * message.length < size
  · rcases strlen_hexStores message.memory message.length_pos room with ⟨str, stored, measured⟩
    simp only [stored, measured, if_pos room]
  · have short : size ≤ 2 * message.length := Nat.le_of_not_lt room
    simp only [storeAll_hexStores_of_le _ message.length_pos short, if_neg room]

theorem firstMalloc_qsdkMqttPubStream (message : Message) (qos : Int) :
    firstMalloc (qsdkMqttPubStream message.text qos) = some (toSize (message.length * 2)) :=
  rfl

/-- The encoder stays inside the buffer that `qsdk_mqtt_pub_stream` allocates for it
only where the length of the message is no `int` and nothing is encoded. -/
theorem staysInside_allocated_iff (message : Message) (qos : Int) :
    (∃ size, firstMalloc (qsdkMqttPubStream message.text qos) = some size ∧
        StaysInside size message) ↔
      2147483648 ≤ message.length := by
  rw [firstMalloc_qsdkMqttPubStream]
  constructor
  · rintro ⟨size, allocated, inside⟩
    by_contra small
    have fits : message.length < 2147483648 := Nat.lt_of_not_le small
    have doubled : toSize (message.length * 2) = 2 * message.length := by
      unfold toSize
      omega
    rw [doubled, Option.some.injEq] at allocated
    have faults := replay_of_small message fits size
    rw [if_neg (by omega)] at faults
    exact inside.noFault _ faults
  · intro large
    have silent := encode_of_large message large
    refine ⟨_, rfl, ?_, ?_⟩
    · intro stores returned
      rw [silent] at returned
      cases returned
    · intro fault faulted
      rw [silent, replay] at faulted
      cases faulted

theorem zero_notMem_letterA : (0 : UInt8) ∉ ([65] : Bytes) := by
  decide

theorem letterA_addressable : ([65] : Bytes).length < 4294967296 := by
  decide

/-- The message `A`. -/
def letterA : Message where
  text := [65]
  nonempty := List.cons_ne_nil 65 []
  noNul := zero_notMem_letterA
  addressable := letterA_addressable

theorem letterA_leaves_buffer :
    firstMalloc (qsdkMqttPubStream letterA.text 1) = some 2 ∧
      encode letterA = some [(0, 52), (1, 49), (2, 0)] ∧
      replay 2 (encode letterA) = .error (.outOfRange 2) ∧
      ¬ ∃ size, firstMalloc (qsdkMqttPubStream letterA.text 1) = some size ∧
        StaysInside size letterA := by
  have encoded : encode letterA = some [(0, 52), (1, 49), (2, 0)] := by decide +kernel
  have faults : replay 2 (encode letterA) = .error (.outOfRange 2) := by
    rw [encoded]
    decide +kernel
  refine ⟨rfl, encoded, faults, ?_⟩
  rintro ⟨size, allocated, inside⟩
  have two : some 2 = some size := allocated
  cases two
  exact inside.noFault _ faults

end BerPiNbiot.Modem
