import BerPiNbiot.Text.Word

/-!
# Memory and string services

`rt_memset` and `rt_memcpy` work on words when the addresses are aligned and the
block is long enough, and finish with single bytes.  `rt_memmove` chooses its
direction by the overlap.  What a copy should do is said once, by `Memory.copied`:
the target receives the bytes that the source held before.

Lengths are below `2^31`, where the `int len` of `rt_memcpy` is the count.
-/

namespace BerPiNbiot.Kernel

open BerPiNbiot.Text

/-! ## `rt_memset` -/

/-- The state of the loops of `rt_memset`. -/
structure Fill where
  memory : Memory
  address : Nat
  count : Nat

/-- `*aligned_addr++ = buffer`, with its part of the count. -/
def Fill.word (buffer : Nat) (fill : Fill) : Fill where
  memory := fill.memory.setWord fill.address 4 buffer
  address := fill.address + 4
  count := fill.count - 4

/-- The loop over four words at a time. -/
def Fill.big (buffer : Nat) (fill : Fill) : Fill :=
  if 16 ≤ fill.count then
    Fill.big buffer (((((fill.word buffer).word buffer).word buffer).word buffer))
  else fill
termination_by fill.count
decreasing_by
  simp only [Fill.word]
  omega

/-- The loop over single words. -/
def Fill.little (buffer : Nat) (fill : Fill) : Fill :=
  if 4 ≤ fill.count then Fill.little buffer (fill.word buffer) else fill
termination_by fill.count
decreasing_by
  simp only [Fill.word]
  omega

/-- The bytewise loop. -/
def fillBytes (memory : Memory) (address : Nat) (byte : UInt8) : Nat → Memory
  | 0 => memory
  | count + 1 => fillBytes (memory.store (address, byte)) (address + 1) byte count

/-- The word that has the byte in each of its places. -/
def fillBuffer (byte : UInt8) : Nat :=
  let buffer := byte.toNat * 256 + byte.toNat
  buffer + buffer * 65536

/-- `rt_memset` -/
def rtMemset (memory : Memory) (s : Nat) (c : UInt8) (count : Nat) : Memory :=
  if 4 ≤ count ∧ s % 4 = 0 then
    let rest := ((Fill.mk memory s count).big (fillBuffer c)).little (fillBuffer c)
    fillBytes rest.memory rest.address c rest.count
  else fillBytes memory s c count

/-! ## `rt_memcpy` and `rt_memmove` -/

/-- The state of the loops of `rt_memcpy`. -/
structure Copy where
  memory : Memory
  dst : Nat
  src : Nat
  len : Nat

/-- `*aligned_dst++ = *aligned_src++`, with its part of the length. -/
def Copy.word (copy : Copy) : Copy where
  memory := copy.memory.setWord copy.dst 4 (copy.memory.word copy.src 4)
  dst := copy.dst + 4
  src := copy.src + 4
  len := copy.len - 4

/-- The loop over four words at a time. -/
def Copy.big (copy : Copy) : Copy :=
  if 16 ≤ copy.len then Copy.big copy.word.word.word.word else copy
termination_by copy.len
decreasing_by
  simp only [Copy.word]
  omega

/-- The loop over single words. -/
def Copy.little (copy : Copy) : Copy :=
  if 4 ≤ copy.len then Copy.little copy.word else copy
termination_by copy.len
decreasing_by
  simp only [Copy.word]
  omega

/-- The bytewise loop, upwards. -/
def copyUp (memory : Memory) (dst src : Nat) : Nat → Memory
  | 0 => memory
  | len + 1 => copyUp (memory.store (dst, memory src)) (dst + 1) (src + 1) len

/-- `rt_memcpy` -/
def rtMemcpy (memory : Memory) (dst src count : Nat) : Memory :=
  if 16 ≤ count ∧ src % 4 = 0 ∧ dst % 4 = 0 then
    let rest := (Copy.mk memory dst src count).big.little
    copyUp rest.memory rest.dst rest.src rest.len
  else copyUp memory dst src count

/-- The bytewise loop, downwards. -/
def copyDown (memory : Memory) (dst src : Nat) : Nat → Memory
  | 0 => memory
  | n + 1 => copyDown (memory.store (dst + n, memory (src + n))) dst src n

/-- `rt_memmove` -/
def rtMemmove (memory : Memory) (dest src n : Nat) : Memory :=
  if src < dest ∧ dest < src + n then copyDown memory dest src n else copyUp memory dest src n

/-! ## What they should do -/

/-- The target holds what the source held. -/
def copied (memory : Memory) (dst src count : Nat) : Memory :=
  memory.after (storesAt dst (memory.load src count))

theorem load_getD (memory : Memory) (address : Nat) {count index : Nat} (small : index < count) :
    (memory.load address count).getD index 0 = memory (address + index) := by
  induction count generalizing address index with
  | zero => contradiction
  | succ count ih =>
      cases index with
      | zero => rfl
      | succ index =>
          rw [Memory.load, List.getD_cons_succ, ih (address + 1) (by omega)]
          congr 1
          omega

theorem after_storesAt_inside (memory : Memory) {address place : Nat} {text : Bytes}
    (low : address ≤ place) (high : place < address + text.length) :
    memory.after (storesAt address text) place = text.getD (place - address) 0 := by
  induction text generalizing memory address with
  | nil =>
      rw [List.length_nil] at high
      omega
  | cons byte rest ih =>
      have split : memory.after (storesAt address (byte :: rest)) =
          (memory.store (address, byte)).after (storesAt (address + 1) rest) := rfl
      rw [split]
      by_cases first : place = address
      · subst first
        rw [Memory.after_storesAt_of_lt rest (Nat.lt_succ_self place), Memory.store, if_pos rfl,
          Nat.sub_self]
        rfl
      · rw [List.length_cons] at high
        have shift : place - address = (place - (address + 1)) + 1 := by omega
        rw [ih _ (by omega) (by omega), shift, List.getD_cons_succ]

/-- A copy, place by place. -/
theorem copied_apply (memory : Memory) (dst src count place : Nat) :
    copied memory dst src count place =
      if dst ≤ place ∧ place < dst + count then memory (src + (place - dst)) else memory place := by
  by_cases inside : dst ≤ place ∧ place < dst + count
  · rw [if_pos inside, copied, after_storesAt_inside memory inside.1]
    · exact load_getD memory src (by omega)
    · rw [Memory.length_load]
      exact inside.2
  · rw [if_neg inside, copied]
    by_cases below : place < dst
    · exact Memory.after_storesAt_of_lt _ below
    · apply Memory.after_storesAt_of_le
      rw [Memory.length_load]
      omega

/-! ## The word loops -/

theorem wordBytes_word (memory : Memory) (address width : Nat) :
    wordBytes width (memory.word address width) = memory.load address width := by
  induction width generalizing address with
  | zero => rfl
  | succ width ih =>
      have low := (memory address).toNat_lt
      have quotient : ((memory address).toNat + 256 * memory.word (address + 1) width) / 256 =
          memory.word (address + 1) width := by
        omega
      have byte : UInt8.ofNat ((memory address).toNat + 256 * memory.word (address + 1) width) =
          memory address := by
        apply UInt8.toNat_inj.mp
        rw [UInt8.toNat_ofNat']
        omega
      rw [Memory.word, wordBytes, quotient, byte, ih, Memory.load]

/-- The source is not overwritten before it is read. -/
def Forward (dst src count : Nat) : Prop :=
  dst ≤ src ∨ src + count ≤ dst

/-- What a loop of `rt_memcpy` still has to do. -/
def Copy.rest (copy : Copy) : Memory :=
  copied copy.memory copy.dst copy.src copy.len

/-- A copy can be made in two parts, the lower one first. -/
theorem copied_add (memory : Memory) {dst src first second : Nat}
    (forward : Forward dst src (first + second)) :
    copied (copied memory dst src first) (dst + first) (src + first) second =
      copied memory dst src (first + second) := by
  funext place
  simp only [copied_apply, Forward] at forward ⊢
  split_ifs <;> first | rfl | omega | (congr 1; omega)

theorem Copy.rest_word {copy : Copy} (enough : 4 ≤ copy.len)
    (forward : Forward copy.dst copy.src copy.len) :
    copy.word.rest = copy.rest ∧ Forward copy.word.dst copy.word.src copy.word.len := by
  have total : 4 + (copy.len - 4) = copy.len := by omega
  have first : copy.memory.setWord copy.dst 4 (copy.memory.word copy.src 4) =
      copied copy.memory copy.dst copy.src 4 := by
    rw [Memory.setWord, wordBytes_word, copied]
  constructor
  · have whole := copied_add copy.memory (by rw [total]; exact forward)
    rw [total] at whole
    rw [rest, rest, word, first]
    exact whole
  · simp only [word, Forward] at forward ⊢
    omega

theorem Copy.rest_big (copy : Copy) (forward : Forward copy.dst copy.src copy.len) :
    copy.big.rest = copy.rest ∧ Forward copy.big.dst copy.big.src copy.big.len := by
  induction copy using Copy.big.induct with
  | case1 copy enough ih =>
      have one := Copy.rest_word (by omega) forward
      have two := Copy.rest_word (by simp only [word]; omega) one.2
      have three := Copy.rest_word (by simp only [word]; omega) two.2
      have four := Copy.rest_word (by simp only [word]; omega) three.2
      rw [Copy.big, if_pos enough]
      have later := ih four.2
      rw [later.1, four.1, three.1, two.1, one.1]
      exact ⟨rfl, later.2⟩
  | case2 copy short =>
      rw [Copy.big, if_neg short]
      exact ⟨rfl, forward⟩

theorem Copy.rest_little (copy : Copy) (forward : Forward copy.dst copy.src copy.len) :
    copy.little.rest = copy.rest ∧ Forward copy.little.dst copy.little.src copy.little.len := by
  induction copy using Copy.little.induct with
  | case1 copy enough ih =>
      have one := Copy.rest_word enough forward
      rw [Copy.little, if_pos enough]
      have later := ih one.2
      rw [later.1, one.1]
      exact ⟨rfl, later.2⟩
  | case2 copy short =>
      rw [Copy.little, if_neg short]
      exact ⟨rfl, forward⟩

/-! ## The byte loops -/

theorem copyUp_eq_copied (memory : Memory) {dst src len : Nat} (forward : Forward dst src len) :
    copyUp memory dst src len = copied memory dst src len := by
  induction len generalizing memory dst src with
  | zero => rfl
  | succ len ih =>
      have first : memory.store (dst, memory src) = copied memory dst src 1 := rfl
      have rest : Forward (dst + 1) (src + 1) len := by
        simp only [Forward] at forward ⊢
        omega
      rw [copyUp, ih _ rest, first, copied_add memory (by rw [Nat.add_comm]; exact forward),
        Nat.add_comm]

theorem copyDown_apply (memory : Memory) {dst src : Nat} (above : src ≤ dst) (n place : Nat) :
    copyDown memory dst src n place =
      if dst ≤ place ∧ place < dst + n then memory (src + (place - dst)) else memory place := by
  induction n generalizing memory with
  | zero =>
      rw [if_neg (by omega)]
      rfl
  | succ n ih =>
      rw [copyDown, ih]
      simp only [Memory.store]
      split_ifs <;> first | rfl | omega | (congr 1; omega)

/-- Block copies.  `rt_memcpy` copies when the target does not begin inside the source,
through whatever loops the alignment selects, and `rt_memmove` copies always. -/
theorem block_copies (memory : Memory) (dst src count : Nat) :
    (Forward dst src count → rtMemcpy memory dst src count = copied memory dst src count) ∧
      rtMemmove memory dst src count = copied memory dst src count := by
  constructor
  · intro forward
    unfold rtMemcpy
    split
    · have big := Copy.rest_big ⟨memory, dst, src, count⟩ forward
      have little := Copy.rest_little _ big.2
      simp only
      rw [copyUp_eq_copied _ little.2]
      exact little.1.trans big.1
    · exact copyUp_eq_copied memory forward
  · unfold rtMemmove
    split
    · rename_i overlaps
      funext place
      rw [copyDown_apply memory (Nat.le_of_lt overlaps.1), copied_apply]
    · rename_i clear
      apply copyUp_eq_copied
      simp only [Forward]
      omega

/-! ## Filling -/

/-- What a loop of `rt_memset` still has to do. -/
def Fill.rest (byte : UInt8) (fill : Fill) : Memory :=
  fill.memory.after (memsetAt fill.address byte fill.count)

theorem storesAt_append (address : Nat) (first second : Bytes) :
    storesAt address (first ++ second) =
      storesAt address first ++ storesAt (address + first.length) second := by
  induction first generalizing address with
  | nil => rfl
  | cons byte rest ih =>
      rw [List.cons_append, storesAt, storesAt, ih, List.cons_append, List.length_cons,
        Nat.add_assoc, Nat.add_comm 1]

theorem memsetAt_add (address : Nat) (byte : UInt8) (first second : Nat) :
    memsetAt address byte (first + second) =
      memsetAt address byte first ++ memsetAt (address + first) byte second := by
  rw [memsetAt, memsetAt, memsetAt, ← List.replicate_append_replicate, storesAt_append,
    List.length_replicate]

theorem fill_quotients {byte : Nat} (small : byte < 256) :
    byte * 16843009 / 256 = byte * 65793 ∧ byte * 65793 / 256 = byte * 257 ∧
      byte * 257 / 256 = byte := by
  omega

theorem wordBytes_fillBuffer (byte : UInt8) :
    wordBytes 4 (fillBuffer byte) = List.replicate 4 byte := by
  have places : fillBuffer byte = byte.toNat * 16843009 := by
    simp only [fillBuffer]
    omega
  obtain ⟨second, third, fourth⟩ := fill_quotients byte.toNat_lt
  have same (value : Nat) (low : value % 256 = byte.toNat) : UInt8.ofNat value = byte := by
    apply UInt8.toNat_inj.mp
    rw [UInt8.toNat_ofNat']
    exact low
  have small := byte.toNat_lt
  simp only [wordBytes, places, second, third, fourth, List.replicate]
  rw [same _ (by omega), same _ (by omega), same _ (by omega), same _ (by omega)]

theorem Fill.rest_word {byte : UInt8} {fill : Fill} (enough : 4 ≤ fill.count) :
    (fill.word (fillBuffer byte)).rest byte = fill.rest byte := by
  have total : 4 + (fill.count - 4) = fill.count := by omega
  rw [rest, rest, ← total, memsetAt_add, Memory.after_append, word]
  simp only
  rw [Memory.setWord, wordBytes_fillBuffer]
  rfl

theorem Fill.rest_big (byte : UInt8) (fill : Fill) :
    (fill.big (fillBuffer byte)).rest byte = fill.rest byte := by
  induction fill using Fill.big.induct (fillBuffer byte) with
  | case1 fill enough ih =>
      have one : 4 ≤ (fill.word (fillBuffer byte)).count := by
        simp only [word]
        omega
      have two : 4 ≤ ((fill.word (fillBuffer byte)).word (fillBuffer byte)).count := by
        simp only [word]
        omega
      have three : 4 ≤
          (((fill.word (fillBuffer byte)).word (fillBuffer byte)).word
            (fillBuffer byte)).count := by
        simp only [word]
        omega
      rw [Fill.big, if_pos enough, ih, rest_word three, rest_word two, rest_word one,
        rest_word (by omega)]
  | case2 fill short => rw [Fill.big, if_neg short]

theorem Fill.rest_little (byte : UInt8) (fill : Fill) :
    (fill.little (fillBuffer byte)).rest byte = fill.rest byte := by
  induction fill using Fill.little.induct (fillBuffer byte) with
  | case1 fill enough ih => rw [Fill.little, if_pos enough, ih, rest_word enough]
  | case2 fill short => rw [Fill.little, if_neg short]

theorem fillBytes_eq (memory : Memory) (address : Nat) (byte : UInt8) (count : Nat) :
    fillBytes memory address byte count = memory.after (memsetAt address byte count) := by
  induction count generalizing memory address with
  | zero => rfl
  | succ count ih =>
      rw [fillBytes, ih]
      rfl

/-- `rt_memset` stores the byte to every place of the block and to no other, whichever
loops it takes. -/
theorem rtMemset_eq (memory : Memory) (s : Nat) (c : UInt8) (count : Nat) :
    rtMemset memory s c count = memory.after (memsetAt s c count) := by
  unfold rtMemset
  split
  · simp only
    rw [fillBytes_eq]
    change Fill.rest c _ = _
    rw [Fill.rest_little, Fill.rest_big]
    rfl
  · exact fillBytes_eq memory s c count

end BerPiNbiot.Kernel
