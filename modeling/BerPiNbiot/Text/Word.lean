import BerPiNbiot.Text.Memory
import Mathlib.Algebra.Ring.Nat

/-!
# Words in byte memory

A number of fixed width is stored in little-endian order.  A word is read back as it
was stored, and two words whose bytes are apart do not disturb each other.
-/

namespace BerPiNbiot.Text

/-- The number in the bytes from an address on, the least significant byte first. -/
def Memory.word (memory : Memory) (address : Nat) : Nat → Nat
  | 0 => 0
  | width + 1 => (memory address).toNat + 256 * memory.word (address + 1) width

/-- The bytes of a number. -/
def wordBytes : Nat → Nat → Bytes
  | 0, _ => []
  | width + 1, value => UInt8.ofNat value :: wordBytes width (value / 256)

/-- The memory after storing a number. -/
def Memory.setWord (memory : Memory) (address width value : Nat) : Memory :=
  memory.after (storesAt address (wordBytes width value))

@[simp]
theorem length_wordBytes (width value : Nat) : (wordBytes width value).length = width := by
  induction width generalizing value with
  | zero => rfl
  | succ width ih => rw [wordBytes, List.length_cons, ih]

theorem Memory.word_congr {memory other : Memory} {address width : Nat}
    (same : ∀ place, address ≤ place → place < address + width → memory place = other place) :
    memory.word address width = other.word address width := by
  induction width generalizing address with
  | zero => rfl
  | succ width ih =>
      have rest : memory.word (address + 1) width = other.word (address + 1) width := by
        apply ih
        intro place low high
        exact same place (by omega) (by omega)
      rw [word, word, same address le_rfl (by omega), rest]

/-- The bytes outside the word stay as they are. -/
theorem Memory.setWord_of_outside (memory : Memory) {address width value place : Nat}
    (outside : place < address ∨ address + width ≤ place) :
    memory.setWord address width value place = memory place := by
  rcases outside with below | above
  · exact after_storesAt_of_lt _ below
  · apply after_storesAt_of_le
    rw [length_wordBytes]
    exact above

/-- What has been stored is read. -/
theorem Memory.word_setWord (memory : Memory) (address : Nat) {width value : Nat}
    (fits : value < 256 ^ width) :
    (memory.setWord address width value).word address width = value := by
  induction width generalizing memory address value with
  | zero =>
      rw [pow_zero] at fits
      rw [word]
      omega
  | succ width ih =>
      have split : memory.setWord address (width + 1) value =
          (memory.store (address, UInt8.ofNat value)).setWord (address + 1) width
            (value / 256) := rfl
      have high : value / 256 < 256 ^ width := by
        rw [Nat.div_lt_iff_lt_mul (by decide), ← pow_succ]
        exact fits
      have first : (memory.store (address, UInt8.ofNat value)).setWord (address + 1) width
          (value / 256) address = UInt8.ofNat value := by
        rw [setWord_of_outside _ (Or.inl (Nat.lt_succ_self address)), Memory.store, if_pos rfl]
      rw [split, word, first, ih _ _ high, UInt8.toNat_ofNat']
      omega

/-- Words whose bytes are apart do not disturb each other. -/
theorem Memory.word_setWord_of_apart (memory : Memory) {address width value other count : Nat}
    (apart : other + count ≤ address ∨ address + width ≤ other) :
    (memory.setWord address width value).word other count = memory.word other count := by
  apply word_congr
  intro place low high
  apply setWord_of_outside
  omega

end BerPiNbiot.Text
