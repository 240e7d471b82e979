import BerPiNbiot.Ring.Core

/-!
# The receive buffer of a serial device

The buffer between the interrupts of a serial device and `rt_device_read`, in its two forms:
filled byte by byte by `rt_hw_serial_isr`, or by the DMA controller, which reports how many
bytes it has stored.  When the reader is too slow the oldest bytes are overwritten.

The DMA controller works in circular mode, from where it stopped before.  The indices have
16 bits.
-/

namespace BerPiNbiot.Kernel

open BerPiNbiot.Ring

/-- `struct rt_serial_rx_fifo` -/
structure RxFifo where
  buffer : Nat → UInt8
  putIndex : Nat
  getIndex : Nat
  isFull : Bool

namespace RxFifo

variable (bufsz : Nat) (fifo : RxFifo)

/-- The index after another one. -/
def next (index : Nat) : Nat :=
  if bufsz ≤ index + 1 then 0 else index + 1

/-- `_serial_fifo_calc_recved_len` -/
def recvedLen : Nat :=
  if fifo.putIndex = fifo.getIndex then
    if fifo.isFull then bufsz else 0
  else if fifo.getIndex < fifo.putIndex then fifo.putIndex - fifo.getIndex
  else bufsz - (fifo.getIndex - fifo.putIndex)

/-- The bytes that have not been read. -/
def unread : List UInt8 :=
  contents fifo.buffer bufsz fifo.getIndex (fifo.recvedLen bufsz)

/-- `rt_hw_serial_isr` with `RT_SERIAL_EVENT_RX_IND`, for one byte -/
def store (byte : UInt8) : RxFifo :=
  let fifo := { fifo with
    buffer := Function.update fifo.buffer fifo.putIndex byte
    putIndex := next bufsz fifo.putIndex }
  if fifo.putIndex = fifo.getIndex then
    { fifo with getIndex := next bufsz fifo.getIndex, isFull := true }
  else fifo

/-- One round of the loop of `_serial_int_rx` -/
def fetch : Option (UInt8 × RxFifo) :=
  if fifo.getIndex = fifo.putIndex ∧ fifo.isFull = false then none
  else some (fifo.buffer fifo.getIndex,
    { fifo with getIndex := next bufsz fifo.getIndex, isFull := false })

/-- `rt_dma_recv_update_get_index` -/
def updateGetIndex (len : Nat) : RxFifo :=
  let get := (fifo.getIndex + len) % 65536
  { fifo with
    isFull := if fifo.isFull ∧ len ≠ 0 then false else fifo.isFull
    getIndex := if bufsz ≤ get then get % bufsz else get }

/-- `rt_dma_recv_update_put_index` -/
def updatePutIndex (len : Nat) : RxFifo :=
  let put := (fifo.putIndex + len) % 65536
  let moved :=
    if fifo.getIndex ≤ fifo.putIndex then
      if bufsz ≤ put then
        { fifo with
          putIndex := put % bufsz
          isFull := if fifo.getIndex ≤ put % bufsz then true else fifo.isFull }
      else { fifo with putIndex := put }
    else if fifo.getIndex ≤ put then
      { fifo with putIndex := if bufsz ≤ put then put % bufsz else put, isFull := true }
    else { fifo with putIndex := put }
  if moved.isFull then { moved with getIndex := moved.putIndex } else moved

/-- What the DMA controller has stored, with `rt_hw_serial_isr` and
`RT_SERIAL_EVENT_RX_DMADONE` -/
def dmaDone (bytes : List UInt8) : RxFifo :=
  ({ fifo with buffer := write fifo.buffer bufsz fifo.putIndex bytes }).updatePutIndex bufsz
    bytes.length

/-- Bytes that follow each other in the buffer, for `rt_memcpy` -/
def slice (start length : Nat) : List UInt8 :=
  (List.range length).map fun index => fifo.buffer (start + index)

/-- `_serial_dma_rx` -/
def dmaRx (length : Nat) : List UInt8 × RxFifo :=
  let recved := fifo.recvedLen bufsz
  let recvLen := if length < recved then length else recved
  let data :=
    if fifo.getIndex + recvLen < bufsz then fifo.slice fifo.getIndex recvLen
    else fifo.slice fifo.getIndex (bufsz - fifo.getIndex) ++
      fifo.slice 0 (recvLen + fifo.getIndex - bufsz)
  (data, fifo.updateGetIndex bufsz recvLen)

end RxFifo

/-! ## Bytes one by one -/

namespace RxFifo

variable {bufsz : Nat} {fifo : RxFifo}

/-- The indices are inside the buffer, and they differ when it is full. -/
structure Single (bufsz : Nat) (fifo : RxFifo) : Prop where
  wide : 2 ≤ bufsz
  put : fifo.putIndex < bufsz
  get : fifo.getIndex < bufsz
  apart : fifo.isFull = true → fifo.getIndex ≠ fifo.putIndex

theorem next_eq {index : Nat} (inside : index < bufsz) :
    next bufsz index = (index + 1) % bufsz := by
  unfold next
  split
  · rw [show index + 1 = bufsz by omega, Nat.mod_self]
  · rw [Nat.mod_eq_of_lt (by omega)]

theorem next_lt {index : Nat} (inside : index < bufsz) : next bufsz index < bufsz := by
  rw [next_eq inside]
  exact Nat.mod_lt _ (by omega)

/-- The writer stands behind the unread bytes. -/
theorem Single.recvedLen (single : Single bufsz fifo) :
    fifo.recvedLen bufsz < bufsz ∧
      fifo.putIndex = (fifo.getIndex + fifo.recvedLen bufsz) % bufsz := by
  obtain ⟨wide, put, get, apart⟩ := single
  unfold RxFifo.recvedLen
  by_cases same : fifo.putIndex = fifo.getIndex
  · have notFull : fifo.isFull = false := by
      rw [← Bool.not_eq_true]
      exact fun full => apart full same.symm
    simp only [same, notFull, if_true, Bool.false_eq_true, if_false, Nat.add_zero]
    exact ⟨by omega, (Nat.mod_eq_of_lt get).symm⟩
  · rw [if_neg same]
    split
    · refine ⟨by omega, ?_⟩
      rw [Nat.mod_eq_of_lt (by omega)]
      omega
    · refine ⟨by omega, ?_⟩
      rw [show fifo.getIndex + (bufsz - (fifo.getIndex - fifo.putIndex)) =
        fifo.putIndex + bufsz by omega, Nat.add_mod_right, Nat.mod_eq_of_lt put]

/-- The number of unread bytes is determined by the indices. -/
theorem recvedLen_eq {get put len : Nat} {buffer : Nat → UInt8} {isFull : Bool}
    (single : Single bufsz ⟨buffer, put, get, isFull⟩) (short : len < bufsz)
    (behind : put = (get + len) % bufsz) :
    RxFifo.recvedLen bufsz ⟨buffer, put, get, isFull⟩ = len := by
  obtain ⟨less, same⟩ := single.recvedLen
  have congruent : (get + RxFifo.recvedLen bufsz ⟨buffer, put, get, isFull⟩) % bufsz =
      (get + len) % bufsz :=
    same.symm.trans behind
  rcases Nat.lt_trichotomy (RxFifo.recvedLen bufsz ⟨buffer, put, get, isFull⟩) len with
    smaller | equal | larger
  · exact absurd congruent (place_ne smaller (by omega))
  · exact equal
  · exact absurd congruent.symm (place_ne larger (by omega))

/-- A byte arrives; there is room for one byte less than the buffer has. -/
theorem Single.store (single : Single bufsz fifo) (byte : UInt8) :
    Single bufsz (fifo.store bufsz byte) ∧
      (fifo.store bufsz byte).unread bufsz = latest (bufsz - 1) (fifo.unread bufsz ++ [byte]) := by
  obtain ⟨short, behind⟩ := single.recvedLen
  have wide := single.wide
  have concat := @contents_concat _ fifo.buffer bufsz fifo.getIndex _ short byte
  rw [← behind] at concat
  have putNext : next bufsz fifo.putIndex =
      (fifo.getIndex + (fifo.recvedLen bufsz + 1)) % bufsz := by
    rw [next_eq single.put, behind, Nat.mod_add_mod, Nat.add_assoc]
  unfold RxFifo.store
  simp only
  by_cases meets : next bufsz fifo.putIndex = fifo.getIndex
  · rw [if_pos meets]
    have full : fifo.recvedLen bufsz + 1 = bufsz := by
      by_contra less
      apply @place_ne bufsz fifo.getIndex 0 (fifo.recvedLen bufsz + 1) (by omega) (by omega)
      rw [← putNext, meets, Nat.add_zero, Nat.mod_eq_of_lt single.get]
    have after : Single bufsz ⟨Function.update fifo.buffer fifo.putIndex byte,
        next bufsz fifo.putIndex, next bufsz fifo.getIndex, true⟩ := by
      refine ⟨wide, next_lt single.put, next_lt single.get, fun _ same => ?_⟩
      change next bufsz fifo.getIndex = next bufsz fifo.putIndex at same
      rw [meets, next_eq single.get] at same
      apply @place_ne bufsz fifo.getIndex 0 1 (by omega) (by omega)
      rw [same, Nat.add_zero, Nat.mod_eq_of_lt single.get]
    refine ⟨after, ?_⟩
    unfold unread
    rw [recvedLen_eq after short (by
      rw [meets, next_eq single.get, Nat.mod_add_mod,
        show fifo.getIndex + 1 + fifo.recvedLen bufsz = fifo.getIndex + bufsz by omega,
        Nat.add_mod_right, Nat.mod_eq_of_lt single.get])]
    simp only
    rw [next_eq single.get, contents_mod]
    rw [contents_succ] at concat
    unfold latest
    rw [List.length_append, length_contents, List.length_singleton, ← concat,
      show fifo.recvedLen bufsz + 1 - (bufsz - 1) = 1 by omega]
    rfl
  · rw [if_neg meets]
    have room : fifo.recvedLen bufsz + 1 < bufsz := by
      by_contra more
      apply meets
      rw [putNext, show fifo.recvedLen bufsz + 1 = bufsz by omega, Nat.add_mod_right,
        Nat.mod_eq_of_lt single.get]
    have after : Single bufsz ⟨Function.update fifo.buffer fifo.putIndex byte,
        next bufsz fifo.putIndex, fifo.getIndex, fifo.isFull⟩ :=
      ⟨wide, next_lt single.put, single.get, fun _ same => meets same.symm⟩
    refine ⟨after, ?_⟩
    unfold unread
    rw [recvedLen_eq after room putNext]
    simp only
    rw [concat, latest_of_le]
    rw [List.length_append, length_contents, List.length_singleton]
    omega

/-- A byte is read. -/
theorem Single.fetch (single : Single bufsz fifo) :
    (fifo.unread bufsz = [] ∧ fifo.fetch bufsz = none) ∨
      ∃ byte after, fifo.fetch bufsz = some (byte, after) ∧ Single bufsz after ∧
        fifo.unread bufsz = byte :: after.unread bufsz := by
  obtain ⟨short, behind⟩ := single.recvedLen
  unfold RxFifo.fetch
  by_cases empty : fifo.getIndex = fifo.putIndex ∧ fifo.isFull = false
  · rw [if_pos empty]
    refine Or.inl ⟨?_, rfl⟩
    unfold unread RxFifo.recvedLen
    rw [if_pos empty.1.symm, empty.2]
    rfl
  · rw [if_neg empty]
    have different : fifo.getIndex ≠ fifo.putIndex := by
      intro same
      apply empty
      refine ⟨same, ?_⟩
      rw [← Bool.not_eq_true]
      exact fun full => single.apart full same
    have positive : 0 < fifo.recvedLen bufsz := by
      apply Nat.pos_of_ne_zero
      intro zero
      rw [zero, Nat.add_zero, Nat.mod_eq_of_lt single.get] at behind
      exact different behind.symm
    have after : Single bufsz ⟨fifo.buffer, fifo.putIndex, next bufsz fifo.getIndex, false⟩ :=
      ⟨single.wide, single.put, next_lt single.get, fun full => absurd full Bool.false_ne_true⟩
    refine Or.inr ⟨_, _, rfl, after, ?_⟩
    have split : fifo.recvedLen bufsz = fifo.recvedLen bufsz - 1 + 1 := by omega
    unfold unread
    rw [recvedLen_eq after (show fifo.recvedLen bufsz - 1 < bufsz by omega) (by
      rw [next_eq single.get, Nat.mod_add_mod, Nat.add_assoc, Nat.add_comm 1, ← split]
      exact behind)]
    simp only
    rw [next_eq single.get, contents_mod, split, contents_succ, ← split,
      Nat.mod_eq_of_lt single.get]

/-! ## Bytes in blocks -/

/-- The indices are inside the buffer, and they are the same when it is full. -/
structure Circular (bufsz : Nat) (fifo : RxFifo) : Prop where
  some_place : 0 < bufsz
  small : bufsz ≤ 32768
  put : fifo.putIndex < bufsz
  get : fifo.getIndex < bufsz
  meets : fifo.isFull = true → fifo.getIndex = fifo.putIndex

theorem Circular.recvedLen (circular : Circular bufsz fifo) :
    fifo.recvedLen bufsz ≤ bufsz ∧
      fifo.putIndex = (fifo.getIndex + fifo.recvedLen bufsz) % bufsz := by
  obtain ⟨some_place, small, put, get, meets⟩ := circular
  unfold RxFifo.recvedLen
  by_cases same : fifo.putIndex = fifo.getIndex
  · rw [if_pos same]
    split
    · exact ⟨Nat.le_refl _, by rw [Nat.add_mod_right, Nat.mod_eq_of_lt get, same]⟩
    · exact ⟨Nat.zero_le _, by rw [Nat.add_zero, Nat.mod_eq_of_lt get, same]⟩
  · rw [if_neg same]
    split
    · refine ⟨by omega, ?_⟩
      rw [Nat.mod_eq_of_lt (by omega)]
      omega
    · refine ⟨by omega, ?_⟩
      rw [show fifo.getIndex + (bufsz - (fifo.getIndex - fifo.putIndex)) =
        fifo.putIndex + bufsz by omega, Nat.add_mod_right, Nat.mod_eq_of_lt put]

theorem Circular.recvedLen_eq (circular : Circular bufsz fifo) :
    fifo.recvedLen bufsz = if fifo.isFull then bufsz
      else if fifo.getIndex ≤ fifo.putIndex then fifo.putIndex - fifo.getIndex
      else bufsz + fifo.putIndex - fifo.getIndex := by
  obtain ⟨some_place, small, put, get, meets⟩ := circular
  unfold RxFifo.recvedLen
  cases full : fifo.isFull with
  | true => simp only [(meets full).symm, if_true]
  | false =>
      simp only [Bool.false_eq_true, if_false]
      by_cases same : fifo.putIndex = fifo.getIndex
      · rw [if_pos same, if_pos (by omega)]
        omega
      · rw [if_neg same]
        by_cases ahead : fifo.getIndex < fifo.putIndex
        · rw [if_pos ahead, if_pos (by omega)]
        · rw [if_neg ahead, if_neg (by omega)]
          omega

/-- Whether bytes are lost is decided by the number of unread ones. -/
theorem Circular.updatePutIndex (circular : Circular bufsz fifo) {len : Nat}
    (short : len ≤ bufsz) :
    (fifo.updatePutIndex bufsz len).putIndex = (fifo.putIndex + len) % bufsz ∧
      (fifo.updatePutIndex bufsz len).buffer = fifo.buffer ∧
      if bufsz ≤ fifo.recvedLen bufsz + len then
        (fifo.updatePutIndex bufsz len).isFull = true ∧
          (fifo.updatePutIndex bufsz len).getIndex = (fifo.updatePutIndex bufsz len).putIndex
      else (fifo.updatePutIndex bufsz len).isFull = false ∧
          (fifo.updatePutIndex bufsz len).getIndex = fifo.getIndex := by
  have count := circular.recvedLen_eq
  obtain ⟨some_place, small, put, get, meets⟩ := circular
  have sum : (fifo.putIndex + len) % 65536 = fifo.putIndex + len :=
    Nat.mod_eq_of_lt (by omega)
  rw [count]
  unfold RxFifo.updatePutIndex
  simp only [sum]
  rcases Nat.lt_or_ge (fifo.putIndex + len) bufsz with inside | past
  · rw [Nat.mod_eq_of_lt inside]
    cases full : fifo.isFull with
    | true =>
        have same := meets full
        simp [same, Nat.not_le.mpr inside]
    | false =>
        simp only [Nat.not_le.mpr inside, if_false, Bool.false_eq_true]
        by_cases ahead : fifo.getIndex ≤ fifo.putIndex
        · simp only [ahead, if_true, Bool.false_eq_true, if_false]
          rw [if_neg (by omega)]
          simp
        · simp only [ahead, if_false]
          by_cases reaches : fifo.getIndex ≤ fifo.putIndex + len
          · simp only [reaches, if_true]
            rw [if_pos (by omega)]
            simp
          · simp only [reaches, if_false, Bool.false_eq_true]
            rw [if_neg (by omega)]
            simp
  · have wrap : (fifo.putIndex + len) % bufsz = fifo.putIndex + len - bufsz := by
      rw [Nat.mod_eq_sub_mod past, Nat.mod_eq_of_lt (by omega)]
    rw [wrap]
    cases full : fifo.isFull with
    | true =>
        have same := meets full
        simp [same, past]
    | false =>
        simp only [past, if_true, Bool.false_eq_true, if_false]
        by_cases ahead : fifo.getIndex ≤ fifo.putIndex
        · simp only [ahead, if_true]
          by_cases round : fifo.getIndex ≤ fifo.putIndex + len - bufsz
          · simp only [round, if_true]
            rw [if_pos (by omega)]
            simp
          · simp only [round, if_false, Bool.false_eq_true]
            rw [if_neg (by omega)]
            simp
        · have reaches : fifo.getIndex ≤ fifo.putIndex + len := by omega
          simp only [ahead, reaches, if_true, if_false]
          rw [if_pos (by omega)]
          simp

/-- Short of a full buffer the number of unread bytes is determined by the indices. -/
theorem Circular.recvedLen_of_put (circular : Circular bufsz fifo) {len : Nat}
    (notFull : fifo.isFull = false) (less : len < bufsz)
    (behind : fifo.putIndex = (fifo.getIndex + len) % bufsz) : fifo.recvedLen bufsz = len := by
  have get := circular.get
  rw [circular.recvedLen_eq, notFull]
  simp only [Bool.false_eq_true, if_false]
  rcases Nat.lt_or_ge (fifo.getIndex + len) bufsz with inside | past
  · rw [Nat.mod_eq_of_lt inside] at behind
    rw [if_pos (by omega)]
    omega
  · rw [Nat.mod_eq_sub_mod past, Nat.mod_eq_of_lt (by omega)] at behind
    rw [if_neg (by omega)]
    omega

/-- The DMA controller has stored bytes; there is room for as many as the buffer has. -/
theorem Circular.dmaDone (circular : Circular bufsz fifo) {bytes : List UInt8}
    (short : bytes.length ≤ bufsz) :
    Circular bufsz (fifo.dmaDone bufsz bytes) ∧
      (fifo.dmaDone bufsz bytes).unread bufsz = latest bufsz (fifo.unread bufsz ++ bytes) := by
  obtain ⟨bounded, behind⟩ := circular.recvedLen
  have written := @contents_write _ fifo.buffer bufsz fifo.getIndex _ circular.some_place bounded
    bytes
  rw [write_congr (show (fifo.getIndex + fifo.recvedLen bufsz) % bufsz =
    fifo.putIndex % bufsz by rw [behind, Nat.mod_mod])] at written
  change _ = latest bufsz (fifo.unread bufsz ++ bytes) at written
  have filled : Circular bufsz
      { fifo with buffer := write fifo.buffer bufsz fifo.putIndex bytes } :=
    ⟨circular.some_place, circular.small, circular.put, circular.get, circular.meets⟩
  obtain ⟨put, buffer, rest⟩ := filled.updatePutIndex short
  change (fifo.dmaDone bufsz bytes).putIndex = (fifo.putIndex + bytes.length) % bufsz at put
  change (fifo.dmaDone bufsz bytes).buffer = _ at buffer
  change if bufsz ≤ fifo.recvedLen bufsz + bytes.length then
      (fifo.dmaDone bufsz bytes).isFull = true ∧
        (fifo.dmaDone bufsz bytes).getIndex = (fifo.dmaDone bufsz bytes).putIndex
    else (fifo.dmaDone bufsz bytes).isFull = false ∧
        (fifo.dmaDone bufsz bytes).getIndex = fifo.getIndex at rest
  have inside : (fifo.dmaDone bufsz bytes).putIndex < bufsz := by
    rw [put]
    exact Nat.mod_lt _ circular.some_place
  rw [behind, Nat.mod_add_mod, Nat.add_assoc] at put
  have read : (fifo.dmaDone bufsz bytes).unread bufsz =
      contents (write fifo.buffer bufsz fifo.putIndex bytes) bufsz
        (fifo.dmaDone bufsz bytes).getIndex ((fifo.dmaDone bufsz bytes).recvedLen bufsz) := by
    rw [unread, buffer]
  rw [read, ← written]
  by_cases many : bufsz ≤ fifo.recvedLen bufsz + bytes.length
  · rw [if_pos many] at rest
    obtain ⟨full, get⟩ := rest
    have after : Circular bufsz (fifo.dmaDone bufsz bytes) :=
      ⟨circular.some_place, circular.small, inside, by rw [get]; exact inside, fun _ => get⟩
    refine ⟨after, ?_⟩
    rw [after.recvedLen_eq, full, get, put, Nat.min_eq_left many,
      show fifo.getIndex + (fifo.recvedLen bufsz + bytes.length) =
        fifo.getIndex + (fifo.recvedLen bufsz + bytes.length - bufsz) + bufsz by omega,
      Nat.add_mod_right, contents_mod]
    rfl
  · rw [if_neg many] at rest
    obtain ⟨notFull, get⟩ := rest
    have few : fifo.recvedLen bufsz + bytes.length < bufsz := by omega
    have after : Circular bufsz (fifo.dmaDone bufsz bytes) := by
      refine ⟨circular.some_place, circular.small, inside, by rw [get]; exact circular.get, ?_⟩
      rw [notFull]
      exact fun full => absurd full Bool.false_ne_true
    refine ⟨after, ?_⟩
    rw [after.recvedLen_of_put notFull few (by rw [put, get]), get,
      Nat.min_eq_right (Nat.le_of_lt few), Nat.sub_eq_zero_of_le (Nat.le_of_lt few), Nat.add_zero]

/-- Bytes that follow each other in the buffer are unread bytes that follow each other. -/
theorem slice_eq_contents {start length : Nat} (inside : start + length ≤ bufsz) :
    fifo.slice start length = contents fifo.buffer bufsz start length := by
  apply List.map_congr_left
  intro index member
  rw [Nat.mod_eq_of_lt (by
    have := List.mem_range.mp member
    omega)]

/-- The two parts that are copied are the unread bytes up to where the read ends. -/
theorem Circular.copied (circular : Circular bufsz fifo) {length : Nat}
    (bounded : length ≤ bufsz) :
    (if fifo.getIndex + length < bufsz then fifo.slice fifo.getIndex length
      else fifo.slice fifo.getIndex (bufsz - fifo.getIndex) ++
        fifo.slice 0 (length + fifo.getIndex - bufsz)) =
      contents fifo.buffer bufsz fifo.getIndex length := by
  have get := circular.get
  split
  case isTrue inside => exact slice_eq_contents (Nat.le_of_lt inside)
  case isFalse past =>
    rw [@slice_eq_contents bufsz fifo fifo.getIndex _ (by omega),
      @slice_eq_contents bufsz fifo 0 _ (by omega),
      show contents fifo.buffer bufsz fifo.getIndex length =
        contents fifo.buffer bufsz fifo.getIndex
          (bufsz - fifo.getIndex + (length + fifo.getIndex - bufsz)) by congr 1; omega,
      contents_add, show fifo.getIndex + (bufsz - fifo.getIndex) = bufsz by omega,
      ← @contents_mod _ _ bufsz bufsz, Nat.mod_self]

theorem Circular.updateGetIndex (circular : Circular bufsz fifo) {len : Nat}
    (taken : len ≤ fifo.recvedLen bufsz) :
    Circular bufsz (fifo.updateGetIndex bufsz len) ∧
      (fifo.updateGetIndex bufsz len).unread bufsz = (fifo.unread bufsz).drop len := by
  obtain ⟨bounded, behind⟩ := circular.recvedLen
  have small := circular.small
  have get : (fifo.updateGetIndex bufsz len).getIndex = (fifo.getIndex + len) % bufsz := by
    have inside := circular.get
    unfold RxFifo.updateGetIndex
    simp only
    rw [Nat.mod_eq_of_lt (show fifo.getIndex + len < 65536 by omega)]
    split
    · rfl
    · rw [Nat.mod_eq_of_lt (by omega)]
  rcases Nat.eq_zero_or_pos len with rfl | positive
  · have same : fifo.updateGetIndex bufsz 0 = fifo := by
      have inside := circular.get
      unfold RxFifo.updateGetIndex
      simp only [Nat.add_zero, ne_eq, not_true_eq_false, and_false, if_false]
      rw [Nat.mod_eq_of_lt (by omega), if_neg (by omega)]
    rw [same]
    exact ⟨circular, rfl⟩
  · have notFull : (fifo.updateGetIndex bufsz len).isFull = false := by
      simp only [RxFifo.updateGetIndex]
      split
      case isTrue => rfl
      case isFalse none =>
        rw [← Bool.not_eq_true]
        exact fun full => none ⟨full, Nat.ne_of_gt positive⟩
    have after : Circular bufsz (fifo.updateGetIndex bufsz len) := by
      refine ⟨circular.some_place, small, circular.put, ?_, ?_⟩
      · rw [get]
        exact Nat.mod_lt _ circular.some_place
      · rw [notFull]
        exact fun full => absurd full Bool.false_ne_true
    refine ⟨after, ?_⟩
    have split : fifo.recvedLen bufsz = len + (fifo.recvedLen bufsz - len) := by omega
    have put : (fifo.updateGetIndex bufsz len).putIndex =
        ((fifo.updateGetIndex bufsz len).getIndex + (fifo.recvedLen bufsz - len)) % bufsz := by
      rw [get, Nat.mod_add_mod, Nat.add_assoc, ← split]
      exact behind
    have count := after.recvedLen_of_put notFull (by omega) put
    unfold unread
    rw [count, get, contents_mod, split, contents_add, ← split, List.drop_left' length_contents]
    rfl

/-- A read takes the first of the unread bytes, as many as there are or as it asks for. -/
theorem Circular.dmaRx (circular : Circular bufsz fifo) (length : Nat) :
    Circular bufsz (fifo.dmaRx bufsz length).2 ∧
      (fifo.dmaRx bufsz length).1 = (fifo.unread bufsz).take length ∧
      (fifo.dmaRx bufsz length).2.unread bufsz = (fifo.unread bufsz).drop length := by
  have size : (fifo.unread bufsz).length = fifo.recvedLen bufsz := length_contents
  have short := circular.recvedLen.1
  unfold RxFifo.dmaRx
  simp only
  by_cases part : length < fifo.recvedLen bufsz
  · rw [if_pos part, circular.copied (by omega)]
    obtain ⟨after, dropped⟩ := circular.updateGetIndex (Nat.le_of_lt part)
    exact ⟨after, (take_contents (Nat.le_of_lt part)).symm, dropped⟩
  · rw [if_neg part, circular.copied short]
    obtain ⟨after, dropped⟩ := circular.updateGetIndex (Nat.le_refl _)
    refine ⟨after, ?_, ?_⟩
    · rw [List.take_of_length_le (by omega)]
      rfl
    · rw [dropped, List.drop_of_length_le (by omega), List.drop_of_length_le (by omega)]

end RxFifo

/-! ## Runs -/

/-- An open device, with the bytes that have been read. -/
structure Port where
  fifo : RxFifo
  given : List UInt8

namespace Port

/-- `rt_serial_open` -/
def opened : Port where
  fifo := { buffer := fun _ => 0, putIndex := 0, getIndex := 0, isFull := false }
  given := []

/-- An interrupt stores a byte, or a reader goes through its loop once.  Interrupts are disabled
in each of these, and nowhere else. -/
inductive Moment where
  | arrive (byte : UInt8)
  | fetch

/-- What a moment means for the stream of bytes. -/
def Moment.traffic : Moment → Traffic UInt8
  | .arrive byte => .put [byte]
  | .fetch => .get 1

/-- The device with `RT_DEVICE_FLAG_INT_RX` -/
def interrupt (bufsz : Nat) (port : Port) : Moment → Port
  | .arrive byte => { port with fifo := port.fifo.store bufsz byte }
  | .fetch =>
      match port.fifo.fetch bufsz with
      | none => port
      | some (byte, fifo) => { fifo, given := port.given ++ [byte] }

/-- The device with `RT_DEVICE_FLAG_DMA_RX` -/
def circulate (bufsz : Nat) (port : Port) : Traffic UInt8 → Port
  | .put bytes => { port with fifo := port.fifo.dmaDone bufsz bytes }
  | .get length =>
      let (data, fifo) := port.fifo.dmaRx bufsz length
      { fifo, given := port.given ++ data }

/-- The stream that a device stands for. -/
def window (bufsz : Nat) (port : Port) : Window UInt8 where
  kept := port.fifo.unread bufsz
  given := port.given

end Port

section Runs

variable {bufsz : Nat}

/-- One moment of the device is one step of the stream. -/
theorem interrupt_step {port : Port} (single : port.fifo.Single bufsz) (moment : Port.Moment) :
    (port.interrupt bufsz moment).fifo.Single bufsz ∧
      (port.interrupt bufsz moment).window bufsz =
        (port.window bufsz).step (bufsz - 1) moment.traffic := by
  cases moment with
  | arrive byte =>
      obtain ⟨after, unread⟩ := single.store byte
      refine ⟨after, ?_⟩
      change Window.mk ((port.fifo.store bufsz byte).unread bufsz) _ = _
      rw [unread]
      rfl
  | fetch =>
      change (match port.fifo.fetch bufsz with
        | none => port
        | some (byte, fifo) => { fifo, given := port.given ++ [byte] } : Port).fifo.Single bufsz ∧
        Port.window bufsz (match port.fifo.fetch bufsz with
          | none => port
          | some (byte, fifo) => { fifo, given := port.given ++ [byte] }) =
          Window.mk ((port.fifo.unread bufsz).drop 1)
            (port.given ++ (port.fifo.unread bufsz).take 1)
      rcases single.fetch with ⟨nothing, fetched⟩ | ⟨byte, after, fetched, kept, unread⟩
      · rw [fetched, nothing, List.take_nil, List.drop_nil, List.append_nil]
        refine ⟨single, ?_⟩
        simp only [Port.window, nothing]
      · rw [fetched, unread]
        exact ⟨kept, rfl⟩

theorem circulate_step {port : Port} (circular : port.fifo.Circular bufsz)
    {traffic : Traffic UInt8} (short : traffic.values.length ≤ bufsz) :
    (port.circulate bufsz traffic).fifo.Circular bufsz ∧
      (port.circulate bufsz traffic).window bufsz =
        (port.window bufsz).step bufsz traffic := by
  cases traffic with
  | put bytes =>
      obtain ⟨after, unread⟩ := circular.dmaDone (show bytes.length ≤ bufsz from short)
      refine ⟨after, ?_⟩
      change Window.mk ((port.fifo.dmaDone bufsz bytes).unread bufsz) _ = _
      rw [unread]
      rfl
  | get length =>
      obtain ⟨after, data, unread⟩ := circular.dmaRx length
      refine ⟨after, ?_⟩
      change Window.mk ((port.fifo.dmaRx bufsz length).2.unread bufsz)
        (port.given ++ (port.fifo.dmaRx bufsz length).1) = _
      rw [data, unread]
      rfl

theorem interrupt_run (wide : 2 ≤ bufsz) (run : List Port.Moment) :
    (run.foldl (Port.interrupt bufsz) Port.opened).fifo.Single bufsz ∧
      (run.foldl (Port.interrupt bufsz) Port.opened).window bufsz =
        (run.map Port.Moment.traffic).foldl (Window.step (bufsz - 1)) Window.empty := by
  induction run using List.reverseRecOn with
  | nil =>
      exact ⟨⟨wide, by change 0 < bufsz; omega, by change 0 < bufsz; omega,
        fun full => absurd full Bool.false_ne_true⟩, rfl⟩
  | append_singleton run last ih =>
      obtain ⟨single, same⟩ := ih
      obtain ⟨after, stepped⟩ := interrupt_step single last
      rw [List.map_append, List.foldl_append, List.foldl_append, ← same]
      exact ⟨after, stepped⟩

theorem circulate_run (positive : 0 < bufsz) (small : bufsz ≤ 32768)
    {run : List (Traffic UInt8)} (short : ∀ traffic ∈ run, traffic.values.length ≤ bufsz) :
    (run.foldl (Port.circulate bufsz) Port.opened).fifo.Circular bufsz ∧
      (run.foldl (Port.circulate bufsz) Port.opened).window bufsz =
        run.foldl (Window.step bufsz) Window.empty := by
  induction run using List.reverseRecOn with
  | nil => exact ⟨⟨positive, small, positive, positive, fun _ => rfl⟩, rfl⟩
  | append_singleton run last ih =>
      obtain ⟨circular, same⟩ := ih fun traffic member =>
        short traffic (List.mem_append_left _ member)
      obtain ⟨after, stepped⟩ :=
        circulate_step circular (short last (List.mem_append_right _ (List.mem_singleton_self _)))
      rw [List.foldl_append, List.foldl_append, ← same]
      exact ⟨after, stepped⟩

/-- With interrupts, in every order of arrivals and reads: the device keeps the latest
`bufsz - 1` bytes, gives out each of them once and in order, and loses none as long as every
arrival finds room. -/
theorem serial_int_run (wide : 2 ≤ bufsz) (run : List Port.Moment) :
    (run.foldl (Port.interrupt bufsz) Port.opened).window bufsz =
        (run.map Port.Moment.traffic).foldl (Window.step (bufsz - 1)) Window.empty ∧
      ((run.foldl (Port.interrupt bufsz) Port.opened).given ++
        (run.foldl (Port.interrupt bufsz) Port.opened).fifo.unread bufsz).Sublist
          (run.flatMap fun moment => moment.traffic.values) ∧
      ((∀ first byte, first ++ [.arrive byte] <+: run →
          ((first.foldl (Port.interrupt bufsz) Port.opened).fifo.unread bufsz).length + 1 <
            bufsz) →
        (run.foldl (Port.interrupt bufsz) Port.opened).given ++
          (run.foldl (Port.interrupt bufsz) Port.opened).fifo.unread bufsz =
            run.flatMap fun moment => moment.traffic.values) := by
  have refined := (interrupt_run wide run).2
  have values : (run.flatMap fun moment => moment.traffic.values) =
      (run.map Port.Moment.traffic).flatMap Traffic.values := by
    rw [List.flatMap_map]
  have kept := congrArg Window.kept refined
  have given := congrArg Window.given refined
  change RxFifo.unread bufsz _ = _ at kept
  change Port.given _ = _ at given
  refine ⟨refined, ?_, fun room => ?_⟩
  · rw [kept, given, values]
    exact Window.run_sublist _ _
  · rw [kept, given, values]
    apply Window.run_eq
    intro first values begins
    obtain ⟨start, started, mapped⟩ := List.prefix_map_iff.mp begins
    obtain ⟨before, last, rfl, same, ended⟩ := List.append_eq_map_iff.mp mapped
    obtain ⟨moment, rfl, arrives⟩ := List.map_eq_singleton_iff.mp ended
    cases moment with
    | fetch => nomatch arrives
    | arrive byte =>
        obtain rfl : [byte] = values := Traffic.put.inj arrives
        have here := room before byte started
        rw [← same, ← (interrupt_run wide before).2]
        change (RxFifo.unread bufsz _).length + 1 ≤ bufsz - 1
        omega

theorem serial_int_run_concrete :
    ([.arrive 1, .arrive 2, .arrive 3, .fetch].foldl (Port.interrupt 3) Port.opened).window 3 =
        ([.arrive 1, .arrive 2, .arrive 3, .fetch].map Port.Moment.traffic).foldl
          (Window.step 2) Window.empty ∧
      ([.arrive 1, .arrive 2, .arrive 3, .fetch].foldl
        (Port.interrupt 3) Port.opened).given = [2] :=
  ⟨(serial_int_run (by decide) _).1, by decide⟩

/-- With DMA, in every order of reports of at most `bufsz` bytes and of reads: the device keeps
the latest `bufsz` bytes, gives out each of them once and in order, and loses none as long as
every report finds room. -/
theorem serial_dma_run (positive : 0 < bufsz) (small : bufsz ≤ 32768)
    {run : List (Traffic UInt8)} (short : ∀ traffic ∈ run, traffic.values.length ≤ bufsz) :
    (run.foldl (Port.circulate bufsz) Port.opened).window bufsz =
        run.foldl (Window.step bufsz) Window.empty ∧
      ((run.foldl (Port.circulate bufsz) Port.opened).given ++
        (run.foldl (Port.circulate bufsz) Port.opened).fifo.unread bufsz).Sublist
          (run.flatMap Traffic.values) ∧
      ((∀ first bytes, first ++ [.put bytes] <+: run →
          ((first.foldl (Port.circulate bufsz) Port.opened).fifo.unread bufsz).length +
            bytes.length ≤ bufsz) →
        (run.foldl (Port.circulate bufsz) Port.opened).given ++
          (run.foldl (Port.circulate bufsz) Port.opened).fifo.unread bufsz =
            run.flatMap Traffic.values) := by
  have refined := (circulate_run positive small short).2
  have kept := congrArg Window.kept refined
  have given := congrArg Window.given refined
  change RxFifo.unread bufsz _ = _ at kept
  change Port.given _ = _ at given
  refine ⟨refined, ?_, fun room => ?_⟩
  · rw [kept, given]
    exact Window.run_sublist _ _
  · rw [kept, given]
    apply Window.run_eq
    intro first bytes begins
    have here := room first bytes begins
    have earlier := circulate_run positive small fun traffic member =>
      short traffic (begins.subset (List.mem_append_left _ member))
    rw [← earlier.2]
    exact here

theorem serial_dma_run_concrete :
    ([.put [1, 2], .get 1, .put [3, 4]].foldl (Port.circulate 2) Port.opened).window 2 =
        [.put [1, 2], .get 1, .put [3, 4]].foldl (Window.step 2) Window.empty ∧
      ([.put [1, 2], .get 1, .put [3, 4]].foldl (Port.circulate 2) Port.opened).given = [1] :=
  ⟨(serial_dma_run (by decide) (by decide) (by decide)).1, by decide⟩

end Runs

/-! ## Either mode -/

/-- The mode in which a device has been opened for reading. -/
inductive RxMode where
  | int
  | dma
  deriving DecidableEq

namespace RxMode

/-- The sizes of a buffer with which the mode works. -/
def Sized : RxMode → Nat → Prop
  | .int, bufsz => 2 ≤ bufsz
  | .dma, bufsz => 0 < bufsz ∧ bufsz ≤ 32768

/-- What an interrupt can bring at once. -/
def Fits : RxMode → Nat → List UInt8 → Prop
  | .int, _, _ => True
  | .dma, bufsz, bytes => bytes.length ≤ bufsz

instance (mode : RxMode) (bufsz : Nat) (bytes : List UInt8) : Decidable (mode.Fits bufsz bytes) :=
  match mode with
  | .int => isTrue trivial
  | .dma => inferInstanceAs (Decidable (bytes.length ≤ bufsz))

/-- How many bytes can be unread. -/
def limit : RxMode → Nat → Nat
  | .int, bufsz => bufsz - 1
  | .dma, bufsz => bufsz

/-- `rt_hw_serial_isr` up to its callback -/
def receive (bufsz : Nat) (fifo : RxFifo) (bytes : List UInt8) : RxMode → RxFifo
  | .int => bytes.foldl (fun fifo byte => fifo.store bufsz byte) fifo
  | .dma => fifo.dmaDone bufsz bytes

/-- The length that goes to the callback. -/
def rxLength (bufsz : Nat) (fifo : RxFifo) : RxMode → Nat
  | .int =>
      if fifo.getIndex ≤ fifo.putIndex then fifo.putIndex - fifo.getIndex
      else bufsz - (fifo.getIndex - fifo.putIndex)
  | .dma => fifo.recvedLen bufsz

/-- `rt_device_read` with room for one byte -/
def readByte (bufsz : Nat) (fifo : RxFifo) : RxMode → Option UInt8 × RxFifo
  | .int =>
      match fifo.fetch bufsz with
      | none => (none, fifo)
      | some (byte, after) => (some byte, after)
  | .dma =>
      let (data, after) := fifo.dmaRx bufsz 1
      (data.head?, after)

/-- The invariant of the mode. -/
def Sound (bufsz : Nat) (fifo : RxFifo) : RxMode → Prop
  | .int => fifo.Single bufsz
  | .dma => fifo.Circular bufsz

variable {bufsz : Nat} {mode : RxMode} {fifo : RxFifo}

theorem Sized.opened (sized : mode.Sized bufsz) : mode.Sound bufsz Port.opened.fifo := by
  cases mode with
  | int => exact (interrupt_run sized []).1
  | dma =>
      exact ⟨sized.1, sized.2, sized.1, sized.1, fun _ => rfl⟩

theorem Sound.limit_pos (sound : mode.Sound bufsz fifo) : 0 < mode.limit bufsz := by
  cases mode with
  | int =>
      have wide := RxFifo.Single.wide sound
      change 0 < bufsz - 1
      omega
  | dma => exact RxFifo.Circular.some_place sound

theorem Sound.length_unread (sound : mode.Sound bufsz fifo) :
    (fifo.unread bufsz).length ≤ mode.limit bufsz := by
  rw [RxFifo.unread, length_contents]
  cases mode with
  | int => exact Nat.le_sub_one_of_lt (RxFifo.Single.recvedLen sound).1
  | dma => exact (RxFifo.Circular.recvedLen sound).1

theorem Sound.receive (sound : mode.Sound bufsz fifo) {bytes : List UInt8}
    (fits : mode.Fits bufsz bytes) :
    mode.Sound bufsz (mode.receive bufsz fifo bytes) ∧
      (mode.receive bufsz fifo bytes).unread bufsz =
        latest (mode.limit bufsz) (fifo.unread bufsz ++ bytes) := by
  cases mode with
  | dma => exact RxFifo.Circular.dmaDone sound fits
  | int =>
      induction bytes generalizing fifo with
      | nil =>
          refine ⟨sound, ?_⟩
          rw [List.append_nil, latest_of_le sound.length_unread]
          rfl
      | cons byte rest ih =>
          obtain ⟨single, unread⟩ := RxFifo.Single.store sound byte
          obtain ⟨after, received⟩ := ih single trivial
          refine ⟨after, received.trans ?_⟩
          rw [unread]
          change latest (bufsz - 1) _ = latest (bufsz - 1) _
          rw [latest_append, List.append_assoc, List.singleton_append]

theorem Sound.rxLength (sound : mode.Sound bufsz fifo) :
    mode.rxLength bufsz fifo = (fifo.unread bufsz).length := by
  rw [RxFifo.unread, length_contents]
  cases mode with
  | dma => rfl
  | int =>
      have apart := RxFifo.Single.apart sound
      change (if _ then _ else _) = _
      unfold RxFifo.recvedLen
      by_cases same : fifo.putIndex = fifo.getIndex
      · have notFull : fifo.isFull = false := by
          rw [← Bool.not_eq_true]
          exact fun full => apart full same.symm
        rw [if_pos (Nat.le_of_eq same.symm), if_pos same, notFull, same, Nat.sub_self]
        rfl
      · rw [if_neg same]
        by_cases ahead : fifo.getIndex < fifo.putIndex
        · rw [if_pos ahead, if_pos (Nat.le_of_lt ahead)]
        · rw [if_neg ahead, if_neg (by omega)]

theorem Sound.readByte (sound : mode.Sound bufsz fifo) :
    mode.Sound bufsz (mode.readByte bufsz fifo).2 ∧
      (mode.readByte bufsz fifo).1 = (fifo.unread bufsz).head? ∧
      (mode.readByte bufsz fifo).2.unread bufsz = (fifo.unread bufsz).tail := by
  cases mode with
  | int =>
      change RxFifo.Single bufsz (match fifo.fetch bufsz with
          | none => (none, fifo)
          | some (byte, after) => (some byte, after) : Option UInt8 × RxFifo).2 ∧
        (match fifo.fetch bufsz with
          | none => (none, fifo)
          | some (byte, after) => (some byte, after) : Option UInt8 × RxFifo).1 = _ ∧
        (match fifo.fetch bufsz with
          | none => (none, fifo)
          | some (byte, after) => (some byte, after) : Option UInt8 × RxFifo).2.unread bufsz = _
      rcases RxFifo.Single.fetch sound with
        ⟨nothing, fetched⟩ | ⟨byte, after, fetched, single, unread⟩
      · rw [fetched, nothing]
        exact ⟨sound, rfl, rfl⟩
      · rw [fetched, unread]
        exact ⟨single, rfl, rfl⟩
  | dma =>
      obtain ⟨circular, data, unread⟩ := RxFifo.Circular.dmaRx sound 1
      refine ⟨circular, ?_, ?_⟩
      · change (fifo.dmaRx bufsz 1).1.head? = _
        rw [data, List.head?_take]
        rfl
      · change (fifo.dmaRx bufsz 1).2.unread bufsz = _
        rw [unread, List.drop_one]

end RxMode

end BerPiNbiot.Kernel
