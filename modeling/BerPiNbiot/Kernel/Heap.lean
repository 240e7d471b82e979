import BerPiNbiot.Kernel.Bytes

/-!
# Small memory management

The system heap of `mem.c` with `RT_ALIGN_SIZE` 4 and without `RT_USING_MEMTRACE`.
Every block has its `struct heap_mem` in front of it, in the memory that the blocks
share with their owners.  A `struct heap_mem *` is its distance from `heap_ptr`; the
pointers that go in and out of the interface are addresses, and `RT_NULL` is `0`.

`RT_DEBUG` is defined.  An operation is `none` where an `RT_ASSERT` fails or a loop has
not ended after as many turns as the heap has bytes.

`size`, `next` and `prev` are 32-bit numbers.  Sums stay below `2^32` because the heap
does; the differences that can wrap around are `sizeSub`.  The critical sections under
`heap_sem` are one step each.
-/

namespace BerPiNbiot.Kernel

open BerPiNbiot.Text

/-- The fields of `struct heap_mem`. -/
inductive HeapField where
  | magic
  | used
  | next
  | prev
  deriving DecidableEq, Repr

/-- The offset of a field in `struct heap_mem`. -/
def HeapField.offset : HeapField → Nat
  | .magic => 0
  | .used => 2
  | .next => 4
  | .prev => 8

/-- The number of bytes of a field. -/
def HeapField.width : HeapField → Nat
  | .magic => 2
  | .used => 2
  | .next => 4
  | .prev => 4

/-- `HEAP_MAGIC` -/
def heapMagic : Nat := 0x1ea0

/-- `SIZEOF_STRUCT_MEM` -/
def sizeofStructMem : Nat := 12

/-- `MIN_SIZE` and `MIN_SIZE_ALIGNED` -/
def minSizeAligned : Nat := 12

/-- `RT_ALIGN(size, RT_ALIGN_SIZE)` -/
def rtAlign (size : Nat) : Nat :=
  (size + 3) % 4294967296 / 4 * 4

/-- `RT_ALIGN_DOWN(size, RT_ALIGN_SIZE)` -/
def rtAlignDown (size : Nat) : Nat :=
  size / 4 * 4

/-- The difference of two numbers of type `rt_size_t`. -/
def sizeSub (first second : Nat) : Nat :=
  (first + 4294967296 - second) % 4294967296

/-- The memory and the static variables of `mem.c`. -/
structure Heap where
  memory : Memory
  heapPtr : Nat
  memSizeAligned : Nat
  lfree : Nat
  usedMem : Nat
  maxMem : Nat

namespace Heap

/-- `heap_end` -/
def heapEnd (heap : Heap) : Nat :=
  heap.memSizeAligned + sizeofStructMem

/-- A field of the structure at `&heap_ptr[ptr]`. -/
def get (heap : Heap) (ptr : Nat) (field : HeapField) : Nat :=
  heap.memory.word (heap.heapPtr + ptr + field.offset) field.width

/-- Assignment to a field of the structure at `&heap_ptr[ptr]`. -/
def set (heap : Heap) (ptr : Nat) (field : HeapField) (value : Nat) : Heap :=
  { heap with
    memory := heap.memory.setWord (heap.heapPtr + ptr + field.offset) field.width value }

/-- The statistics after more memory has been taken. -/
def account (heap : Heap) (size : Nat) : Heap :=
  { heap with
    usedMem := heap.usedMem + size
    maxMem := max heap.maxMem (heap.usedMem + size) }

end Heap

/-- `rt_system_heap_init` -/
def rtSystemHeapInit (heap : Heap) (beginAddr endAddr : Nat) : Heap :=
  let beginAlign := rtAlign beginAddr
  let endAlign := rtAlignDown endAddr
  if 2 * sizeofStructMem < endAlign ∧ beginAlign ≤ endAlign - 2 * sizeofStructMem then
    let size := endAlign - beginAlign - 2 * sizeofStructMem
    let heap := { heap with heapPtr := beginAlign, memSizeAligned := size, lfree := 0 }
    let heap := heap.set 0 .magic heapMagic
    let heap := heap.set 0 .next (size + sizeofStructMem)
    let heap := heap.set 0 .prev 0
    let heap := heap.set 0 .used 0
    let heap := heap.set heap.heapEnd .magic heapMagic
    let heap := heap.set heap.heapEnd .used 1
    let heap := heap.set heap.heapEnd .next (size + sizeofStructMem)
    heap.set heap.heapEnd .prev (size + sizeofStructMem)
  else heap

/-- Combine a block with the one behind it, in either half of `plug_holes`. -/
def combine (heap : Heap) (mem nmem : Nat) : Heap :=
  let heap := if heap.lfree = nmem then { heap with lfree := mem } else heap
  let heap := heap.set mem .next (heap.get nmem .next)
  heap.set (heap.get nmem .next) .prev mem

/-- `plug_holes` -/
def plugHoles (heap : Heap) (mem : Nat) : Option Heap :=
  if mem < heap.heapEnd ∧ heap.get mem .used = 0 then
    let nmem := heap.get mem .next
    let heap :=
      if mem ≠ nmem ∧ heap.get nmem .used = 0 ∧ nmem ≠ heap.heapEnd then combine heap mem nmem
      else heap
    let pmem := heap.get mem .prev
    if pmem ≠ mem ∧ heap.get pmem .used = 0 then some (combine heap pmem mem)
    else some heap
  else none

/-- Create the structure `mem2` and point `mem` to it. -/
def createBlock (heap : Heap) (ptr ptr2 : Nat) : Heap :=
  let heap := heap.set ptr2 .magic heapMagic
  let heap := heap.set ptr2 .used 0
  let heap := heap.set ptr2 .next (heap.get ptr .next)
  let heap := heap.set ptr2 .prev ptr
  heap.set ptr .next ptr2

/-- Point the block behind `mem2` back to it. -/
def linkBack (heap : Heap) (ptr2 : Nat) : Heap :=
  if heap.get ptr2 .next ≠ heap.heapEnd then heap.set (heap.get ptr2 .next) .prev ptr2 else heap

/-- The search of `rt_malloc`. -/
def firstFit (heap : Heap) (size : Nat) : Nat → Nat → Option (Option Nat)
  | 0, _ => none
  | turns + 1, ptr =>
      if ptr < sizeSub heap.memSizeAligned size then
        if heap.get ptr .used = 0 ∧
            size ≤ sizeSub (heap.get ptr .next) (ptr + sizeofStructMem) then
          some (some ptr)
        else firstFit heap size turns (heap.get ptr .next)
      else some none

/-- The block at `ptr` is taken, and what it does not need becomes a block of its own. -/
def takeBlock (heap : Heap) (size ptr : Nat) : Heap :=
  let heap :=
    if size + sizeofStructMem + minSizeAligned ≤
        sizeSub (heap.get ptr .next) (ptr + sizeofStructMem) then
      let ptr2 := ptr + sizeofStructMem + size
      let heap := (createBlock heap ptr ptr2).set ptr .used 1
      (linkBack heap ptr2).account (size + sizeofStructMem)
    else
      let heap := heap.set ptr .used 1
      heap.account (sizeSub (heap.get ptr .next) ptr)
  heap.set ptr .magic heapMagic

/-- Find the next free block and update the lowest free pointer. -/
def nextFree (heap : Heap) : Nat → Nat → Option Nat
  | 0, _ => none
  | turns + 1, lfree =>
      if heap.get lfree .used ≠ 0 ∧ lfree ≠ heap.heapEnd then
        nextFree heap turns (heap.get lfree .next)
      else some lfree

/-- What follows in `rt_malloc` when a block has been found. -/
def finishMalloc (heap : Heap) (size ptr : Nat) : Option (Heap × Nat) :=
  let heap := takeBlock heap size ptr
  let moved :=
    if ptr = heap.lfree then
      (nextFree heap (heap.heapEnd + 1) heap.lfree).bind fun lfree =>
        if lfree = heap.heapEnd ∨ heap.get lfree .used = 0 then some { heap with lfree := lfree }
        else none
    else some heap
  moved.bind fun heap =>
    if ptr + sizeofStructMem + size ≤ heap.heapEnd ∧
        (heap.heapPtr + ptr + sizeofStructMem) % 4 = 0 ∧ (heap.heapPtr + ptr) % 4 = 0 then
      some (heap, heap.heapPtr + ptr + sizeofStructMem)
    else none

/-- `rt_malloc` -/
def Heap.rtMalloc (heap : Heap) (size : Nat) : Option (Heap × Nat) :=
  if size = 0 then some (heap, 0)
  else
    let size := rtAlign size
    if heap.memSizeAligned < size then some (heap, 0)
    else
      let size := if size < minSizeAligned then minSizeAligned else size
      (firstFit heap size (heap.heapEnd + 1) heap.lfree).bind fun found =>
        match found with
        | none => some (heap, 0)
        | some ptr => finishMalloc heap size ptr

/-- `rt_free` -/
def Heap.rtFree (heap : Heap) (rmem : Nat) : Option Heap :=
  if rmem = 0 then some heap
  else if rmem % 4 = 0 ∧ heap.heapPtr ≤ rmem ∧ rmem < heap.heapPtr + heap.heapEnd then
    let mem := rmem - sizeofStructMem - heap.heapPtr
    if heap.get mem .used ≠ 0 ∧ heap.get mem .magic = heapMagic then
      let heap := heap.set mem .used 0
      let heap := heap.set mem .magic heapMagic
      let heap := if mem < heap.lfree then { heap with lfree := mem } else heap
      let heap := { heap with usedMem := heap.usedMem - sizeSub (heap.get mem .next) mem }
      plugHoles heap mem
    else none
  else none

/-- How the first critical section of `rt_realloc` ends: with a result, or with the
size of the block that has to be moved. -/
inductive Resized where
  | done (rmem : Nat)
  | expand (size : Nat)
  deriving DecidableEq, Repr

/-- The first critical section of `rt_realloc`, for a size that is already aligned. -/
def resize (heap : Heap) (rmem newsize : Nat) : Option (Heap × Resized) :=
  if rmem < heap.heapPtr ∨ heap.heapPtr + heap.heapEnd ≤ rmem then some (heap, .done rmem)
  else
    let ptr := rmem - sizeofStructMem - heap.heapPtr
    let size := sizeSub (sizeSub (heap.get ptr .next) ptr) sizeofStructMem
    if size = newsize then some (heap, .done rmem)
    else if newsize + sizeofStructMem + minSizeAligned < size then
      let heap := { heap with usedMem := heap.usedMem - (size - newsize) }
      let ptr2 := ptr + sizeofStructMem + newsize
      let heap := linkBack (createBlock heap ptr ptr2) ptr2
      (plugHoles heap ptr2).map fun heap => (heap, .done rmem)
    else some (heap, .expand size)

/-- The size of the block at an address, as `rt_realloc` reads it. -/
def Heap.sizeAt (heap : Heap) (rmem : Nat) : Nat :=
  let ptr := rmem - sizeofStructMem - heap.heapPtr
  sizeSub (sizeSub (heap.get ptr .next) ptr) sizeofStructMem

/-- `rt_realloc` -/
def Heap.rtRealloc (heap : Heap) (rmem newsize : Nat) : Option (Heap × Nat) :=
  let newsize := rtAlign newsize
  if heap.memSizeAligned < newsize then some (heap, 0)
  else if newsize = 0 then (Heap.rtFree heap rmem).map fun heap => (heap, 0)
  else if rmem = 0 then Heap.rtMalloc heap newsize
  else
    (resize heap rmem newsize).bind fun
      | (heap, .done rmem) => some (heap, rmem)
      | (heap, .expand size) =>
          (Heap.rtMalloc heap newsize).bind fun
            | (heap, nmem) =>
                if nmem ≠ 0 then
                  let count := if size < newsize then size else newsize
                  let heap := { heap with memory := rtMemcpy heap.memory nmem rmem count }
                  (Heap.rtFree heap rmem).map fun heap => (heap, nmem)
                else some (heap, nmem)

/-- `rt_calloc` -/
def Heap.rtCalloc (heap : Heap) (count size : Nat) : Option (Heap × Nat) :=
  (Heap.rtMalloc heap (count * size % 4294967296)).map fun
    | (heap, p) =>
        if p ≠ 0 then
          ({ heap with memory := rtMemset heap.memory p 0 (count * size % 4294967296) }, p)
        else (heap, p)

end BerPiNbiot.Kernel
