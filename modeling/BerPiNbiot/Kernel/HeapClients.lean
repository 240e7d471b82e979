import BerPiNbiot.Kernel.Allocation
import BerPiNbiot.Transition.Core
import Mathlib.Data.List.Nodup

/-!
# The clients of the heap

Threads allocate blocks, store to the blocks they hold, resize and release them, in any
order.  Beside the heap runs a record of the blocks that are held, with the bytes that
their holders have stored: what the heap should be.  In every run in which the clients
keep to the interface, the heap is that.

The label `resize` is the first critical section of `rt_realloc`.  The rest of the
function allocates, stores and releases like any other client, so that the calls of
several threads may interleave there.
-/

namespace BerPiNbiot.Kernel

open BerPiNbiot.Text BerPiNbiot.Tiling BerPiNbiot.Transition

/-- A block that a client holds. -/
structure Block where
  address : Nat
  contents : Bytes
  deriving DecidableEq, Repr

/-- The heap and the blocks in the hands of the clients. -/
structure Clients where
  heap : Heap
  live : List Block

/-- What a client does with the heap.  `resize` is the first critical section of
`rt_realloc`, and `store` writes into a block that the client holds. -/
inductive Request where
  | malloc (size : Nat)
  | free (rmem : Nat)
  | resize (rmem newsize : Nat)
  | store (rmem offset : Nat) (bytes : Bytes)
  deriving DecidableEq, Repr

/-- The bytes of a block after some of them have been stored to. -/
def overwrite (contents : Bytes) (offset : Nat) (bytes : Bytes) : Bytes :=
  contents.take offset ++ bytes ++ contents.drop (offset + bytes.length)

/-- The bytes of a block after its size has changed: the old ones as far as they fit. -/
def resizeContents (contents : Bytes) (memory : Memory) (address newsize : Nat) : Bytes :=
  contents.take newsize ++ (memory.load address newsize).drop contents.length

/-- Change the block at an address. -/
def Block.change (rmem : Nat) (change : Bytes → Bytes) (block : Block) : Block :=
  if block.address = rmem then { block with contents := change block.contents } else block

/-- One move of a client. -/
def Clients.step : Step Clients Request
  | state, .malloc size =>
      (Heap.rtMalloc state.heap size).map fun
        | (heap, p) =>
            if p = 0 then ⟨heap, state.live⟩
            else ⟨heap, ⟨p, heap.memory.load p size⟩ :: state.live⟩
  | state, .free rmem =>
      (Heap.rtFree state.heap rmem).map fun heap =>
        ⟨heap, state.live.filter fun block => block.address ≠ rmem⟩
  | state, .resize rmem newsize =>
      (Kernel.resize state.heap rmem (rtAlign newsize)).map fun
        | (heap, .done _) =>
            ⟨heap, state.live.map (Block.change rmem fun contents =>
              resizeContents contents heap.memory rmem newsize)⟩
        | (heap, .expand _) => ⟨heap, state.live⟩
  | state, .store rmem offset bytes =>
      some
        ⟨{ state.heap with
            memory := state.heap.memory.after (storesAt (rmem + offset) bytes) },
          state.live.map (Block.change rmem fun contents => overwrite contents offset bytes)⟩

/-- The interface: a client releases, resizes and stores to blocks that it holds. -/
def Clients.allowed (state : Clients) : Request → Prop
  | .malloc size => size ≤ 4294967292
  | .free rmem => rmem = 0 ∨ ∃ block ∈ state.live, block.address = rmem
  | .resize rmem newsize =>
      newsize ≠ 0 ∧ newsize ≤ 4294967292 ∧ rtAlign newsize ≤ state.heap.memSizeAligned ∧
        ∃ block ∈ state.live, block.address = rmem
  | .store rmem offset bytes =>
      ∃ block ∈ state.live, block.address = rmem ∧ offset + bytes.length ≤ block.contents.length

instance (state : Clients) (request : Request) : Decidable (state.allowed request) :=
  match request with
  | .malloc _ => inferInstanceAs (Decidable (_ ≤ _))
  | .free _ => inferInstanceAs (Decidable (_ ∨ _))
  | .resize _ _ => inferInstanceAs (Decidable (_ ∧ _))
  | .store _ _ _ => inferInstanceAs (Decidable (∃ block ∈ state.live, _ ∧ _))

/-- A block that is held is a block of the tiling, with the bytes of its holder. -/
def Placed (heap : Heap) (segments : List Segment) (block : Block) : Prop :=
  ∃ position whole, block.address = heap.heapPtr + position + 12 ∧
    (position, ⟨whole, true⟩) ∈ spans 0 segments ∧ block.contents.length + 12 ≤ whole ∧
    heap.memory.load block.address block.contents.length = block.contents

/-- The blocks in use are the blocks that are held. -/
structure Tracks (state : Clients) (segments : List Segment) : Prop where
  valid : Valid state.heap segments
  distinct : (state.live.map Block.address).Nodup
  placed : ∀ block ∈ state.live, Placed state.heap segments block
  owned : ∀ position whole, (position, ⟨whole, true⟩) ∈ spans 0 segments →
    ∃ block ∈ state.live, block.address = state.heap.heapPtr + position + 12

/-! ## Bytes of a block -/

theorem load_take (memory : Memory) (address : Nat) {count whole : Nat} (le : count ≤ whole) :
    (memory.load address whole).take count = memory.load address count := by
  obtain ⟨rest, rfl⟩ := Nat.exists_eq_add_of_le le
  rw [Memory.load_add, List.take_left' (Memory.length_load _ _ _)]

theorem load_resizeContents {memory other : Memory} {address newsize : Nat} {contents : Bytes}
    (held : memory.load address contents.length = contents)
    (same : ∀ place, address ≤ place → place < address + newsize →
      place < address + contents.length → other place = memory place) :
    other.load address newsize = resizeContents contents other address newsize := by
  have first : (other.load address newsize).take contents.length = contents.take newsize := by
    by_cases shorter : contents.length ≤ newsize
    · rw [load_take _ _ shorter, List.take_of_length_le shorter]
      refine Eq.trans ?_ held
      apply Memory.load_congr
      intro place low high
      exact same place low (by omega) high
    · rw [List.take_of_length_le (by rw [Memory.length_load]; omega), ← held,
        load_take _ _ (by omega)]
      apply Memory.load_congr
      intro place low high
      exact same place low high (by omega)
  rw [resizeContents, ← first, List.take_append_drop]

theorem length_resizeContents (contents : Bytes) (memory : Memory) (address newsize : Nat) :
    (resizeContents contents memory address newsize).length = newsize := by
  simp only [resizeContents, List.length_append, List.length_take, List.length_drop,
    Memory.length_load]
  omega

theorem length_overwrite {contents bytes : Bytes} {offset : Nat}
    (inside : offset + bytes.length ≤ contents.length) :
    (overwrite contents offset bytes).length = contents.length := by
  simp only [overwrite, List.length_append, List.length_take, List.length_drop]
  omega

theorem load_overwrite {memory : Memory} {address offset : Nat} {contents bytes : Bytes}
    (held : memory.load address contents.length = contents)
    (inside : offset + bytes.length ≤ contents.length) :
    (memory.after (storesAt (address + offset) bytes)).load address contents.length =
      overwrite contents offset bytes := by
  obtain ⟨rest, sum⟩ := Nat.exists_eq_add_of_le inside
  have before : (memory.after (storesAt (address + offset) bytes)).load address offset =
      contents.take offset := by
    rw [← held, load_take _ _ (by omega)]
    apply Memory.load_congr
    intro place _ high
    exact Memory.after_storesAt_of_lt _ high
  have behind : (memory.after (storesAt (address + offset) bytes)).load
      (address + (offset + bytes.length)) rest = contents.drop (offset + bytes.length) := by
    have whole := held
    rw [sum, Memory.load_add] at whole
    have tail := congrArg (List.drop (offset + bytes.length)) whole
    rw [List.drop_left' (Memory.length_load _ _ _)] at tail
    rw [← tail]
    apply Memory.load_congr
    intro place low _
    apply Memory.after_storesAt_of_le
    omega
  rw [sum, Memory.load_add, Memory.load_add, before, Memory.load_after_storesAt, behind, overwrite]

/-- No block below the lowest free pointer is cut. -/
def Clients.above (state : Clients) : Request → Prop
  | .resize rmem newsize =>
      rtAlign newsize + sizeofStructMem + minSizeAligned < state.heap.sizeAt rmem →
        state.heap.heapPtr + state.heap.lfree + 12 ≤ rmem
  | _ => True

instance (state : Clients) (request : Request) : Decidable (state.above request) :=
  match request with
  | .malloc _ => isTrue trivial
  | .free _ => isTrue trivial
  | .resize _ _ => inferInstanceAs (Decidable (_ < _ → _ ≤ _))
  | .store _ _ _ => isTrue trivial

/-- A move leaves the heap where it lies, and the lowest free pointer is where it should
be unless a block below it is cut. -/
structure Moved (state next : Clients) (request : Request) (segments after : List Segment) :
    Prop where
  heapPtr : next.heap.heapPtr = state.heap.heapPtr
  memSizeAligned : next.heap.memSizeAligned = state.heap.memSizeAligned
  lowest : Lowest segments state.heap.lfree → state.above request → Lowest after next.heap.lfree

theorem Moved.refl (state : Clients) (request : Request) (segments : List Segment) :
    Moved state state request segments segments :=
  ⟨rfl, rfl, fun low _ => low⟩

/-! ## One move -/

section Moves

variable {state : Clients} {segments after : List Segment} {target : Heap} {block : Block}

/-- A block in use is where its address says. -/
theorem Placed.used (placed : Placed state.heap segments block) {position : Nat}
    (address : block.address = state.heap.heapPtr + position + 12) :
    ∃ whole, (position, ⟨whole, true⟩) ∈ spans 0 segments ∧ block.contents.length + 12 ≤ whole ∧
      state.heap.memory.load block.address block.contents.length = block.contents := by
  obtain ⟨other, whole, same, member, fits, held⟩ := placed
  have equal : other = position := by omega
  subst equal
  exact ⟨whole, member, fits, held⟩

/-- What happens to another block does not concern this one. -/
theorem Placed.other (placed : Placed state.heap segments block) {position : Nat}
    (others : Others position segments after state.heap target)
    (away : block.address ≠ state.heap.heapPtr + position + 12) :
    Placed target after block := by
  obtain ⟨own, whole, address, member, fits, held⟩ := placed
  have different : own ≠ position := by
    rintro rfl
    exact away address
  refine ⟨own, whole, ?_, (others.blocks own _ rfl different).mpr member, fits, ?_⟩
  · rw [others.heapPtr]
    exact address
  · refine Eq.trans ?_ held
    apply Memory.load_congr
    intro place low high
    exact others.data own _ rfl different member place (by omega) (by simp only; omega)

theorem Tracks.malloc (tracks : Tracks state segments) {size : Nat} (small : size ≤ 4294967292) :
    ∃ next after, state.step (.malloc size) = some next ∧ Tracks next after ∧
      Moved state next (.malloc size) segments after ∧
      ∀ other segment, segment.used = true → (other, segment) ∈ spans 0 segments →
        (other, segment) ∈ spans 0 after := by
  by_cases zero : size = 0
  · refine ⟨state, segments, ?_, tracks, .refl _ _ _, fun _ _ _ => id⟩
    simp only [Clients.step, Heap.rtMalloc, if_pos zero, Option.map_some, if_true]
  · rcases tracks.valid.rt_malloc zero with
      ⟨failed, -⟩ | ⟨position, target, after, taken, suitable, -, returned, valid,
        enough, member, others, -, lowest⟩
    · refine ⟨state, segments, ?_, tracks, .refl _ _ _, fun _ _ _ => id⟩
      simp only [Clients.step, failed, Option.map_some, if_true]
    · obtain ⟨whole, free, -, -, -⟩ := suitable
      have covers : size ≤ mallocSize size := by
        refine le_trans ?_ (mallocSize_spec size).2.2
        unfold rtAlign
        omega
      have fresh (other : Nat) (segment : Segment) (busy : segment.used = true)
          (used : (other, segment) ∈ spans 0 segments) : other ≠ position := by
        rintro rfl
        rw [← tracks.valid.layout.block_eq free used] at busy
        contradiction
      have away (block : Block) (held : block ∈ state.live) :
          block.address ≠ state.heap.heapPtr + position + 12 := by
        intro same
        obtain ⟨other, used, -⟩ := (tracks.placed block held).used same
        exact fresh position _ rfl used rfl
      refine ⟨⟨target, ⟨state.heap.heapPtr + position + 12,
        target.memory.load (state.heap.heapPtr + position + 12) size⟩ :: state.live⟩, after, ?_,
        ⟨valid, ?_, ?_, ?_⟩, ⟨others.heapPtr, others.memSizeAligned, fun low _ => lowest low⟩, ?_⟩
      · simp only [Clients.step, returned, Option.map_some]
        rw [if_neg (by omega)]
      · rw [List.map_cons, List.nodup_cons]
        refine ⟨?_, tracks.distinct⟩
        intro again
        obtain ⟨block, held, same⟩ := List.mem_map.mp again
        exact away block held same
      · rw [List.forall_mem_cons]
        constructor
        · refine ⟨position, taken, ?_, member, ?_, ?_⟩
          · simp only [others.heapPtr]
          · rw [Memory.length_load]
            omega
          · rw [Memory.length_load]
        · intro block held
          exact (tracks.placed block held).other others (away block held)
      · intro other size used
        simp only [others.heapPtr, List.mem_cons, exists_eq_or_imp]
        by_cases same : other = position
        · left
          rw [same]
        · right
          exact tracks.owned other size ((others.blocks other _ rfl same).mp used)
      · intro other segment busy used
        exact (others.blocks other segment busy (fresh other segment busy used)).mpr used

theorem Tracks.free (tracks : Tracks state segments) {rmem : Nat}
    (allowed : state.allowed (.free rmem)) :
    ∃ next after, state.step (.free rmem) = some next ∧ Tracks next after ∧
      Moved state next (.free rmem) segments after := by
  rcases allowed with rfl | ⟨block, held, rfl⟩
  · refine ⟨state, segments, ?_, tracks, .refl _ _ _⟩
    have all : state.live.filter (fun block => block.address ≠ 0) = state.live := by
      rw [List.filter_eq_self]
      intro block held
      obtain ⟨position, whole, address, -⟩ := tracks.placed block held
      rw [decide_eq_true_eq]
      omega
    simp only [Clients.step, Heap.rtFree, if_true, Option.map_some, all]
  · obtain ⟨position, whole, address, member, -, -⟩ := tracks.placed block held
    obtain ⟨front, back, rfl, place⟩ := mem_spans_iff.mp member
    rw [Nat.zero_add] at place
    subst place
    obtain ⟨target, after, returned, valid, others, gone, lowest⟩ := tracks.valid.rt_free
    refine ⟨⟨target, state.live.filter fun other => other.address ≠ block.address⟩, after, ?_,
      ⟨valid, ?_, ?_, ?_⟩, others.heapPtr, others.memSizeAligned, fun low _ => lowest low⟩
    · simp only [Clients.step, address, returned, Option.map_some]
    · exact (tracks.distinct).sublist (List.filter_sublist.map _)
    · intro other kept
      rw [List.mem_filter, decide_eq_true_eq] at kept
      exact (tracks.placed other kept.1).other others (by rw [← address]; exact kept.2)
    · intro other size used
      have different : other ≠ total front := by
        rintro rfl
        exact gone _ rfl used
      obtain ⟨owner, holds, same⟩ :=
        tracks.owned other size ((others.blocks other _ rfl different).mp used)
      refine ⟨owner, ?_, ?_⟩
      · rw [List.mem_filter, decide_eq_true_eq]
        refine ⟨holds, ?_⟩
        omega
      · rw [others.heapPtr]
        exact same

/-- The blocks of a record in which one of them has changed. -/
theorem mem_map_change {rmem : Nat} {change : Bytes → Bytes} {live : List Block} {block : Block}
    (member : block ∈ live.map (Block.change rmem change)) :
    (block ∈ live ∧ block.address ≠ rmem) ∨
      ∃ before ∈ live, before.address = rmem ∧
        block = { before with contents := change before.contents } := by
  obtain ⟨before, held, rfl⟩ := List.mem_map.mp member
  unfold Block.change
  split
  · rename_i same
    exact Or.inr ⟨before, held, same, rfl⟩
  · rename_i different
    exact Or.inl ⟨held, different⟩

theorem map_address_change (rmem : Nat) (change : Bytes → Bytes) (live : List Block) :
    (live.map (Block.change rmem change)).map Block.address = live.map Block.address := by
  rw [List.map_map]
  apply List.map_congr_left
  intro block _
  simp only [Function.comp_apply, Block.change]
  split <;> rfl

/-- One block changes in place: it is enough to look at that block. -/
theorem Tracks.change (tracks : Tracks state segments) {position : Nat}
    {change : Bytes → Bytes} (valid : Valid target after)
    (others : Others position segments after state.heap target)
    (own : ∀ block ∈ state.live, block.address = state.heap.heapPtr + position + 12 →
      Placed target after { block with contents := change block.contents })
    (held : ∃ block ∈ state.live, block.address = state.heap.heapPtr + position + 12) :
    Tracks ⟨target, state.live.map
      (Block.change (state.heap.heapPtr + position + 12) change)⟩ after where
  valid := valid
  distinct := by
    rw [map_address_change]
    exact tracks.distinct
  placed := by
    intro block member
    rcases mem_map_change member with ⟨kept, away⟩ | ⟨before, kept, same, rfl⟩
    · exact (tracks.placed block kept).other others away
    · exact own before kept same
  owned := by
    intro other whole used
    have owner : ∃ block ∈ state.live, block.address = state.heap.heapPtr + other + 12 := by
      by_cases same : other = position
      · rw [same]
        exact held
      · exact tracks.owned other whole ((others.blocks other _ rfl same).mp used)
    obtain ⟨block, kept, address⟩ := owner
    refine ⟨Block.change _ change block, List.mem_map_of_mem kept, ?_⟩
    simp only [others.heapPtr]
    rw [← address]
    unfold Block.change
    split <;> rfl

theorem Tracks.resize (tracks : Tracks state segments) {rmem newsize : Nat}
    (allowed : state.allowed (.resize rmem newsize)) :
    ∃ next after, state.step (.resize rmem newsize) = some next ∧ Tracks next after ∧
      Moved state next (.resize rmem newsize) segments after ∧
      (state.heap.lfree = state.heap.heapEnd → next.heap.lfree = next.heap.heapEnd) := by
  obtain ⟨nonzero, small, -, block, held, rfl⟩ := allowed
  obtain ⟨position, whole, address, member, fits, loaded⟩ := tracks.placed block held
  obtain ⟨front, back, rfl, place⟩ := mem_spans_iff.mp member
  rw [Nat.zero_add] at place
  subst place
  have covers : newsize ≤ rtAlign newsize ∧ 4 ≤ rtAlign newsize ∧ rtAlign newsize % 4 = 0 := by
    unfold rtAlign
    omega
  have unchanged : Others (total front) (front ++ ⟨whole, true⟩ :: back)
      (front ++ ⟨whole, true⟩ :: back) state.heap state.heap :=
    ⟨rfl, rfl, fun _ _ _ _ => Iff.rfl, fun _ _ _ _ _ _ _ _ => rfl⟩
  have resized := tracks.valid.resize_eq (rtAlign newsize)
  simp only [Clients.step, address]
  by_cases same : whole - 12 = rtAlign newsize
  · rw [if_pos same] at resized
    rw [resized, Option.map_some]
    refine ⟨_, _, rfl, tracks.change tracks.valid unchanged ?_ ⟨block, held, address⟩,
      ⟨rfl, rfl, fun low _ => low⟩, id⟩
    intro other kept otherAddress
    obtain ⟨size, used, enough, bytes⟩ := (tracks.placed other kept).used otherAddress
    refine ⟨total front, whole, otherAddress, member, ?_, ?_⟩
    · rw [length_resizeContents]
      omega
    · rw [length_resizeContents]
      simp only
      rw [← otherAddress]
      exact load_resizeContents bytes fun _ _ _ _ => rfl
  · by_cases smaller : rtAlign newsize + 24 < whole - 12
    · obtain ⟨target, after, returned, valid, own, others, bytes, lowest, full⟩ :=
        tracks.valid.shrink covers.2.1 covers.2.2 smaller
      rw [returned, Option.map_some]
      refine ⟨_, after, rfl, tracks.change valid others ?_ ⟨block, held, address⟩,
        ⟨others.heapPtr, others.memSizeAligned, fun low above => lowest low ?_⟩, ?_⟩
      · intro other kept otherAddress
        obtain ⟨size, used, enough, loads⟩ := (tracks.placed other kept).used otherAddress
        refine ⟨total front, rtAlign newsize + 12, ?_, own, ?_, ?_⟩
        · rw [others.heapPtr]
          exact otherAddress
        · rw [length_resizeContents]
          omega
        · rw [length_resizeContents]
          simp only
          rw [← otherAddress]
          apply load_resizeContents loads
          intro place low high _
          exact bytes place (by omega) (by omega)
      · have size := tracks.valid.sizeAt_eq
        have below := above (by
          rw [size]
          exact smaller)
        omega
      · intro ended
        simp only [Heap.heapEnd, others.memSizeAligned]
        exact full ended
    · rw [if_neg same, if_neg smaller] at resized
      rw [resized, Option.map_some]
      exact ⟨_, _, rfl, tracks, .refl _ _ _, id⟩

theorem Tracks.store (tracks : Tracks state segments) {rmem offset : Nat} {bytes : Bytes}
    (allowed : state.allowed (.store rmem offset bytes)) :
    ∃ next after, state.step (.store rmem offset bytes) = some next ∧ Tracks next after ∧
      Moved state next (.store rmem offset bytes) segments after := by
  obtain ⟨block, held, rfl, inside⟩ := allowed
  obtain ⟨position, whole, address, member, fits, loaded⟩ := tracks.placed block held
  have outside (place : Nat) (away : place < state.heap.heapPtr + position + 12 ∨
      state.heap.heapPtr + position + whole ≤ place) :
      state.heap.memory.after (storesAt (block.address + offset) bytes) place =
        state.heap.memory place := by
    rcases away with below | above
    · exact Memory.after_storesAt_of_lt _ (by omega)
    · exact Memory.after_storesAt_of_le (by omega)
  have valid : Valid { state.heap with
      memory := state.heap.memory.after (storesAt (block.address + offset) bytes) } segments :=
    ⟨tracks.valid.layout.store member outside, tracks.valid.merged, tracks.valid.lfree,
      tracks.valid.usedMem, tracks.valid.maxMem⟩
  have others : Others position segments segments state.heap { state.heap with
      memory := state.heap.memory.after (storesAt (block.address + offset) bytes) } := by
    refine ⟨rfl, rfl, fun _ _ _ _ => Iff.rfl, ?_⟩
    intro other segment used away otherMember place low high
    apply outside
    rcases spans_disjoint member otherMember with ⟨same, -⟩ | behind | before
    · exact absurd same.symm away
    · simp only at behind
      omega
    · omega
  simp only [Clients.step]
  refine ⟨_, segments, rfl, ?_, rfl, rfl, fun low _ => low⟩
  rw [address] at valid others ⊢
  apply tracks.change valid others
  · intro other kept otherAddress
    have same : other = block := by
      apply List.inj_on_of_nodup_map tracks.distinct kept held
      rw [otherAddress, address]
    subst same
    refine ⟨position, whole, otherAddress, member, ?_, ?_⟩
    · rw [length_overwrite inside]
      exact fits
    · rw [length_overwrite inside]
      simp only
      rw [← address]
      exact load_overwrite loaded inside
  · exact ⟨block, held, address⟩

/-- Every allowed move is made, and the record stays true. -/
theorem Tracks.step (tracks : Tracks state segments) {request : Request}
    (allowed : state.allowed request) :
    ∃ next after, state.step request = some next ∧ Tracks next after ∧
      Moved state next request segments after := by
  cases request with
  | malloc size =>
      obtain ⟨next, after, step, kept, moved, -⟩ := tracks.malloc allowed
      exact ⟨next, after, step, kept, moved⟩
  | free rmem => exact tracks.free allowed
  | resize rmem newsize =>
      obtain ⟨next, after, step, kept, moved, -⟩ := tracks.resize allowed
      exact ⟨next, after, step, kept, moved⟩
  | store rmem offset bytes => exact tracks.store allowed

/-- Every allowed run is made, and the record is true at its end. -/
theorem Tracks.run (tracks : Tracks state segments) {run : List Request}
    (guarded : Guarded Clients.step Clients.allowed state run) :
    ∃ target after, exec Clients.step state run = some target ∧ Tracks target after ∧
      target.heap.heapPtr = state.heap.heapPtr ∧
      target.heap.memSizeAligned = state.heap.memSizeAligned ∧
      (Lowest segments state.heap.lfree → Guarded Clients.step Clients.above state run →
        Lowest after target.heap.lfree) := by
  induction run generalizing state segments with
  | nil => exact ⟨state, segments, rfl, tracks, rfl, rfl, fun low _ => low⟩
  | cons request rest ih =>
      obtain ⟨middle, between, step, kept, moved⟩ := tracks.step guarded.1
      obtain ⟨target, after, executed, last, heapPtr, size, lowest⟩ :=
        ih kept (guarded_cons_of_step guarded step).2
      refine ⟨target, after, ?_, last, heapPtr.trans moved.heapPtr,
        size.trans moved.memSizeAligned, ?_⟩
      · rw [exec_cons, step]
        exact executed
      · intro low above
        obtain ⟨here, later⟩ := guarded_cons_of_step above step
        exact lowest (moved.lowest low here) later

end Moves

/-! ## `rt_realloc` and `rt_calloc` -/

section Composed

variable {state : Clients} {segments : List Segment} {block : Block}

theorem rtMalloc_of_step {next : Clients} {size : Nat}
    (step : state.step (.malloc size) = some next) :
    ∃ p, Heap.rtMalloc state.heap size = some (next.heap, p) ∧
      next.live = if p = 0 then state.live
        else ⟨p, next.heap.memory.load p size⟩ :: state.live := by
  simp only [Clients.step, Option.map_eq_some_iff] at step
  obtain ⟨⟨heap, p⟩, returned, rfl⟩ := step
  refine ⟨p, ?_, ?_⟩
  · simp only
    split <;> exact returned
  · simp only
    split <;> rfl

/-- `rt_calloc` is an allocation followed by stores of zeros. -/
theorem calloc_run (tracks : Tracks state segments) {count size : Nat}
    (small : count * size ≤ 4294967292) :
    ∃ run target p, Guarded Clients.step Clients.allowed state run ∧
      exec Clients.step state run = some target ∧
      Heap.rtCalloc state.heap count size = some (target.heap, p) ∧
      (p ≠ 0 → ⟨p, List.replicate (count * size) 0⟩ ∈ target.live) := by
  obtain ⟨next, after, step, kept, -⟩ := tracks.malloc small
  obtain ⟨p, returned, live⟩ := rtMalloc_of_step step
  have wrapped : count * size % 4294967296 = count * size := Nat.mod_eq_of_lt (by omega)
  by_cases null : p = 0
  · refine ⟨[.malloc (count * size)], next, 0, ⟨small, ?_⟩, ?_, ?_,
      fun nonzero => absurd rfl nonzero⟩
    · rw [step]
      trivial
    · rw [exec_cons, step]
      rfl
    · rw [Heap.rtCalloc, wrapped, returned, null]
      rfl
  · rw [if_neg null] at live
    have allowed : next.allowed (.store p 0 (List.replicate (count * size) 0)) := by
      refine ⟨_, by rw [live]; exact List.mem_cons_self, rfl, ?_⟩
      rw [List.length_replicate, Memory.length_load, Nat.zero_add]
    obtain ⟨target, -, stored, -⟩ := kept.store allowed
    refine ⟨[.malloc (count * size), .store p 0 (List.replicate (count * size) 0)], target, p,
      ⟨small, ?_⟩, ?_, ?_, ?_⟩
    · rw [step]
      refine ⟨allowed, ?_⟩
      rw [stored]
      trivial
    · rw [exec_cons, step, Option.bind_some, exec_cons, stored]
      rfl
    · have stores := Option.some.inj stored
      rw [Heap.rtCalloc, wrapped, returned, ← stores]
      simp only [Option.map_some, if_pos null, rtMemset_eq]
      rfl
    · intro _
      rw [← Option.some.inj stored]
      refine List.mem_map.mpr ⟨_, by rw [live]; exact List.mem_cons_self, ?_⟩
      simp only [Block.change, if_true, overwrite, List.take_zero, List.nil_append,
        List.length_replicate, Nat.zero_add]
      rw [List.drop_eq_nil_of_le (by rw [Memory.length_load]), List.append_nil]

/-- `rt_memcpy` from one block to another is a store of the bytes of the first. -/
theorem memcpy_between {next : Clients} {after : List Segment} (kept : Tracks next after)
    {position other whole taken count : Nat}
    (member : (position, ⟨whole, true⟩) ∈ spans 0 after)
    (target : (other, ⟨taken, true⟩) ∈ spans 0 after) (different : position ≠ other)
    (short : count + 12 ≤ whole) (fits : count + 12 ≤ taken) :
    rtMemcpy next.heap.memory (next.heap.heapPtr + other + 12) (next.heap.heapPtr + position + 12)
        count =
      next.heap.memory.after (storesAt (next.heap.heapPtr + other + 12)
        (next.heap.memory.load (next.heap.heapPtr + position + 12) count)) := by
  apply (block_copies _ _ _ _).1
  have room := kept.valid.layout.room _ (mem_of_mem_spans target)
  rcases spans_disjoint member target with ⟨same, -⟩ | behind | before
  · exact absurd same different
  · right
    simp only at behind
    omega
  · left
    simp only at before
    omega

theorem take_prefix_load {memory : Memory} {address count newsize : Nat} {contents : Bytes}
    (held : memory.load address contents.length = contents)
    (enough : min contents.length newsize ≤ count) :
    contents.take newsize <+: memory.load address count := by
  have short : (contents.take newsize).length ≤ contents.length := by
    rw [List.length_take]
    exact Nat.min_le_right _ _
  have first : contents.take newsize = memory.load address (min contents.length newsize) := by
    rw [← load_take memory address (Nat.min_le_left _ _), held, ← List.take_take,
      List.take_of_length_le short]
  rw [first, ← load_take memory address enough]
  exact List.take_prefix _ _

/-- The blocks that a client still holds after another block has changed. -/
theorem mem_map_change_of_ne {rmem : Nat} {change : Bytes → Bytes} {live : List Block}
    (held : block ∈ live) (away : block.address ≠ rmem) :
    block ∈ live.map (Block.change rmem change) := by
  refine List.mem_map.mpr ⟨block, held, ?_⟩
  rw [Block.change, if_neg away]

/-- The second half of `rt_realloc`: a block is moved to a larger place. -/
theorem expand_run (tracks : Tracks state segments) (held : block ∈ state.live)
    {position whole size newsize : Nat}
    (address : block.address = state.heap.heapPtr + position + 12)
    (member : (position, ⟨whole, true⟩) ∈ spans 0 segments)
    (small : size ≤ 4294967292) (covers : newsize ≤ size) :
    ∃ run target p, Guarded Clients.step Clients.allowed state run ∧
      exec Clients.step state run = some target ∧
      ((Heap.rtMalloc state.heap size).bind fun
        | (heap, nmem) =>
            if nmem ≠ 0 then
              let count := if whole - 12 < size then whole - 12 else size
              let heap := { heap with memory := rtMemcpy heap.memory nmem block.address count }
              (Heap.rtFree heap block.address).map fun heap => (heap, nmem)
            else some (heap, nmem)) = some (target.heap, p) ∧
      (∀ other ∈ state.live, other.address ≠ block.address → other ∈ target.live) ∧
      (p = 0 → block ∈ target.live) ∧
      (p ≠ 0 → ∃ moved ∈ target.live, moved.address = p ∧ newsize ≤ moved.contents.length ∧
        block.contents.take newsize <+: moved.contents) := by
  obtain ⟨next, after, step, kept, moved, same⟩ := tracks.malloc small
  obtain ⟨p, returned, live⟩ := rtMalloc_of_step step
  by_cases null : p = 0
  · rw [if_pos null] at live
    subst null
    refine ⟨[.malloc size], next, 0, ⟨small, ?_⟩, ?_, ?_, ?_, ?_, fun nonzero => absurd rfl nonzero⟩
    · rw [step]
      trivial
    · rw [exec_cons, step]
      rfl
    · rw [returned]
      rfl
    · intro other holds _
      rw [live]
      exact holds
    · intro _
      rw [live]
      exact held
  · rw [if_neg null] at live
    have fresh : ⟨p, next.heap.memory.load p size⟩ ∈ next.live := by
      rw [live]
      exact List.mem_cons_self
    have still : block ∈ next.live := by
      rw [live]
      exact List.mem_cons_of_mem _ held
    obtain ⟨other, taken, place, target, room, -⟩ := kept.placed _ fresh
    rw [Memory.length_load] at room
    simp only at place
    obtain ⟨again, size', own, ownMember, fits, loaded⟩ := kept.placed block still
    rw [← moved.heapPtr] at address
    have equal : again = position := by omega
    subst equal
    have stays := same _ _ rfl member
    have ownSize : size' = whole :=
      congrArg Segment.size (kept.valid.layout.block_eq ownMember stays)
    subst ownSize
    have apart (older : Block) (holds : older ∈ state.live) : older.address ≠ p := by
      intro clash
      have distinct := kept.distinct
      rw [live, List.map_cons, List.nodup_cons] at distinct
      exact distinct.1 (List.mem_map.mpr ⟨older, holds, clash⟩)
    have away := apart block held
    generalize counted : (if size' - 12 < size then size' - 12 else size) = count
    have bounds : count + 12 ≤ size' ∧ count ≤ size ∧
        min block.contents.length newsize ≤ count := by
      rw [← counted]
      split <;> omega
    have copy := memcpy_between kept ownMember target (by omega) bounds.1 (by omega)
    rw [← own, ← place] at copy
    generalize bytesEq : next.heap.memory.load block.address count = bytes at copy
    have length : bytes.length = count := by rw [← bytesEq, Memory.length_load]
    have storing : next.allowed (.store p 0 bytes) := by
      refine ⟨_, fresh, rfl, ?_⟩
      rw [Memory.length_load, length]
      omega
    obtain ⟨filled, between, stored, keeps, -⟩ := kept.store storing
    have filledEq := Option.some.inj stored
    have freeing : filled.allowed (.free block.address) := by
      right
      refine ⟨block, ?_, rfl⟩
      rw [← filledEq]
      exact mem_map_change_of_ne still away
    obtain ⟨target, -, released, -, -⟩ := keeps.free freeing
    obtain ⟨heap, freed, targetEq⟩ := Option.map_eq_some_iff.mp released
    refine ⟨[.malloc size, .store p 0 bytes, .free block.address], target, p, ⟨small, ?_⟩, ?_, ?_,
      ?_, fun zero => absurd zero null, fun _ => ?_⟩
    · rw [step]
      refine ⟨storing, ?_⟩
      rw [stored]
      refine ⟨freeing, ?_⟩
      rw [released]
      trivial
    · rw [exec_cons, step, Option.bind_some, exec_cons, stored, Option.bind_some, exec_cons,
        released]
      rfl
    · rw [returned, Option.bind_some]
      simp only [if_pos null, copy]
      have memory : { next.heap with memory := next.heap.memory.after (storesAt p bytes) } =
          filled.heap := by
        rw [← filledEq]
        rfl
      rw [memory, freed, ← targetEq]
      rfl
    · intro other holds different
      rw [← targetEq, List.mem_filter, decide_eq_true_eq]
      refine ⟨?_, different⟩
      rw [← filledEq]
      apply mem_map_change_of_ne
      · rw [live]
        exact List.mem_cons_of_mem _ holds
      · exact apart other holds
    · refine ⟨⟨p, overwrite (next.heap.memory.load p size) 0 bytes⟩, ?_, rfl, ?_, ?_⟩
      · rw [← targetEq, List.mem_filter, decide_eq_true_eq]
        refine ⟨?_, Ne.symm away⟩
        rw [← filledEq]
        refine List.mem_map.mpr ⟨_, fresh, ?_⟩
        rw [Block.change, if_pos rfl]
      · rw [length_overwrite (by rw [Memory.length_load, length]; omega), Memory.length_load]
        exact covers
      · simp only [overwrite, List.take_zero, List.nil_append]
        apply List.IsPrefix.trans _ (List.prefix_append _ _)
        rw [← bytesEq]
        exact take_prefix_load loaded bounds.2.2

/-- `rt_realloc` is a run of moves that any client could make.  Where it succeeds, the
block at the result begins with the old bytes as far as they fit, and no other block
changes; where it fails, the block is still held. -/
theorem realloc_run (tracks : Tracks state segments) (held : block ∈ state.live) {newsize : Nat}
    (nonzero : newsize ≠ 0) (small : newsize ≤ 4294967292)
    (fits : rtAlign newsize ≤ state.heap.memSizeAligned) :
    ∃ run target p, Guarded Clients.step Clients.allowed state run ∧
      exec Clients.step state run = some target ∧
      Heap.rtRealloc state.heap block.address newsize = some (target.heap, p) ∧
      (∀ other ∈ state.live, other.address ≠ block.address → other ∈ target.live) ∧
      (p = 0 → block ∈ target.live) ∧
      (p ≠ 0 → ∃ moved ∈ target.live, moved.address = p ∧ newsize ≤ moved.contents.length ∧
        block.contents.take newsize <+: moved.contents) := by
  obtain ⟨position, whole, address, member, -, -⟩ := tracks.placed block held
  have covers : newsize ≤ rtAlign newsize ∧ rtAlign newsize ≠ 0 ∧ rtAlign newsize ≤ 4294967292 := by
    unfold rtAlign
    omega
  have allowed : state.allowed (.resize block.address newsize) :=
    ⟨nonzero, small, fits, block, held, rfl⟩
  have unfolded : Heap.rtRealloc state.heap block.address newsize =
      (resize state.heap block.address (rtAlign newsize)).bind fun
        | (heap, .done rmem) => some (heap, rmem)
        | (heap, .expand size) =>
            (Heap.rtMalloc heap (rtAlign newsize)).bind fun
              | (heap, nmem) =>
                  if nmem ≠ 0 then
                    let count := if size < rtAlign newsize then size else rtAlign newsize
                    let heap :=
                      { heap with memory := rtMemcpy heap.memory nmem block.address count }
                    (Heap.rtFree heap block.address).map fun heap => (heap, nmem)
                  else some (heap, nmem) := by
    simp only [Heap.rtRealloc]
    rw [if_neg (by omega), if_neg covers.2.1]
    exact if_neg (by omega)
  have resized : (∃ heap, resize state.heap block.address (rtAlign newsize) =
        some (heap, .done block.address)) ∨
      resize state.heap block.address (rtAlign newsize) =
        some (state.heap, .expand (whole - 12)) := by
    obtain ⟨next, -, step, -⟩ := tracks.resize allowed
    obtain ⟨front, back, rfl, place⟩ := mem_spans_iff.mp member
    rw [Nat.zero_add] at place
    subst place
    have equation := tracks.valid.resize_eq (rtAlign newsize)
    rw [← address] at equation
    obtain ⟨⟨heap, outcome⟩, returned, -⟩ := Option.map_eq_some_iff.mp step
    rw [returned] at equation ⊢
    split at equation
    · cases equation
      exact Or.inl ⟨_, rfl⟩
    · split at equation
      · obtain ⟨cut, -, pair⟩ := Option.map_eq_some_iff.mp equation.symm
        cases pair
        exact Or.inl ⟨_, rfl⟩
      · cases equation
        exact Or.inr rfl
  rcases resized with ⟨heap, done⟩ | expand
  · have step : state.step (.resize block.address newsize) = some ⟨heap, state.live.map
        (Block.change block.address fun contents =>
          resizeContents contents heap.memory block.address newsize)⟩ := by
      simp only [Clients.step, done, Option.map_some]
    refine ⟨[.resize block.address newsize], ⟨heap, state.live.map (Block.change block.address
      fun contents => resizeContents contents heap.memory block.address newsize)⟩, block.address,
      ⟨allowed, ?_⟩, ?_, ?_, ?_, ?_, ?_⟩
    · rw [step]
      trivial
    · rw [exec_cons, step]
      rfl
    · rw [unfolded, done]
      rfl
    · intro other holds different
      exact mem_map_change_of_ne holds different
    · intro zero
      omega
    · intro _
      refine ⟨Block.change block.address _ block, List.mem_map_of_mem held, ?_, ?_, ?_⟩
      · rw [Block.change, if_pos rfl]
      · rw [Block.change, if_pos rfl, length_resizeContents]
      · rw [Block.change, if_pos rfl]
        exact List.prefix_append _ _
  · have step : state.step (.resize block.address newsize) = some state := by
      simp only [Clients.step, expand, Option.map_some]
    obtain ⟨run, target, p, guarded, executed, returned, rest⟩ :=
      expand_run tracks held address member covers.2.2 covers.1
    refine ⟨.resize block.address newsize :: run, target, p, ⟨allowed, ?_⟩, ?_, ?_, rest⟩
    · rw [step]
      exact guarded
    · rw [exec_cons, step]
      exact executed
    · rw [unfolded, expand]
      exact returned

/-- `rt_realloc` with a size that is rounded to 0 releases the block. -/
theorem realloc_released (tracks : Tracks state segments) (held : block ∈ state.live)
    {newsize : Nat} (zero : rtAlign newsize = 0) :
    ∃ target, state.step (.free block.address) = some target ∧
      Heap.rtRealloc state.heap block.address newsize = some (target.heap, 0) ∧
      target.live = state.live.filter fun other => other.address ≠ block.address := by
  obtain ⟨target, -, step, -⟩ := tracks.free (Or.inr ⟨block, held, rfl⟩)
  obtain ⟨heap, freed, rfl⟩ := Option.map_eq_some_iff.mp step
  refine ⟨_, step, ?_, rfl⟩
  simp only [Heap.rtRealloc, zero]
  rw [if_neg (Nat.not_lt_zero _), if_pos trivial, freed]
  rfl

end Composed

/-! ## Whole runs -/

/-- The variables of `mem.c` before `rt_system_heap_init`. -/
def unusedHeap (memory : Memory) : Heap :=
  ⟨memory, 0, 0, 0, 0, 0⟩

/-- The heap is initialized and no block is held. -/
def Clients.start (memory : Memory) (beginAddr endAddr : Nat) : Clients :=
  ⟨rtSystemHeapInit (unusedHeap memory) beginAddr endAddr, []⟩

section Runs

variable {memory : Memory} {beginAddr endAddr : Nat}

/-- The two structures that `rt_system_heap_init` writes. -/
theorem init_structures (heap : Heap) {last : Nat} (away : 12 ≤ last) (small : last < 4294967296) :
    let written := ((((((((heap.set 0 .magic heapMagic).set 0 .next last).set 0 .prev 0).set 0 .used
      0).set last .magic heapMagic).set last .used 1).set last .next last).set last .prev last)
    written.get 0 = header false last 0 ∧ written.get last .used = 1 := by
  constructor
  · simp only [Heap.get_set_of_apart _ _ _ (Or.inl (by omega : 0 + 12 ≤ last))]
    funext field
    cases field with
    | magic =>
        rw [Heap.get_set_of_ne _ _ _ (by decide), Heap.get_set_of_ne _ _ _ (by decide),
          Heap.get_set_of_ne _ _ _ (by decide), Heap.get_set_self _ _ (by decide)]
        rfl
    | used => exact Heap.get_set_self _ _ (by decide)
    | next =>
        rw [Heap.get_set_of_ne _ _ _ (by decide), Heap.get_set_of_ne _ _ _ (by decide),
          Heap.get_set_self _ _ small]
        rfl
    | prev =>
        rw [Heap.get_set_of_ne _ _ _ (by decide), Heap.get_set_self _ _ (by decide)]
        rfl
  · rw [Heap.get_set_of_ne _ _ _ (by decide), Heap.get_set_of_ne _ _ _ (by decide),
      Heap.get_set_self _ _ (by decide)]

/-- The initial heap is one free block. -/
theorem Tracks.start (room : rtAlign beginAddr + 36 ≤ rtAlignDown endAddr)
    (bounded : endAddr < 4294967296) :
    (Clients.start memory beginAddr endAddr).heap.heapPtr = rtAlign beginAddr ∧
      (Clients.start memory beginAddr endAddr).heap.heapEnd =
        rtAlignDown endAddr - rtAlign beginAddr - 12 ∧
      Tracks (Clients.start memory beginAddr endAddr)
        [⟨rtAlignDown endAddr - rtAlign beginAddr - 12, false⟩] := by
  have divided : rtAlign beginAddr % 4 = 0 ∧ rtAlignDown endAddr % 4 = 0 ∧
      rtAlignDown endAddr ≤ endAddr := by
    unfold rtAlign rtAlignDown
    omega
  generalize lower : rtAlign beginAddr = first at *
  generalize upper : rtAlignDown endAddr = second at *
  have last : second - first - 24 + 12 = second - first - 12 := by omega
  have equation : (Clients.start memory beginAddr endAddr).heap = ((((((((Heap.set
      ⟨memory, first, second - first - 24, 0, 0, 0⟩ 0 .magic heapMagic).set 0 .next
      (second - first - 12)).set 0 .prev 0).set 0 .used 0).set (second - first - 12) .magic
      heapMagic).set (second - first - 12) .used 1).set (second - first - 12) .next
      (second - first - 12)).set (second - first - 12) .prev (second - first - 12)) := by
    simp only [Clients.start, rtSystemHeapInit, lower, upper]
    rw [if_pos (by simp only [sizeofStructMem]; omega)]
    simp only [unusedHeap, Heap.heapEnd, Heap.memSizeAligned_set, sizeofStructMem, last,
      Nat.reduceMul]
  obtain ⟨own, guard⟩ := init_structures ⟨memory, first, second - first - 24, 0, 0, 0⟩
    (by omega : 12 ≤ second - first - 12) (by omega)
  rw [← equation] at own guard
  have ends : (Clients.start memory beginAddr endAddr).heap.heapEnd = second - first - 12 := by
    rw [equation]
    exact last
  have base : (Clients.start memory beginAddr endAddr).heap.heapPtr = first := by
    rw [equation]
    rfl
  have size : (Clients.start memory beginAddr endAddr).heap.memSizeAligned =
      second - first - 24 := by
    rw [equation]
    rfl
  have layout : Layout (Clients.start memory beginAddr endAddr).heap
      [⟨second - first - 12, false⟩] := by
    refine ⟨⟨?_, trivial⟩, ?_, ?_, ?_, ?_, ?_, ?_⟩
    · rw [own, Nat.zero_add]
    · rw [ends]
      rfl
    · rw [ends]
      exact guard
    · simp only [List.forall_mem_singleton]
      omega
    · rw [base]
      exact divided.1
    · omega
    · omega
  refine ⟨base, ends, ?_⟩
  constructor
  case valid =>
    refine ⟨layout, List.isChain_singleton _, Or.inl ⟨second - first - 12, ?_⟩, ?_, ?_⟩
    · rw [equation]
      exact List.mem_cons_self
    · rw [equation]
      rfl
    · rw [equation]
      exact le_rfl
  case distinct => exact List.nodup_nil
  case placed =>
    intro block member
    contradiction
  case owned =>
    intro position whole member
    simp only [spans, List.mem_singleton, Prod.mk.injEq, Segment.mk.injEq] at member
    exact absurd member.2.2 (by decide)

/-- Two blocks that are held, with the structure of the second, do not meet. -/
theorem Tracks.apart {state : Clients} {segments : List Segment} (tracks : Tracks state segments)
    {first second : Block} (held : first ∈ state.live) (other : second ∈ state.live)
    (different : first.address ≠ second.address) :
    first.address + first.contents.length + 12 ≤ second.address ∨
      second.address + second.contents.length + 12 ≤ first.address := by
  obtain ⟨position, whole, address, member, fits, -⟩ := tracks.placed first held
  obtain ⟨next, size, nextAddress, nextMember, nextFits, -⟩ := tracks.placed second other
  rcases spans_disjoint member nextMember with ⟨same, -⟩ | behind | before
  · omega
  · left
    simp only at behind
    omega
  · right
    simp only at before
    omega

/-- The heap under any run of its clients.  Every call returns.  The blocks that are held
are aligned, lie inside the heap and apart from each other, and hold the bytes that their
holders have stored. -/
theorem clients_run (room : rtAlign beginAddr + 36 ≤ rtAlignDown endAddr)
    (bounded : endAddr < 4294967296) {run : List Request}
    (guarded : Guarded Clients.step Clients.allowed (Clients.start memory beginAddr endAddr) run) :
    ∃ target, exec Clients.step (Clients.start memory beginAddr endAddr) run = some target ∧
      (∀ block ∈ target.live, block.address % 4 = 0 ∧ rtAlign beginAddr + 12 ≤ block.address ∧
        block.address + block.contents.length + 12 ≤ rtAlignDown endAddr ∧
        target.heap.memory.load block.address block.contents.length = block.contents) ∧
      target.live.Pairwise fun first second =>
        first.address + first.contents.length + 12 ≤ second.address ∨
          second.address + second.contents.length + 12 ≤ first.address := by
  obtain ⟨base, ends, tracks⟩ := Tracks.start room bounded
  obtain ⟨target, after, executed, kept, heapPtr, size, -⟩ := tracks.run guarded
  have layout := kept.valid.layout
  have last : target.heap.heapEnd = rtAlignDown endAddr - rtAlign beginAddr - 12 := by
    rw [← ends, Heap.heapEnd, Heap.heapEnd, size]
  refine ⟨target, executed, ?_, ?_⟩
  · intro block held
    obtain ⟨position, whole, address, member, fits, loaded⟩ := kept.placed block held
    obtain ⟨front, back, rfl, place⟩ := mem_spans_iff.mp member
    rw [heapPtr, base] at address
    have aligned := layout.aligned
    rw [heapPtr, base] at aligned
    have rooms := layout.room
    rw [List.forall_mem_append] at rooms
    have modulus := Layout.total_mod rooms.1
    have bounds := mem_spans_bounds member
    rw [layout.fills, last] at bounds
    simp only at bounds
    exact ⟨by omega, by omega, by omega, loaded⟩
  · have distinct := kept.distinct
    rw [List.nodup_iff_pairwise_ne, List.pairwise_map] at distinct
    exact distinct.imp_of_mem fun held other different => kept.apart held other different

theorem clients_run_concrete :
    ∃ target, exec Clients.step (Clients.start (fun _ => 7) 5 300)
        [.malloc 10, .store 20 2 [1, 2, 3], .malloc 100, .free 20] = some target ∧
      (∀ block ∈ target.live, block.address % 4 = 0 ∧ rtAlign 5 + 12 ≤ block.address ∧
        block.address + block.contents.length + 12 ≤ rtAlignDown 300 ∧
        target.heap.memory.load block.address block.contents.length = block.contents) ∧
      target.live.Pairwise fun first second =>
        first.address + first.contents.length + 12 ≤ second.address ∨
          second.address + second.contents.length + 12 ≤ first.address :=
  clients_run (by decide) (by decide) (by decide +kernel)

/-- When the last block has been released, the heap is one free block again, and
`rt_malloc` gives out its beginning for every size below that of the whole. -/
theorem all_released (room : rtAlign beginAddr + 36 ≤ rtAlignDown endAddr)
    (bounded : endAddr < 4294967296) {run : List Request}
    (guarded : Guarded Clients.step Clients.allowed (Clients.start memory beginAddr endAddr) run)
    {target : Clients}
    (executed : exec Clients.step (Clients.start memory beginAddr endAddr) run = some target)
    (released : target.live = []) :
    target.heap.get 0 = header false target.heap.heapEnd 0 ∧ target.heap.lfree = 0 ∧
      target.heap.usedMem = 0 ∧
      ∀ size, size ≠ 0 → mallocSize size < target.heap.memSizeAligned →
        ∃ heap, Heap.rtMalloc target.heap size = some (heap, rtAlign beginAddr + 12) := by
  obtain ⟨base, -, tracks⟩ := Tracks.start room bounded
  obtain ⟨reached, after, ended, kept, heapPtr, -, -⟩ := tracks.run guarded
  cases ended.symm.trans executed
  have layout := kept.valid.layout
  have free (segment : Segment) (member : segment ∈ after) : segment.used = false := by
    obtain ⟨front, back, rfl⟩ := List.append_of_mem member
    obtain ⟨size, used⟩ := segment
    cases used with
    | false => rfl
    | true =>
        obtain ⟨block, held, -⟩ :=
          kept.owned (total front) size
            (mem_spans_iff.mpr ⟨front, back, rfl, (Nat.zero_add _).symm⟩)
        rw [released] at held
        contradiction
  have positive : 0 < target.heap.heapEnd := Nat.succ_pos _
  have nonempty : after ≠ [] := by
    rintro rfl
    have fills := layout.fills
    rw [total] at fills
    omega
  have single := kept.valid.merged.eq_singleton free nonempty
  rw [layout.fills] at single
  subst single
  have lfree : target.heap.lfree = 0 := by
    rcases kept.valid.lfree with ⟨size, member⟩ | ⟨-, segment, member, busy⟩
    · rw [spans, List.mem_cons] at member
      rcases member with same | later
      · exact congrArg Prod.fst same
      · contradiction
    · rw [free segment member] at busy
      contradiction
  have own := layout.tiles.1
  rw [Nat.zero_add] at own
  refine ⟨own, lfree, kept.valid.usedMem, ?_⟩
  intro size nonzero small
  have suitable : Suitable target.heap [⟨target.heap.heapEnd, false⟩] size 0 := by
    refine ⟨_, List.mem_cons_self, ?_, ?_, ?_⟩
    · rw [lfree]
    · simp only [Heap.heapEnd, sizeofStructMem]
      omega
    · omega
  rcases kept.valid.rt_malloc nonzero with ⟨-, none⟩ | ⟨position, heap, -, -, -, first, returned, -⟩
  · exact absurd suitable (none 0)
  · have start := first 0 suitable
    refine ⟨heap, ?_⟩
    rw [returned, heapPtr, base, Nat.le_zero.mp start]

theorem all_released_concrete :
    ∃ target, exec Clients.step (Clients.start (fun _ => 7) 5 300)
        [.malloc 10, .malloc 20, .free 20, .free 44] = some target ∧ target.live = [] ∧
      target.heap.get 0 = header false target.heap.heapEnd 0 ∧ target.heap.lfree = 0 ∧
      target.heap.usedMem = 0 ∧
      ∀ size, size ≠ 0 → mallocSize size < target.heap.memSizeAligned →
        ∃ heap, Heap.rtMalloc target.heap size = some (heap, rtAlign 5 + 12) := by
  have guarded : Guarded Clients.step Clients.allowed (Clients.start (fun _ => 7) 5 300)
      [.malloc 10, .malloc 20, .free 20, .free 44] := by decide +kernel
  have room : rtAlign 5 + 36 ≤ rtAlignDown 300 := by decide
  obtain ⟨-, -, tracks⟩ := Tracks.start room (by decide)
  obtain ⟨target, -, executed, -⟩ := tracks.run guarded
  have live : (exec Clients.step (Clients.start (fun _ => 7) 5 300)
      [.malloc 10, .malloc 20, .free 20, .free 44]).map Clients.live = some [] := by
    decide +kernel
  rw [executed] at live
  have released := Option.some.inj live
  exact ⟨target, executed, released, all_released room (by decide) guarded executed released⟩

/-- Exact success of `rt_malloc`.  As long as no block below the lowest free pointer has
been cut, it fails only when no free block is large enough or all that are lie too close
to the end. -/
theorem malloc_exact (room : rtAlign beginAddr + 36 ≤ rtAlignDown endAddr)
    (bounded : endAddr < 4294967296) {run : List Request}
    (guarded : Guarded Clients.step Clients.allowed (Clients.start memory beginAddr endAddr) run)
    (above : Guarded Clients.step Clients.above (Clients.start memory beginAddr endAddr) run) :
    ∃ target segments,
      exec Clients.step (Clients.start memory beginAddr endAddr) run = some target ∧
      Layout target.heap segments ∧
      ∀ size, size ≠ 0 → (Heap.rtMalloc target.heap size = some (target.heap, 0) ↔
        ∀ position whole, (position, ⟨whole, false⟩) ∈ spans 0 segments →
          whole < mallocSize size + 12 ∨
            target.heap.memSizeAligned ≤ position + mallocSize size) := by
  obtain ⟨-, -, tracks⟩ := Tracks.start room bounded
  obtain ⟨target, after, executed, kept, -, -, lowest⟩ := tracks.run guarded
  have low : Lowest after target.heap.lfree := by
    refine lowest ?_ above
    rintro free -
    rcases tracks.valid.lfree with ⟨size, member⟩ | ⟨-, segment, member, busy⟩
    · rw [spans, List.mem_cons] at member
      rcases member with same | later
      · have start : (Clients.start memory beginAddr endAddr).heap.lfree = 0 :=
          congrArg Prod.fst same
        omega
      · contradiction
    · rw [List.mem_singleton] at member
      rw [member] at busy
      contradiction
  refine ⟨target, after, executed, kept.valid.layout, ?_⟩
  intro size nonzero
  have suitable (position whole : Nat) (free : (position, ⟨whole, false⟩) ∈ spans 0 after) :
      ¬ (whole < mallocSize size + 12 ∨
        target.heap.memSizeAligned ≤ position + mallocSize size) →
      Suitable target.heap after size position := by
    intro fits
    exact ⟨whole, free, low position ⟨whole, free⟩, by omega, by omega⟩
  rcases kept.valid.rt_malloc nonzero with ⟨failed, none⟩ |
    ⟨position, heap, -, -, fits, -, returned, -⟩
  · refine iff_of_true failed fun position whole free => ?_
    by_contra large
    exact none position (suitable position whole free large)
  · refine iff_of_false ?_ ?_
    · rw [returned]
      intro equal
      have pointer := congrArg Prod.snd (Option.some.inj equal)
      simp only at pointer
      omega
    · obtain ⟨whole, free, -, enough, near⟩ := fits
      intro all
      have blocked := all position whole free
      omega

theorem malloc_exact_concrete :
    ∃ target segments, exec Clients.step (Clients.start (fun _ => 7) 5 300)
        [.malloc 10, .malloc 20, .free 20] = some target ∧
      Layout target.heap segments ∧
      ∀ size, size ≠ 0 → (Heap.rtMalloc target.heap size = some (target.heap, 0) ↔
        ∀ position whole, (position, ⟨whole, false⟩) ∈ spans 0 segments →
          whole < mallocSize size + 12 ∨
            target.heap.memSizeAligned ≤ position + mallocSize size) :=
  malloc_exact (by decide) (by decide) (by decide +kernel) (by decide +kernel)

/-- `rt_realloc` in any reachable state, with any size of 32 bits.  Where it fails, the block is
still held, unless the size is rounded to 0. -/
theorem realloc_reached (room : rtAlign beginAddr + 36 ≤ rtAlignDown endAddr)
    (bounded : endAddr < 4294967296) {run : List Request}
    (guarded : Guarded Clients.step Clients.allowed (Clients.start memory beginAddr endAddr) run)
    {state : Clients}
    (executed : exec Clients.step (Clients.start memory beginAddr endAddr) run = some state)
    {block : Block} (held : block ∈ state.live) {newsize : Nat} (wide : newsize < 4294967296) :
    ∃ moves target p, Guarded Clients.step Clients.allowed state moves ∧
      exec Clients.step state moves = some target ∧
      Heap.rtRealloc state.heap block.address newsize = some (target.heap, p) ∧
      (∀ other ∈ state.live, other.address ≠ block.address → other ∈ target.live) ∧
      (p = 0 → (block ∈ target.live ↔ rtAlign newsize ≠ 0)) ∧
      (p ≠ 0 → ∃ moved ∈ target.live, moved.address = p ∧ newsize ≤ moved.contents.length ∧
        block.contents.take newsize <+: moved.contents) := by
  obtain ⟨-, -, tracks⟩ := Tracks.start room bounded
  obtain ⟨reached, after, ended, kept, -⟩ := tracks.run guarded
  cases ended.symm.trans executed
  by_cases zero : rtAlign newsize = 0
  · obtain ⟨target, step, returned, live⟩ := realloc_released kept held zero
    refine ⟨[.free block.address], target, 0, ⟨Or.inr ⟨block, held, rfl⟩, ?_⟩, ?_, returned, ?_,
      fun _ => iff_of_false ?_ (not_not_intro zero), fun nonzero => absurd rfl nonzero⟩
    · rw [step]
      trivial
    · rw [exec_cons, step]
      rfl
    · intro other holds different
      rw [live]
      exact List.mem_filter.mpr ⟨holds, decide_eq_true different⟩
    · rw [live]
      intro still
      exact of_decide_eq_true (List.mem_filter.mp still).2 rfl
  · by_cases fits : rtAlign newsize ≤ state.heap.memSizeAligned
    · have sizes : newsize ≠ 0 ∧ newsize ≤ 4294967292 := by
        unfold rtAlign at zero
        omega
      obtain ⟨moves, target, p, allowed, moved, returned, others, failed, done⟩ :=
        realloc_run kept held sizes.1 sizes.2 fits
      exact ⟨moves, target, p, allowed, moved, returned, others,
        fun null => iff_of_true (failed null) zero, done⟩
    · refine ⟨[], state, 0, trivial, rfl, ?_, fun other holds _ => holds,
        fun _ => iff_of_true held zero, fun nonzero => absurd rfl nonzero⟩
      simp only [Heap.rtRealloc]
      exact if_pos (Nat.lt_of_not_le fits)

theorem realloc_reached_concrete :
    ∃ state moves target p, exec Clients.step (Clients.start (fun _ => 7) 5 300) [.malloc 10] =
        some state ∧
      exec Clients.step state moves = some target ∧
      Heap.rtRealloc state.heap 20 40 = some (target.heap, p) ∧
      (p ≠ 0 → ∃ moved ∈ target.live, moved.address = p ∧ 40 ≤ moved.contents.length ∧
        List.replicate 10 7 <+: moved.contents) := by
  have guarded : Guarded Clients.step Clients.allowed (Clients.start (fun _ => 7) 5 300)
      [.malloc 10] := by decide +kernel
  have room : rtAlign 5 + 36 ≤ rtAlignDown 300 := by decide
  obtain ⟨-, -, tracks⟩ := Tracks.start room (by decide)
  obtain ⟨state, -, executed, -⟩ := tracks.run guarded
  have known : (exec Clients.step (Clients.start (fun _ => 7) 5 300) [.malloc 10]).map
      Clients.live = some [⟨20, List.replicate 10 7⟩] := by
    decide +kernel
  rw [executed] at known
  have held : (⟨20, List.replicate 10 7⟩ : Block) ∈ state.live := by
    rw [Option.some.inj known]
    exact List.mem_cons_self
  obtain ⟨moves, target, p, -, moved, returned, -, -, kept⟩ :=
    realloc_reached room (by decide) guarded executed held (show 40 < 4294967296 by decide)
  exact ⟨state, moves, target, p, executed, moved, returned, kept⟩

/-- A loss of memory.  When all free blocks are gone, shrinking a block frees memory
that `rt_malloc` does not find: the lowest free pointer stays at the end. -/
theorem shrink_unfound (room : rtAlign beginAddr + 36 ≤ rtAlignDown endAddr)
    (bounded : endAddr < 4294967296) {run : List Request}
    (guarded : Guarded Clients.step Clients.allowed (Clients.start memory beginAddr endAddr) run)
    {state : Clients}
    (executed : exec Clients.step (Clients.start memory beginAddr endAddr) run = some state)
    (full : state.heap.lfree = state.heap.heapEnd) {rmem newsize : Nat}
    (allowed : state.allowed (.resize rmem newsize)) :
    ∃ next, state.step (.resize rmem newsize) = some next ∧
      ∀ size, Heap.rtMalloc next.heap size = some (next.heap, 0) := by
  obtain ⟨-, -, tracks⟩ := Tracks.start room bounded
  obtain ⟨reached, after, ended, kept, -⟩ := tracks.run guarded
  cases ended.symm.trans executed
  obtain ⟨next, later, step, still, -, stays⟩ := kept.resize allowed
  refine ⟨next, step, fun size => ?_⟩
  by_cases zero : size = 0
  · simp only [Heap.rtMalloc, if_pos zero]
  · rcases still.valid.rt_malloc zero with ⟨failed, -⟩ | ⟨position, -, -, -, suitable, -⟩
    · exact failed
    · obtain ⟨whole, member, above, -, -⟩ := suitable
      have bounds := mem_spans_bounds member
      have large := still.valid.layout.room _ (mem_of_mem_spans member)
      rw [still.valid.layout.fills] at bounds
      rw [stays full] at above
      omega

theorem shrink_unfound_concrete :
    ∃ state next, exec Clients.step (Clients.start (fun _ => 7) 5 300) [.malloc 264] = some state ∧
      state.step (.resize 20 100) = some next ∧
      ∀ size, Heap.rtMalloc next.heap size = some (next.heap, 0) := by
  have guarded : Guarded Clients.step Clients.allowed (Clients.start (fun _ => 7) 5 300)
      [.malloc 264] := by decide +kernel
  have room : rtAlign 5 + 36 ≤ rtAlignDown 300 := by decide
  obtain ⟨-, -, tracks⟩ := Tracks.start room (by decide)
  obtain ⟨state, -, executed, -⟩ := tracks.run guarded
  have known : (exec Clients.step (Clients.start (fun _ => 7) 5 300) [.malloc 264]).map
      (fun state => (decide (state.heap.lfree = state.heap.heapEnd),
        decide (state.allowed (.resize 20 100)))) = some (true, true) := by
    decide +kernel
  rw [executed] at known
  have pair := Option.some.inj known
  obtain ⟨next, step, all⟩ := shrink_unfound room (by decide) guarded executed
    (of_decide_eq_true (Prod.mk.inj pair).1) (of_decide_eq_true (Prod.mk.inj pair).2)
  exact ⟨state, next, executed, step, all⟩

end Runs

end BerPiNbiot.Kernel
