import BerPiNbiot.Kernel.HeapBlocks

/-!
# Allocation and release

A valid heap is a tiling without neighbouring free blocks whose lowest free pointer is at
a free block or at the end.  Every operation of `mem.c` returns on a valid heap and
leaves a valid heap; none of its assertions fails.

Each operation is about one block.  `Others` says that all other blocks in use are
where they were, with the same bytes.
-/

namespace BerPiNbiot.Kernel

open BerPiNbiot.Text BerPiNbiot.Tiling

/-- The invariant of the heap. -/
structure Valid (heap : Heap) (segments : List Segment) : Prop where
  layout : Layout heap segments
  merged : Merged segments
  lfree : FreeAt segments heap.lfree ∨
    heap.lfree = heap.heapEnd ∧ ∃ segment ∈ segments, segment.used = true
  usedMem : heap.usedMem = usedTotal segments
  maxMem : heap.usedMem ≤ heap.maxMem

/-- The blocks in use at other positions are as before. -/
structure Others (position : Nat) (before after : List Segment) (heap target : Heap) : Prop where
  heapPtr : target.heapPtr = heap.heapPtr
  memSizeAligned : target.memSizeAligned = heap.memSizeAligned
  blocks : ∀ other segment, segment.used = true → other ≠ position →
    ((other, segment) ∈ spans 0 after ↔ (other, segment) ∈ spans 0 before)
  data : ∀ other segment, segment.used = true → other ≠ position →
    (other, segment) ∈ spans 0 before →
    ∀ place, heap.heapPtr + other + 12 ≤ place →
      place < heap.heapPtr + other + segment.size → target.memory place = heap.memory place

theorem Others.coalesced {position : Nat} {before between after : List Segment}
    {heap middle target : Heap} (others : Others position before between heap middle)
    (coalesced : Coalesced between after middle target) :
    Others position before after heap target where
  heapPtr := coalesced.heapPtr.trans others.heapPtr
  memSizeAligned := coalesced.memSizeAligned.trans others.memSizeAligned
  blocks := fun other segment used away =>
    (coalesced.blocks other segment used).trans (others.blocks other segment used away)
  data := by
    intro other segment used away member place low high
    rw [coalesced.data other segment used ((others.blocks other segment used away).mpr member) place
      (by rw [others.heapPtr]; exact low) (by rw [others.heapPtr]; exact high),
      others.data other segment used away member place low high]

section Splicing

variable {heap target : Heap} {front middle replacement back : List Segment}
variable {touched : List Nat} {position : Nat}

/-- Replacing segments at one position leaves the others alone. -/
theorem Others.of_frame (frame : Frame touched heap target)
    (same : total replacement = total middle)
    (inside : ∀ ptr ∈ touched, total front ≤ ptr ∧ ptr ≤ total front + total middle)
    (only : ∀ other segment, segment.used = true → other ≠ position →
      (other, segment) ∉ spans (total front) middle ∧
        (other, segment) ∉ spans (total front) replacement) :
    Others position (front ++ (middle ++ back)) (front ++ (replacement ++ back)) heap target where
  heapPtr := frame.heapPtr
  memSizeAligned := frame.memSizeAligned
  blocks := by
    intro other segment used away
    obtain ⟨before, after⟩ := only other segment used away
    simp only [spans_append, List.mem_append, Nat.zero_add, same, before, after, false_or]
  data := by
    intro other segment used away member place low high
    apply frame.memory
    intro ptr changed
    have bounds := inside ptr changed
    have before := (only other segment used away).1
    simp only [spans_append, List.mem_append, Nat.zero_add, before, false_or] at member
    rcases member with inFront | inBack
    · have place := mem_spans_bounds inFront
      omega
    · have place := mem_spans_bounds inBack
      omega

end Splicing

section Releasing

variable {heap : Heap} {front back : List Segment} {size : Nat}

/-- The heap of `rt_free` in front of `plug_holes`. -/
def released (heap : Heap) (mem : Nat) : Heap :=
  let heap := heap.set mem .used 0
  let heap := heap.set mem .magic heapMagic
  let heap := if mem < heap.lfree then { heap with lfree := mem } else heap
  { heap with usedMem := heap.usedMem - sizeSub (heap.get mem .next) mem }

theorem rtFree_eq (valid : Valid heap (front ++ ([⟨size, true⟩] ++ back))) :
    Heap.rtFree heap (heap.heapPtr + total front + 12) =
      plugHoles (released heap (total front)) (total front) := by
  have layout := valid.layout
  have room : 16 ≤ size ∧ size % 4 = 0 := layout.room ⟨size, true⟩ (by simp)
  have rooms := layout.room
  simp only [List.forall_mem_append] at rooms
  have modulus := Layout.total_mod rooms.1
  have aligned := layout.aligned
  have fills := layout.fills
  simp only [total_append, total] at fills
  have position :
      heap.heapPtr + total front + 12 - sizeofStructMem - heap.heapPtr = total front := by
    simp only [sizeofStructMem]
    omega
  have used : heap.get (total front) .used = 1 := layout.used_eq
  have magic : heap.get (total front) .magic = heapMagic := by
    have own : heap.get (total front) = _ := layout.header_eq
    rw [own]
    rfl
  simp only [Heap.rtFree]
  rw [if_neg (by omega), if_pos (by omega), position, used, magic, if_pos ⟨Nat.one_ne_zero, rfl⟩]
  rfl

/-- The block to be freed is a free block now. -/
theorem Valid.released (valid : Valid heap (front ++ ([⟨size, true⟩] ++ back))) :
    Layout (Kernel.released heap (total front)) (front ++ ([⟨size, false⟩] ++ back)) ∧
      Frame [total front] heap (Kernel.released heap (total front)) ∧
      (Kernel.released heap (total front)).lfree = min (total front) heap.lfree ∧
      (Kernel.released heap (total front)).usedMem = heap.usedMem - size ∧
      (Kernel.released heap (total front)).maxMem = heap.maxMem := by
  have layout := valid.layout
  have room : 16 ≤ size ∧ size % 4 = 0 := layout.room ⟨size, true⟩ (by simp)
  have fills := layout.fills
  simp only [total_append, total] at fills
  have bounded := layout.bounded
  have own : heap.get (total front) =
      header true (total front + size) (lastStart 0 0 front) := layout.header_eq
  have changed : ((heap.set (total front) .used 0).set (total front) .magic heapMagic).get
      (total front) = header false (total front + size) (lastStart 0 0 front) := by
    funext field
    cases field with
    | magic => exact Heap.get_set_self _ _ (by decide)
    | used =>
        rw [Heap.get_set_of_ne _ _ _ (by decide), Heap.get_set_self _ _ (by decide)]
        rfl
    | next =>
        rw [Heap.get_set_of_ne _ _ _ (by decide), Heap.get_set_of_ne _ _ _ (by decide), own]
        rfl
    | prev =>
        rw [Heap.get_set_of_ne _ _ _ (by decide), Heap.get_set_of_ne _ _ _ (by decide), own]
        rfl
  have frame : Frame [total front] heap
      ((heap.set (total front) .used 0).set (total front) .magic heapMagic) :=
    ((Frame.refl _ heap).set _ _ List.mem_cons_self).set _ _ List.mem_cons_self
  have next : sizeSub (((heap.set (total front) .used 0).set (total front) .magic heapMagic).get
      (total front) .next) (total front) = size := by
    rw [changed]
    simp only [header]
    rw [sizeSub_eq (by omega) (by omega)]
    omega
  have equation : Kernel.released heap (total front) =
      { (heap.set (total front) .used 0).set (total front) .magic heapMagic with
        lfree := min (total front) heap.lfree
        usedMem := heap.usedMem - size } := by
    unfold Kernel.released
    simp only
    split
    · rename_i below
      rw [Heap.lfree_set, Heap.lfree_set] at below
      rw [Nat.min_eq_left (by omega)]
      change Heap.mk _ _ _ _ (heap.usedMem - sizeSub (((heap.set (total front) .used 0).set
        (total front) .magic heapMagic).get (total front) .next) (total front)) _ = _
      rw [next]
    · rename_i above
      rw [Heap.lfree_set, Heap.lfree_set] at above
      rw [next, Nat.min_eq_right (by omega)]
      rfl
  rw [equation]
  exact ⟨layout.mark (frame.statics _ _ _) changed, frame.statics _ _ _, rfl, rfl, rfl⟩

/-- Releasing a block.  `rt_free` returns, the block is gone and the others stay. -/
theorem Valid.rt_free (valid : Valid heap (front ++ ([⟨size, true⟩] ++ back))) :
    ∃ target after, Heap.rtFree heap (heap.heapPtr + total front + 12) = some target ∧
      Valid target after ∧
      Others (total front) (front ++ ([⟨size, true⟩] ++ back)) after heap target ∧
      (∀ segment, segment.used = true → (total front, segment) ∉ spans 0 after) ∧
      (Lowest (front ++ ([⟨size, true⟩] ++ back)) heap.lfree → Lowest after target.lfree) := by
  have room : 16 ≤ size ∧ size % 4 = 0 := valid.layout.room ⟨size, true⟩ (by simp)
  have fills := valid.layout.fills
  simp only [total_append, total] at fills
  obtain ⟨layout, frame, lfree, usedMem, maxMem⟩ := valid.released
  have split := List.isChain_append.mp valid.merged
  obtain ⟨target, after, returned, targetLayout, merged, coalesced⟩ :=
    layout.plug_holes split.1 split.2.1.tail
  have used := valid.usedMem
  simp only [usedTotal_append, usedTotal, if_true] at used
  have others : Others (total front) (front ++ ([⟨size, true⟩] ++ back))
      (front ++ ([⟨size, false⟩] ++ back)) heap (Kernel.released heap (total front)) := by
    apply Others.of_frame frame
    · rfl
    · intro ptr member
      rw [List.mem_singleton] at member
      omega
    · intro other segment _ away
      simp only [spans, List.mem_singleton, Prod.mk.injEq]
      exact ⟨fun same => away same.1, fun same => away same.1⟩
  have stillFree (free : Nat) : FreeAt (front ++ ([⟨size, false⟩] ++ back)) free ↔
      free = total front ∨ FreeAt (front ++ ([⟨size, true⟩] ++ back)) free := by
    simp only [freeAt_splice, spans, List.mem_singleton, Prod.mk.injEq, Segment.mk.injEq, total]
    constructor
    · rintro (inFront | ⟨size, same, -⟩ | inBack)
      · exact Or.inr (Or.inl inFront)
      · exact Or.inl same
      · exact Or.inr (Or.inr (Or.inr inBack))
    · rintro (same | inFront | ⟨size, -, -, busy⟩ | inBack)
      · exact Or.inr (Or.inl ⟨size, same, rfl, trivial⟩)
      · exact Or.inl inFront
      · contradiction
      · exact Or.inr (Or.inr inBack)
  refine ⟨target, after, ?_, ?_, others.coalesced coalesced, ?_, ?_⟩
  · rw [rtFree_eq valid]
    exact returned
  · refine ⟨targetLayout, merged, Or.inl (coalesced.free ?_), ?_, ?_⟩
    · rw [lfree, stillFree]
      by_cases below : total front ≤ heap.lfree
      · exact Or.inl (Nat.min_eq_left below)
      · right
        rw [Nat.min_eq_right (by omega)]
        exact valid.lfree.resolve_right fun ended => by omega
    · rw [coalesced.usedMem, usedMem, coalesced.usedTotal]
      simp only [usedTotal_append, usedTotal, Bool.false_eq_true, if_false]
      omega
    · rw [coalesced.usedMem, coalesced.maxMem, usedMem, maxMem]
      have bound := valid.maxMem
      omega
  · intro segment busy member
    have before := (coalesced.blocks _ _ busy).mp member
    have own : (total front, ⟨size, false⟩) ∈ spans 0 (front ++ ([⟨size, false⟩] ++ back)) :=
      mem_spans_iff.mpr ⟨front, back, rfl, (Nat.zero_add _).symm⟩
    rw [layout.block_eq before own] at busy
    contradiction
  · intro low
    apply coalesced.lowest
    intro free start
    rw [lfree]
    rw [stillFree] at start
    rcases start with rfl | start
    · exact Nat.min_le_left _ _
    · exact (Nat.min_le_right _ _).trans (low free start)

end Releasing

section Taking

variable {heap : Heap} {front back : List Segment} {size whole : Nat}

theorem get_set_used {next prev : Nat} {used : Bool}
    (own : heap.get (total front) = header used next prev) :
    (heap.set (total front) .used 1).get (total front) = header true next prev := by
  funext field
  by_cases flag : field = .used
  · rw [flag, Heap.get_set_self _ _ (by decide)]
    rfl
  · rw [Heap.get_set_of_ne _ _ _ flag, own]
    cases field <;> first | rfl | contradiction

/-- The statistics and the magic number do not change the layout. -/
theorem Layout.account_magic {segment : Segment}
    (layout : Layout heap (front ++ ([segment] ++ back))) (count : Nat) :
    Layout ((heap.account count).set (total front) .magic heapMagic)
      (front ++ ([segment] ++ back)) := by
  apply layout.mark
  · exact ((Frame.refl _ heap).statics _ _ _).set _ _ List.mem_cons_self
  · have own : heap.get (total front) =
        header segment.used (total front + segment.size) (lastStart 0 0 front) := layout.header_eq
    funext field
    by_cases number : field = .magic
    · rw [number, Heap.get_set_self _ _ (by decide)]
      rfl
    · rw [Heap.get_set_of_ne _ _ _ number]
      exact congrFun own field

theorem linkBack_statics (heap : Heap) (ptr2 : Nat) :
    (linkBack heap ptr2).lfree = heap.lfree ∧ (linkBack heap ptr2).usedMem = heap.usedMem ∧
      (linkBack heap ptr2).maxMem = heap.maxMem := by
  unfold linkBack
  split <;> exact ⟨rfl, rfl, rfl⟩

/-- The first part of a free block is taken and the rest stays free. -/
theorem Layout.take_part (layout : Layout heap (front ++ ([⟨whole, false⟩] ++ back)))
    {part : Nat} (least : 16 ≤ part) (aligned : part % 4 = 0) (fits : part + 16 ≤ whole) :
    ∃ target, linkBack ((createBlock heap (total front) (total front + part)).set
        (total front) .used 1) (total front + part) = target ∧
      Layout target (front ++ ([⟨part, true⟩, ⟨whole - part, false⟩] ++ back)) ∧
      Frame [total front, total front + part, total front + whole] heap target ∧
      target.lfree = heap.lfree ∧ target.usedMem = heap.usedMem ∧ target.maxMem = heap.maxMem := by
  obtain ⟨created, ownCreated, inner⟩ := layout.create_block least fits
  have frame := created.set .used 1 List.mem_cons_self
  obtain ⟨linked, wide⟩ := layout.link_back ⟨least, aligned⟩ fits frame (get_set_used ownCreated)
    (by rw [Heap.get_set_of_apart _ _ _ (by omega), inner])
  obtain ⟨lfree, usedMem, maxMem⟩ := linkBack_statics ((createBlock heap (total front)
    (total front + part)).set (total front) .used 1) (total front + part)
  exact ⟨_, rfl, linked, wide, lfree, usedMem, maxMem⟩

/-- A free block is taken.  What is left of it, if anything, is a free block behind. -/
theorem Layout.take_block (layout : Layout heap (front ++ ([⟨whole, false⟩] ++ back)))
    (least : 12 ≤ size) (aligned : size % 4 = 0) (fits : size + 12 ≤ whole) :
    ∃ target taken rest, takeBlock heap size (total front) = target ∧
      size + 12 ≤ taken ∧ taken + total rest = whole ∧
      (rest = [] ∨ ∃ left, rest = [⟨left, false⟩]) ∧
      Layout target (front ++ ((⟨taken, true⟩ :: rest) ++ back)) ∧
      Frame [total front, total front + taken, total front + whole] heap target ∧
      target.lfree = heap.lfree ∧ target.usedMem = heap.usedMem + taken ∧
      target.maxMem = max heap.maxMem (heap.usedMem + taken) := by
  have room : 16 ≤ whole ∧ whole % 4 = 0 := layout.room ⟨whole, false⟩ (by simp)
  have fills := layout.fills
  simp only [total_append, total] at fills
  have bounded := layout.bounded
  have next : heap.get (total front) .next = total front + whole := layout.next_eq
  have data : sizeSub (total front + whole) (total front + sizeofStructMem) = whole - 12 := by
    rw [sizeSub_eq (by simp only [sizeofStructMem]; omega) (by omega)]
    simp only [sizeofStructMem]
    omega
  have place : total front + sizeofStructMem + size = total front + (size + 12) := by
    simp only [sizeofStructMem]
    omega
  simp only [takeBlock, next, data, place]
  by_cases large : size + sizeofStructMem + minSizeAligned ≤ whole - 12
  · rw [if_pos large]
    simp only [sizeofStructMem, minSizeAligned] at large
    obtain ⟨target, equation, taken, frame, lfree, usedMem, maxMem⟩ :=
      layout.take_part (by omega : 16 ≤ size + 12) (by omega) (by omega)
    rw [equation]
    refine ⟨_, size + 12, [⟨whole - (size + 12), false⟩], rfl, le_rfl, ?_, Or.inr ⟨_, rfl⟩,
      taken.account_magic _, (frame.statics _ _ _).set _ _ List.mem_cons_self, lfree, ?_, ?_⟩
    · simp only [total]
      omega
    · rw [← usedMem]
      rfl
    · rw [← usedMem, ← maxMem]
      rfl
  · rw [if_neg large]
    have marked : Layout (heap.set (total front) .used 1) (front ++ ([⟨whole, true⟩] ++ back)) :=
      layout.mark ((Frame.refl _ heap).set _ _ List.mem_cons_self) (get_set_used layout.header_eq)
    have frame : Frame [total front, total front + whole, total front + whole] heap
        (heap.set (total front) .used 1) :=
      (Frame.refl _ heap).set _ _ List.mem_cons_self
    have kept : sizeSub ((heap.set (total front) .used 1).get (total front) .next) (total front) =
        whole := by
      rw [Heap.get_set_of_ne _ _ _ (by decide), next, sizeSub_eq (by omega) (by omega)]
      omega
    rw [kept]
    exact ⟨_, whole, [], rfl, fits, rfl, Or.inl rfl, marked.account_magic _,
      (frame.statics _ _ _).set _ _ List.mem_cons_self, rfl, rfl, rfl⟩

/-- Where the lowest free pointer comes to rest. -/
theorem firstFree_spec (heap : Heap) (start : Nat) (segments : List Segment) :
    ((∃ left, (Layout.firstFree heap start segments, ⟨left, false⟩) ∈ spans start segments) ∧
      ∀ free left, (free, ⟨left, false⟩) ∈ spans start segments →
        Layout.firstFree heap start segments ≤ free) ∨
    Layout.firstFree heap start segments = heap.heapEnd ∧
      ∀ free left, (free, ⟨left, false⟩) ∉ spans start segments := by
  induction segments generalizing start with
  | nil =>
      right
      exact ⟨rfl, fun _ _ => List.not_mem_nil⟩
  | cons segment rest ih =>
      obtain ⟨size, used⟩ := segment
      cases used with
      | true =>
          simp only [Layout.firstFree, spans, List.mem_cons, Prod.mk.injEq, Segment.mk.injEq,
            Bool.false_eq_true, and_false, false_or, if_true]
          exact ih (start + size)
      | false =>
          left
          simp only [Layout.firstFree, Bool.false_eq_true, if_false]
          refine ⟨⟨size, List.mem_cons_self⟩, ?_⟩
          intro free left member
          exact (mem_spans_bounds member).1

theorem merged_taken {rest : List Segment} {taken : Nat}
    (merged : Merged (front ++ ([⟨whole, false⟩] ++ back)))
    (shape : rest = [] ∨ ∃ left, rest = [⟨left, false⟩]) :
    Merged (front ++ ((⟨taken, true⟩ :: rest) ++ back)) := by
  have behind := (merged_split.mp merged).2
  apply merged_of_used rfl (List.isChain_append.mp merged).1
  rcases shape with rfl | ⟨left, rfl⟩
  · exact List.IsChain.tail behind
  · exact behind.of_flags rfl

theorem freeAt_taken {rest : List Segment} {taken free : Nat} (sum : taken + total rest = whole)
    (start : FreeAt (front ++ ([⟨whole, false⟩] ++ back)) free) (away : free ≠ total front) :
    FreeAt (front ++ ((⟨taken, true⟩ :: rest) ++ back)) free := by
  rw [freeAt_splice] at start ⊢
  simp only [total, sum, Nat.add_zero, spans, List.mem_singleton, Prod.mk.injEq] at start ⊢
  rcases start with inFront | ⟨left, same, -⟩ | inBack
  · exact Or.inl inFront
  · contradiction
  · exact Or.inr (Or.inr inBack)

theorem freeAt_of_taken {rest : List Segment} {taken free : Nat} (sum : taken + total rest = whole)
    (positive : 0 < taken) (start : FreeAt (front ++ ((⟨taken, true⟩ :: rest) ++ back)) free) :
    FreeAt (front ++ ([⟨whole, false⟩] ++ back)) free ∨ total front < free := by
  rw [freeAt_splice] at start ⊢
  simp only [total, sum, Nat.add_zero, spans, List.mem_cons, Prod.mk.injEq, Segment.mk.injEq,
    Bool.false_eq_true, and_false, false_or] at start ⊢
  rcases start with inFront | ⟨left, inRest⟩ | inBack
  · exact Or.inl (Or.inl inFront)
  · have bounds := mem_spans_bounds inRest
    right
    omega
  · exact Or.inl (Or.inr (Or.inr inBack))

/-- The lowest free pointer of `rt_malloc`. -/
theorem moved_lfree {middle : Heap} {rest before : List Segment}
    (layout : Layout middle (front ++ rest)) (taken : FreeAt before (total front))
    (start : FreeAt before middle.lfree ∨ middle.lfree = middle.heapEnd)
    (kept : ∀ free, FreeAt before free → free ≠ total front → FreeAt (front ++ rest) free)
    (stems : ∀ free, FreeAt (front ++ rest) free → FreeAt before free ∨ total front < free) :
    ∃ lowest,
      (if total front = middle.lfree then
        (nextFree middle (middle.heapEnd + 1) middle.lfree).bind fun lfree =>
          if lfree = middle.heapEnd ∨ middle.get lfree .used = 0 then
            some { middle with lfree := lfree }
          else none
      else some middle) = some { middle with lfree := lowest } ∧
      (FreeAt (front ++ rest) lowest ∨ lowest = middle.heapEnd) ∧
      (Lowest before middle.lfree → Lowest (front ++ rest) lowest) := by
  by_cases here : total front = middle.lfree
  · have turns : rest.length < middle.heapEnd + 1 := by
      have rooms := layout.room
      rw [List.forall_mem_append] at rooms
      have short := Layout.length_le rooms.2
      have fills := layout.fills
      rw [total_append] at fills
      omega
    -- nothing in front of the taken block is free when the pointer was the lowest
    have ahead (low : Lowest before middle.lfree) (free left : Nat) :
        (free, ⟨left, false⟩) ∉ spans 0 front := by
      intro member
      have bounds := mem_spans_bounds member
      have room : 16 ≤ left ∧ left % 4 = 0 :=
        layout.room ⟨left, false⟩ (List.mem_append_left _ (mem_of_mem_spans member))
      have whole : FreeAt (front ++ rest) free :=
        ⟨left, by rw [spans_append]; exact List.mem_append_left _ member⟩
      simp only at bounds
      rcases stems free whole with old | behind
      · have bound := low free old
        omega
      · omega
    rw [if_pos here, ← here, Layout.nextFree_eq layout turns, Option.bind_some]
    rcases firstFree_spec middle (total front) rest with ⟨⟨left, member⟩, least⟩ | ⟨ended, none⟩
    · obtain ⟨between, behind, rfl, place⟩ := mem_spans_iff.mp member
      have unused : middle.get (Layout.firstFree middle (total front)
          (between ++ ⟨left, false⟩ :: behind)) .used = 0 := by
        have shifted : Layout middle ((front ++ between) ++ ⟨left, false⟩ :: behind) := by
          rw [List.append_assoc]
          exact layout
        rw [place, ← total_append]
        exact shifted.used_eq
      refine ⟨_, if_pos (Or.inr unused), Or.inl ⟨left, ?_⟩, ?_⟩
      · rw [spans_append, Nat.zero_add]
        exact List.mem_append_right _ member
      · rintro low free ⟨size, found⟩
        rw [spans_append, Nat.zero_add, List.mem_append] at found
        rcases found with inFront | inRest
        · exact absurd inFront (ahead (here ▸ low) free size)
        · exact least free size inRest
    · refine ⟨_, if_pos (Or.inl ended), Or.inr ended, ?_⟩
      rintro low free ⟨size, found⟩
      rw [spans_append, Nat.zero_add, List.mem_append] at found
      rcases found with inFront | inRest
      · exact absurd inFront (ahead (here ▸ low) free size)
      · exact absurd inRest (none free size)
  · rw [if_neg here]
    refine ⟨middle.lfree, rfl, ?_, ?_⟩
    · rcases start with free | ended
      · exact Or.inl (kept _ free (Ne.symm here))
      · exact Or.inr ended
    · intro low free found
      rcases stems free found with old | behind
      · exact low free old
      · have bound := low _ taken
        omega

/-- Allocation from a given free block.  `rt_malloc` returns the block, and the others
stay. -/
theorem Valid.finish_malloc (valid : Valid heap (front ++ ([⟨whole, false⟩] ++ back)))
    (least : 12 ≤ size) (aligned : size % 4 = 0) (fits : size + 12 ≤ whole) :
    ∃ target after taken,
      finishMalloc heap size (total front) =
        some (target, heap.heapPtr + total front + 12) ∧
      Valid target after ∧ size + 12 ≤ taken ∧ (total front, ⟨taken, true⟩) ∈ spans 0 after ∧
      Others (total front) (front ++ ([⟨whole, false⟩] ++ back)) after heap target ∧
      target.maxMem = max heap.maxMem target.usedMem ∧
      (Lowest (front ++ ([⟨whole, false⟩] ++ back)) heap.lfree → Lowest after target.lfree) := by
  have room : 16 ≤ whole ∧ whole % 4 = 0 := valid.layout.room ⟨whole, false⟩ (by simp)
  have rooms := valid.layout.room
  simp only [List.forall_mem_append] at rooms
  have modulus := Layout.total_mod rooms.1
  have base := valid.layout.aligned
  have fills := valid.layout.fills
  simp only [total_append, total] at fills
  obtain ⟨middle, taken, rest, equation, enough, sum, shape, layout, frame, lfree, usedMem,
    maxMem⟩ := valid.layout.take_block least aligned fits
  have ends : middle.heapEnd = heap.heapEnd := frame.heapEnd
  have merged : Merged (front ++ ((⟨taken, true⟩ :: rest) ++ back)) :=
    merged_taken valid.merged shape
  have own : FreeAt (front ++ ([⟨whole, false⟩] ++ back)) (total front) :=
    ⟨whole, mem_spans_iff.mpr ⟨front, back, rfl, (Nat.zero_add _).symm⟩⟩
  have start : FreeAt (front ++ ([⟨whole, false⟩] ++ back)) middle.lfree ∨
      middle.lfree = middle.heapEnd := by
    rw [lfree, ends]
    exact valid.lfree.imp_right And.left
  obtain ⟨lowest, moved, restsAt, lower⟩ := moved_lfree layout own start
    (fun _ free away => freeAt_taken sum free away)
    (fun _ free => freeAt_of_taken sum (by omega) free)
  rw [lfree] at lower
  have used : middle.usedMem = usedTotal (front ++ ((⟨taken, true⟩ :: rest) ++ back)) := by
    have before := valid.usedMem
    simp only [usedTotal_append, usedTotal, Bool.false_eq_true, if_false] at before
    have unused : usedTotal rest = 0 := by
      rcases shape with rfl | ⟨left, rfl⟩ <;> rfl
    simp only [usedTotal_append, usedTotal, unused, if_true]
    omega
  have member : (total front, ⟨taken, true⟩) ∈
      spans 0 (front ++ ((⟨taken, true⟩ :: rest) ++ back)) :=
    mem_spans_iff.mpr ⟨front, rest ++ back, rfl, (Nat.zero_add _).symm⟩
  refine ⟨{ middle with lfree := lowest }, _, taken, ?_,
    ⟨layout.statics _ _ _, merged, ?_, used, ?_⟩,
    enough, member, ?_, ?_, lower⟩
  · have checks : total front + sizeofStructMem + size ≤ middle.heapEnd ∧
        (middle.heapPtr + total front + sizeofStructMem) % 4 = 0 ∧
        (middle.heapPtr + total front) % 4 = 0 := by
      rw [ends, frame.heapPtr]
      simp only [sizeofStructMem]
      omega
    simp only [finishMalloc, equation]
    rw [moved, Option.bind_some]
    refine (if_pos checks).trans ?_
    rw [← frame.heapPtr]
    rfl
  · rcases restsAt with free | ended
    · exact Or.inl free
    · right
      refine ⟨ended, ⟨taken, true⟩, mem_of_mem_spans member, rfl⟩
  · change middle.usedMem ≤ middle.maxMem
    rw [usedMem, maxMem]
    exact Nat.le_max_right _ _
  · apply Others.of_frame (frame.statics _ _ _)
    · simp only [total]
      omega
    · intro ptr changed
      simp only [List.mem_cons, List.not_mem_nil, or_false] at changed
      simp only [total]
      omega
    · intro other segment busy away
      constructor
      · simp only [spans, List.mem_singleton, Prod.mk.injEq]
        exact fun same => away same.1
      · simp only [spans, List.mem_cons, Prod.mk.injEq]
        rintro (same | inRest)
        · exact away same.1
        · rcases shape with rfl | ⟨left, rfl⟩
          · contradiction
          · simp only [spans, List.mem_singleton, Prod.mk.injEq] at inRest
            rw [inRest.2] at busy
            contradiction
  · change middle.maxMem = max heap.maxMem middle.usedMem
    rw [usedMem, maxMem]

/-- The number of bytes that `rt_malloc` looks for. -/
def mallocSize (size : Nat) : Nat :=
  if rtAlign size < minSizeAligned then minSizeAligned else rtAlign size

theorem mallocSize_spec (size : Nat) :
    12 ≤ mallocSize size ∧ mallocSize size % 4 = 0 ∧ rtAlign size ≤ mallocSize size := by
  unfold mallocSize rtAlign minSizeAligned
  split <;> omega

/-- A free block at or above the lowest free pointer is large enough.  The search ends
before the last `size` bytes of the heap, so that the whole of the last block is never
given away. -/
def Suitable (heap : Heap) (segments : List Segment) (size position : Nat) : Prop :=
  ∃ whole, (position, ⟨whole, false⟩) ∈ spans 0 segments ∧ heap.lfree ≤ position ∧
    mallocSize size + 12 ≤ whole ∧ position + mallocSize size < heap.memSizeAligned

/-- The lowest free pointer cuts the tiling. -/
theorem Valid.cut {segments : List Segment} (valid : Valid heap segments) :
    ∃ lower upper, segments = lower ++ upper ∧ heap.lfree = total lower := by
  rcases valid.lfree with ⟨size, member⟩ | ⟨ended, -⟩
  · obtain ⟨front, back, rfl, place⟩ := mem_spans_iff.mp member
    exact ⟨front, _, rfl, by rw [place, Nat.zero_add]⟩
  · exact ⟨segments, [], (List.append_nil _).symm, by rw [ended, valid.layout.fills]⟩

/-- Allocation.  `rt_malloc` returns.  It gives out the lowest suitable block, and
`RT_NULL` when there is none. -/
theorem Valid.rt_malloc {segments : List Segment} (valid : Valid heap segments)
    (positive : size ≠ 0) :
    (Heap.rtMalloc heap size = some (heap, 0) ∧
      ∀ position, ¬ Suitable heap segments size position) ∨
    ∃ position target after taken,
      Suitable heap segments size position ∧
      (∀ other, Suitable heap segments size other → position ≤ other) ∧
      Heap.rtMalloc heap size = some (target, heap.heapPtr + position + 12) ∧
      Valid target after ∧ mallocSize size + 12 ≤ taken ∧
      (position, ⟨taken, true⟩) ∈ spans 0 after ∧
      Others position segments after heap target ∧
      target.maxMem = max heap.maxMem target.usedMem ∧
      (Lowest segments heap.lfree → Lowest after target.lfree) := by
  obtain ⟨least, aligned, covers⟩ := mallocSize_spec size
  have bounded := valid.layout.bounded
  have room := valid.layout.enough
  by_cases large : heap.memSizeAligned < rtAlign size
  · left
    constructor
    · simp only [Heap.rtMalloc]
      rw [if_neg positive, if_pos large]
    · rintro position ⟨whole, -, -, -, near⟩
      omega
  · have small : mallocSize size ≤ heap.memSizeAligned := by
      unfold mallocSize minSizeAligned
      split <;> omega
    obtain ⟨lower, upper, rfl, place⟩ := valid.cut
    have turns : upper.length < heap.heapEnd + 1 := by
      have rooms := valid.layout.room
      rw [List.forall_mem_append] at rooms
      have short := Layout.length_le rooms.2
      have fills := valid.layout.fills
      rw [total_append] at fills
      omega
    have search := valid.layout.firstFit_eq turns small
    have suitable (position : Nat) (found : Suitable heap (lower ++ upper) size position) :
        ∃ whole, (position, ⟨whole, false⟩) ∈ spans (total lower) upper ∧
          suits heap (mallocSize size) (position, ⟨whole, false⟩) = true := by
      obtain ⟨whole, member, above, enough, near⟩ := found
      rw [spans_append, Nat.zero_add, List.mem_append] at member
      refine ⟨whole, member.resolve_left ?_, ?_⟩
      · intro below
        have bounds := mem_spans_bounds below
        simp only at bounds
        omega
      · simp only [suits, Bool.not_false, Bool.true_and, Bool.and_eq_true, decide_eq_true_eq]
        omega
    have unfolded : Heap.rtMalloc heap size =
        (firstFit heap (mallocSize size) (heap.heapEnd + 1) heap.lfree).bind fun found =>
          found.elim (some (heap, 0)) (finishMalloc heap (mallocSize size)) := by
      simp only [Heap.rtMalloc]
      rw [if_neg positive, if_neg large]
      refine congrArg (Option.bind _) (funext fun found => ?_)
      cases found <;> rfl
    rw [unfolded, place, search, Option.bind_some]
    cases found : (spans (total lower) upper).find? (suits heap (mallocSize size)) with
    | none =>
        left
        refine ⟨rfl, fun position fit => ?_⟩
        obtain ⟨whole, member, fits⟩ := suitable position fit
        exact List.find?_eq_none.mp found _ member fits
    | some span =>
        right
        obtain ⟨position, whole, used⟩ := span
        have member := List.mem_of_find?_eq_some found
        have fits := List.find?_some found
        simp only [suits, Bool.and_eq_true, Bool.not_eq_true', decide_eq_true_eq] at fits
        obtain ⟨⟨rfl, enough⟩, near⟩ := fits
        obtain ⟨between, behind, rfl, start⟩ := mem_spans_iff.mp member
        have split : lower ++ (between ++ ⟨whole, false⟩ :: behind) =
            (lower ++ between) ++ ([⟨whole, false⟩] ++ behind) := by
          rw [List.append_assoc]
          rfl
        have placed : position = total (lower ++ between) := by
          rw [start, total_append]
        have own :
            Suitable heap (lower ++ (between ++ ⟨whole, false⟩ :: behind)) size position := by
          refine ⟨whole, ?_, by omega, enough, by omega⟩
          rw [spans_append, Nat.zero_add]
          exact List.mem_append_right _ member
        have first (other : Nat)
            (fit : Suitable heap (lower ++ (between ++ ⟨whole, false⟩ :: behind)) size other) :
            position ≤ other := by
          obtain ⟨otherWhole, otherMember, otherFits⟩ := suitable other fit
          exact find_spans_le found otherMember otherFits
        rw [split] at valid
        obtain ⟨target, after, taken, returned, rest⟩ := valid.finish_malloc least aligned enough
        rw [← placed, ← split, place] at rest
        rw [← placed] at returned
        refine ⟨position, target, after, taken, own, first, ?_, rest⟩
        exact returned

end Taking

section Resizing

variable {heap : Heap} {front back : List Segment} {whole newsize : Nat}

/-- The heap of `rt_realloc` in front of `plug_holes`. -/
theorem Valid.cut_block (valid : Valid heap (front ++ ([⟨whole, true⟩] ++ back)))
    {part : Nat} (least : 16 ≤ part) (aligned : part % 4 = 0) (rest : part + 16 ≤ whole)
    (usedMem : Nat) :
    ∃ target,
      linkBack (createBlock { heap with usedMem := usedMem } (total front) (total front + part))
        (total front + part) = target ∧
      Layout target (front ++ ([⟨part, true⟩, ⟨whole - part, false⟩] ++ back)) ∧
      Frame [total front, total front + part, total front + whole] heap target ∧
      target.lfree = heap.lfree ∧ target.usedMem = usedMem ∧ target.maxMem = heap.maxMem := by
  have layout : Layout { heap with usedMem := usedMem } (front ++ ([⟨whole, true⟩] ++ back)) :=
    valid.layout.statics _ _ _
  obtain ⟨created, own, inner⟩ := layout.create_block least rest
  obtain ⟨linked, wide⟩ := layout.link_back ⟨least, aligned⟩ rest created own inner
  obtain ⟨lfree, used, maxMem⟩ := linkBack_statics (createBlock { heap with usedMem := usedMem }
    (total front) (total front + part)) (total front + part)
  refine ⟨_, rfl, linked, ?_, lfree, used, maxMem⟩
  exact ⟨wide.heapPtr, wide.memSizeAligned, wide.memory⟩

/-- The size of a block without its structure. -/
theorem Valid.sizeAt_eq (valid : Valid heap (front ++ ([⟨whole, true⟩] ++ back))) :
    heap.sizeAt (heap.heapPtr + total front + 12) = whole - 12 := by
  have room : 16 ≤ whole ∧ whole % 4 = 0 := valid.layout.room ⟨whole, true⟩ (by simp)
  have fills := valid.layout.fills
  simp only [total_append, total] at fills
  have bounded := valid.layout.bounded
  have next : heap.get (total front) .next = total front + whole := valid.layout.next_eq
  have position : heap.heapPtr + total front + 12 - sizeofStructMem - heap.heapPtr =
      total front := by
    simp only [sizeofStructMem]
    omega
  have length : sizeSub (total front + whole) (total front) = whole := by
    rw [sizeSub_eq (by omega) (by omega)]
    omega
  unfold Heap.sizeAt
  simp only [position, next, length]
  exact sizeSub_eq (by simp only [sizeofStructMem]; omega) (by omega)

/-- The first critical section of `rt_realloc`, for a block in use. -/
theorem Valid.resize_eq (valid : Valid heap (front ++ ([⟨whole, true⟩] ++ back)))
    (newsize : Nat) :
    resize heap (heap.heapPtr + total front + 12) newsize =
      if whole - 12 = newsize then some (heap, .done (heap.heapPtr + total front + 12))
      else if newsize + 24 < whole - 12 then
        (plugHoles (linkBack (createBlock
          { heap with usedMem := heap.usedMem - (whole - 12 - newsize) } (total front)
            (total front + (newsize + 12))) (total front + (newsize + 12)))
              (total front + (newsize + 12))).map
          fun target => (target, .done (heap.heapPtr + total front + 12))
      else some (heap, .expand (whole - 12)) := by
  have room : 16 ≤ whole ∧ whole % 4 = 0 := valid.layout.room ⟨whole, true⟩ (by simp)
  have fills := valid.layout.fills
  simp only [total_append, total] at fills
  have bounded := valid.layout.bounded
  have size := valid.sizeAt_eq
  have position : heap.heapPtr + total front + 12 - sizeofStructMem - heap.heapPtr =
      total front := by
    simp only [sizeofStructMem]
    omega
  have place : total front + sizeofStructMem + newsize = total front + (newsize + 12) := by
    simp only [sizeofStructMem]
    omega
  unfold Heap.sizeAt at size
  unfold resize
  rw [if_neg (by omega)]
  simp only [position] at size ⊢
  simp only [size, place]
  rfl

/-- Shrinking.  The block keeps its place and its first bytes, and the rest of it is
free. -/
theorem Valid.shrink (valid : Valid heap (front ++ ([⟨whole, true⟩] ++ back)))
    (positive : 4 ≤ newsize) (aligned : newsize % 4 = 0) (smaller : newsize + 24 < whole - 12) :
    ∃ target after,
      resize heap (heap.heapPtr + total front + 12) newsize =
        some (target, .done (heap.heapPtr + total front + 12)) ∧
      Valid target after ∧ (total front, ⟨newsize + 12, true⟩) ∈ spans 0 after ∧
      Others (total front) (front ++ ([⟨whole, true⟩] ++ back)) after heap target ∧
      (∀ place, heap.heapPtr + total front + 12 ≤ place →
        place < heap.heapPtr + total front + 12 + newsize →
        target.memory place = heap.memory place) ∧
      (Lowest (front ++ ([⟨whole, true⟩] ++ back)) heap.lfree → heap.lfree ≤ total front →
        Lowest after target.lfree) ∧
      (heap.lfree = heap.heapEnd → target.lfree = heap.heapEnd) := by
  have fills := valid.layout.fills
  simp only [total_append, total] at fills
  obtain ⟨middle, equation, layout, frame, lfree, usedMem, maxMem⟩ :=
    valid.cut_block (by omega : 16 ≤ newsize + 12) (by omega) (by omega)
      (heap.usedMem - (whole - 12 - newsize))
  have used := valid.usedMem
  simp only [usedTotal_append, usedTotal, if_true] at used
  have regrouped : front ++ ([⟨newsize + 12, true⟩, ⟨whole - (newsize + 12), false⟩] ++ back) =
      (front ++ [⟨newsize + 12, true⟩]) ++ ([⟨whole - (newsize + 12), false⟩] ++ back) := by
    rw [List.append_assoc]
    rfl
  have frontMerged := (merged_split.mp valid.merged).1
  have backMerged : Merged back := List.IsChain.tail (merged_split.mp valid.merged).2
  rw [regrouped] at layout
  obtain ⟨target, after, returned, targetLayout, merged, coalesced⟩ :=
    layout.plug_holes (frontMerged.of_flags (by rw [List.map_append, List.map_append]; rfl))
      backMerged
  rw [total_snoc] at returned
  rw [← regrouped] at coalesced
  have own : (total front, ⟨newsize + 12, true⟩) ∈ spans 0 (front ++
      ([⟨newsize + 12, true⟩, ⟨whole - (newsize + 12), false⟩] ++ back)) :=
    mem_spans_iff.mpr ⟨front, _, rfl, (Nat.zero_add _).symm⟩
  have stems (free : Nat) : FreeAt (front ++
      ([⟨newsize + 12, true⟩, ⟨whole - (newsize + 12), false⟩] ++ back)) free ↔
      free = total front + (newsize + 12) ∨
        FreeAt (front ++ ([⟨whole, true⟩] ++ back)) free := by
    have sum : newsize + 12 + (whole - (newsize + 12)) = whole := by omega
    simp only [freeAt_splice, spans, List.mem_cons, List.not_mem_nil, or_false, Prod.mk.injEq,
      Segment.mk.injEq, total, Nat.add_zero, sum, Bool.false_eq_true, and_false, false_or,
      exists_const, and_true, exists_and_left, exists_eq, or_left_comm]
  have last : target.heapEnd = heap.heapEnd := by
    rw [← frame.heapEnd, Heap.heapEnd, Heap.heapEnd, coalesced.memSizeAligned]
  have stuck (ended : heap.lfree = heap.heapEnd) : target.lfree = heap.heapEnd := by
    rw [← frame.heapEnd]
    apply coalesced.ended
    rw [lfree, ended, frame.heapEnd]
  refine ⟨target, after, ?_, ⟨targetLayout, merged, ?_, ?_, ?_⟩, ?_, ?_, ?_, ?_, stuck⟩
  · rw [valid.resize_eq, if_neg (by omega), if_pos smaller, equation, returned]
    rfl
  · rcases valid.lfree with free | ⟨ended, -⟩
    · left
      apply coalesced.free
      rw [lfree, stems]
      exact Or.inr free
    · right
      have member := (coalesced.blocks _ _ rfl).mpr own
      refine ⟨?_, ⟨newsize + 12, true⟩, mem_of_mem_spans member, rfl⟩
      rw [last]
      exact stuck ended
  · rw [coalesced.usedMem, usedMem, coalesced.usedTotal]
    simp only [usedTotal_append, usedTotal, if_true, Bool.false_eq_true, if_false]
    omega
  · rw [coalesced.usedMem, coalesced.maxMem, usedMem, maxMem]
    have bound := valid.maxMem
    omega
  · exact (coalesced.blocks _ _ rfl).mpr own
  · refine Others.coalesced (Others.of_frame frame ?_ ?_ ?_) coalesced
    · simp only [total]
      omega
    · intro ptr changed
      simp only [List.mem_cons, List.not_mem_nil, or_false] at changed
      simp only [total]
      omega
    · intro other segment busy away
      simp only [spans, List.mem_cons, List.not_mem_nil, or_false, Prod.mk.injEq]
      constructor
      · exact fun same => away same.1
      · rintro (same | same)
        · exact away same.1
        · rw [same.2] at busy
          contradiction
  · intro place low high
    rw [coalesced.data _ _ rfl own place (by rw [frame.heapPtr]; exact low)
      (by rw [frame.heapPtr]; simp only; omega)]
    apply frame.memory
    intro ptr changed
    simp only [List.mem_cons, List.not_mem_nil, or_false] at changed
    omega
  · intro low below
    apply coalesced.lowest
    intro free start
    rw [lfree]
    rcases (stems free).mp start with rfl | old
    · omega
    · exact low free old

end Resizing

end BerPiNbiot.Kernel
