import BerPiNbiot.Kernel.HeapLayout

/-!
# Blocks of the heap

The loops of `rt_malloc` visit the blocks in the order of their addresses, so that each
of them is a search of the tiling.  `plug_holes` combines free neighbours: the blocks in
use keep their places and their bytes.
-/

namespace BerPiNbiot.Kernel

open BerPiNbiot.Text BerPiNbiot.Tiling

/-- A free block begins here. -/
def FreeAt (segments : List Segment) (position : Nat) : Prop :=
  ∃ size, (position, ⟨size, false⟩) ∈ spans 0 segments

/-- No free block begins below. -/
def Lowest (segments : List Segment) (position : Nat) : Prop :=
  ∀ free, FreeAt segments free → position ≤ free

/-- A free block that `rt_malloc` can take. -/
def suits (heap : Heap) (size : Nat) (span : Nat × Segment) : Bool :=
  !span.2.used && decide (size + 12 ≤ span.2.size) &&
    decide (span.1 < heap.memSizeAligned - size)

theorem sizeSub_eq {first second : Nat} (le : second ≤ first) (small : first < 4294967296) :
    sizeSub first second = first - second := by
  unfold sizeSub
  omega

namespace Layout

variable {heap : Heap} {segments front back : List Segment} {segment : Segment}

theorem length_le (room : ∀ segment ∈ segments, 16 ≤ segment.size ∧ segment.size % 4 = 0) :
    segments.length ≤ total segments := by
  induction segments with
  | nil => exact le_rfl
  | cons segment rest ih =>
      rw [List.forall_mem_cons] at room
      have shorter := ih room.2
      rw [List.length_cons, total]
      omega

/-- The search of `rt_malloc` finds the first suitable block from where it starts. -/
theorem firstFit_eq (layout : Layout heap (front ++ back)) {size turns : Nat}
    (enough : back.length < turns) (small : size ≤ heap.memSizeAligned) :
    firstFit heap size turns (total front) =
      some (((spans (total front) back).find? (suits heap size)).map Prod.fst) := by
  have bounded := layout.bounded
  have whole : heap.heapEnd = heap.memSizeAligned + 12 := rfl
  have bound : sizeSub heap.memSizeAligned size = heap.memSizeAligned - size :=
    sizeSub_eq small (by omega)
  induction back generalizing front turns with
  | nil =>
      have fills := layout.fills
      rw [List.append_nil] at fills
      cases turns with
      | zero => contradiction
      | succ turns =>
          rw [firstFit, bound, if_neg (by omega)]
          rfl
  | cons segment rest ih =>
      have room := layout.room segment (List.mem_append_right _ List.mem_cons_self)
      have fills := layout.fills
      rw [total_append, total] at fills
      cases turns with
      | zero => contradiction
      | succ turns =>
          have later := ih layout.shift (Nat.lt_of_succ_lt_succ enough)
          rw [total_snoc] at later
          have data : sizeSub (total front + segment.size) (total front + sizeofStructMem) =
              segment.size - 12 := by
            rw [sizeSub_eq (by simp only [sizeofStructMem]; omega) (by omega)]
            simp only [sizeofStructMem]
            omega
          rw [firstFit, bound, layout.used_eq, layout.next_eq, data, spans, List.find?_cons]
          by_cases near : total front < heap.memSizeAligned - size
          · rw [if_pos near]
            by_cases fits : segment.used.toNat = 0 ∧ size ≤ segment.size - 12
            · have suitable : suits heap size (total front, segment) = true := by
                have free := Bool.toNat_eq_zero.mp fits.1
                simp only [suits, free, Bool.not_false, Bool.true_and, Bool.and_eq_true,
                  decide_eq_true_eq]
                omega
              rw [if_pos fits, suitable]
              rfl
            · have unsuitable : suits heap size (total front, segment) = false := by
                rw [Bool.eq_false_iff]
                intro suitable
                simp only [suits, Bool.and_eq_true, Bool.not_eq_true', decide_eq_true_eq]
                  at suitable
                apply fits
                rw [suitable.1.1]
                exact ⟨rfl, by omega⟩
              rw [if_neg fits, unsuitable]
              exact later
          · rw [if_neg near]
            have none : (spans (total front) (segment :: rest)).find? (suits heap size) =
                none := by
              rw [List.find?_eq_none]
              rintro ⟨position, later⟩ member suitable
              have bounds := mem_spans_bounds member
              simp only [suits, Bool.and_eq_true, decide_eq_true_eq] at suitable
              omega
            rw [spans, List.find?_cons] at none
            rw [none]
            rfl

/-- The lowest free block from a place on, or the end of the heap. -/
def firstFree (heap : Heap) (start : Nat) : List Segment → Nat
  | [] => heap.heapEnd
  | segment :: rest =>
      if segment.used then firstFree heap (start + segment.size) rest else start

theorem nextFree_eq (layout : Layout heap (front ++ back)) {turns : Nat}
    (enough : back.length < turns) :
    nextFree heap turns (total front) = some (firstFree heap (total front) back) := by
  induction back generalizing front turns with
  | nil =>
      have fills := layout.fills
      rw [List.append_nil] at fills
      cases turns with
      | zero => contradiction
      | succ turns =>
          rw [nextFree, if_neg (by omega), fills]
          rfl
  | cons segment rest ih =>
      have room := layout.room segment (List.mem_append_right _ List.mem_cons_self)
      have fills := layout.fills
      rw [total_append, total] at fills
      cases turns with
      | zero => contradiction
      | succ turns =>
          have later := ih layout.shift (Nat.lt_of_succ_lt_succ enough)
          rw [total_snoc] at later
          rw [nextFree, layout.used_eq, layout.next_eq, firstFree]
          cases segment.used with
          | true => rw [if_pos ⟨Nat.one_ne_zero, by omega⟩, later, if_pos rfl]
          | false => rw [if_neg fun busy => busy.1 rfl, if_neg Bool.false_ne_true]

/-- One block begins at a place. -/
theorem block_eq (layout : Layout heap segments) {position : Nat} {neighbour : Segment}
    (member : (position, segment) ∈ spans 0 segments)
    (second : (position, neighbour) ∈ spans 0 segments) : segment = neighbour := by
  refine eq_of_mem_spans (fun other inside => ?_) member second
  exact Nat.lt_of_lt_of_le (Nat.succ_pos 15) (layout.room other inside).1

/-- The structures of the heap lie outside the data of its blocks. -/
theorem header_apart (layout : Layout heap segments) {position ptr : Nat}
    (member : (position, segment) ∈ spans 0 segments)
    (start : ptr = heap.heapEnd ∨ ∃ other, (ptr, other) ∈ spans 0 segments) :
    ptr + 12 ≤ position ∨ ptr = position ∨ position + segment.size ≤ ptr := by
  rcases start with rfl | ⟨other, second⟩
  · have bounds := mem_spans_bounds member
    rw [layout.fills] at bounds
    omega
  · have room := layout.room other (mem_of_mem_spans second)
    rcases spans_disjoint member second with ⟨same, -⟩ | behind | before
    · omega
    · omega
    · omega

/-- Stores to the data of a block do not change the layout. -/
theorem store (layout : Layout heap segments) {position : Nat} {memory : Memory}
    (member : (position, segment) ∈ spans 0 segments)
    (outside : ∀ place, place < heap.heapPtr + position + 12 ∨
      heap.heapPtr + position + segment.size ≤ place → memory place = heap.memory place) :
    Layout { heap with memory := memory } segments := by
  have same (ptr : Nat) (start : ptr = heap.heapEnd ∨ ∃ other, (ptr, other) ∈ spans 0 segments) :
      Heap.get { heap with memory := memory } ptr = heap.get ptr := by
    have away := layout.header_apart member start
    have room := layout.room segment (mem_of_mem_spans member)
    funext field
    apply Memory.word_congr
    intro place low high
    apply outside
    cases field <;> simp only [HeapField.offset, HeapField.width] at low high <;> omega
  refine ⟨?_, layout.fills, ?_, layout.room, layout.aligned, layout.enough, layout.bounded⟩
  · apply layout.tiles.congr
    intro ptr other start
    exact same ptr (Or.inr ⟨other, start⟩)
  · refine Eq.trans ?_ layout.guarded
    exact congrFun (same heap.heapEnd (Or.inl rfl)) .used

end Layout

/-! ## Combining free blocks -/

/-- Free blocks have been combined.  The blocks in use are the same with the same bytes,
and the lowest free pointer still is at a free block. -/
structure Coalesced (before after : List Segment) (heap target : Heap) : Prop where
  heapPtr : target.heapPtr = heap.heapPtr
  memSizeAligned : target.memSizeAligned = heap.memSizeAligned
  usedMem : target.usedMem = heap.usedMem
  maxMem : target.maxMem = heap.maxMem
  usedTotal : usedTotal after = usedTotal before
  blocks : ∀ position segment, segment.used = true →
    ((position, segment) ∈ spans 0 after ↔ (position, segment) ∈ spans 0 before)
  data : ∀ position segment, segment.used = true → (position, segment) ∈ spans 0 before →
    ∀ place, heap.heapPtr + position + 12 ≤ place →
      place < heap.heapPtr + position + segment.size → target.memory place = heap.memory place
  free : FreeAt before heap.lfree → FreeAt after target.lfree
  ended : heap.lfree = heap.heapEnd → target.lfree = heap.heapEnd
  lowest : Lowest before heap.lfree → Lowest after target.lfree

namespace Coalesced

theorem refl (segments : List Segment) (heap : Heap) : Coalesced segments segments heap heap where
  heapPtr := rfl
  memSizeAligned := rfl
  usedMem := rfl
  maxMem := rfl
  usedTotal := rfl
  blocks := fun _ _ _ => Iff.rfl
  data := fun _ _ _ _ _ _ _ => rfl
  free := id
  ended := id
  lowest := id

theorem trans {before between after : List Segment} {heap middle target : Heap}
    (first : Coalesced before between heap middle)
    (second : Coalesced between after middle target) :
    Coalesced before after heap target where
  heapPtr := second.heapPtr.trans first.heapPtr
  memSizeAligned := second.memSizeAligned.trans first.memSizeAligned
  usedMem := second.usedMem.trans first.usedMem
  maxMem := second.maxMem.trans first.maxMem
  usedTotal := second.usedTotal.trans first.usedTotal
  blocks := fun position segment used =>
    (second.blocks position segment used).trans (first.blocks position segment used)
  data := by
    intro position segment used member place low high
    rw [second.data position segment used ((first.blocks position segment used).mpr member) place
      (by rw [first.heapPtr]; exact low) (by rw [first.heapPtr]; exact high),
      first.data position segment used member place low high]
  free := fun start => second.free (first.free start)
  ended := by
    intro last
    have same : middle.heapEnd = heap.heapEnd := by
      rw [Heap.heapEnd, Heap.heapEnd, first.memSizeAligned]
    rw [← same]
    apply second.ended
    rw [same]
    exact first.ended last
  lowest := fun start => second.lowest (first.lowest start)

end Coalesced

section Combining

variable {heap : Heap} {front back : List Segment} {first second : Nat}

theorem freeAt_splice {middle : List Segment} {position : Nat} :
    FreeAt (front ++ (middle ++ back)) position ↔
      (∃ size, (position, ⟨size, false⟩) ∈ spans 0 front) ∨
        (∃ size, (position, ⟨size, false⟩) ∈ spans (total front) middle) ∨
          ∃ size, (position, ⟨size, false⟩) ∈ spans (total front + total middle) back := by
  simp only [FreeAt, spans_append, List.mem_append, exists_or, Nat.zero_add]

theorem mem_spans_combined {position : Nat} {segment : Segment} (used : segment.used = true) :
    (position, segment) ∈ spans 0 (front ++ ([⟨first + second, false⟩] ++ back)) ↔
      (position, segment) ∈
        spans 0 (front ++ ([⟨first, false⟩, ⟨second, false⟩] ++ back)) := by
  have busy (start size : Nat) : (position, segment) ≠ (start, ⟨size, false⟩) := by
    rintro equal
    cases equal
    contradiction
  simp only [spans_append, List.mem_append, spans, List.mem_cons, busy, false_or, total,
    List.not_mem_nil, Nat.add_zero, Nat.add_assoc]

/-- Two free blocks become one. -/
theorem Layout.coalesced
    (layout : Layout heap (front ++ ([⟨first, false⟩, ⟨second, false⟩] ++ back))) :
    Layout (combine heap (total front) (total front + first))
        (front ++ ([⟨first + second, false⟩] ++ back)) ∧
      Coalesced (front ++ ([⟨first, false⟩, ⟨second, false⟩] ++ back))
        (front ++ ([⟨first + second, false⟩] ++ back)) heap
        (combine heap (total front) (total front + first)) := by
  obtain ⟨combined, frame⟩ := layout.combine_pair
  refine ⟨combined, ?_⟩
  have rooms := layout.room
  simp only [List.forall_mem_append, List.forall_mem_cons] at rooms
  obtain ⟨-, ⟨firstRoom, secondRoom, -⟩, -⟩ := rooms
  have fills := layout.fills
  simp only [total_append, total] at fills
  have behind : heap.get (total front + first) .next = total front + (first + second) := by
    have next := (shift layout).next_eq
    rw [total_snoc, Nat.add_assoc] at next
    exact next
  have equation : combine heap (total front) (total front + first) = _ :=
    combine_eq heap (by omega) behind
  have lfree : (combine heap (total front) (total front + first)).lfree =
      if heap.lfree = total front + first then total front else heap.lfree := by
    rw [equation]
  constructor
  case heapPtr => exact frame.heapPtr
  case memSizeAligned => exact frame.memSizeAligned
  case usedMem =>
    rw [equation]
    rfl
  case maxMem =>
    rw [equation]
    rfl
  case usedTotal => simp [usedTotal]
  case blocks =>
    intro position segment used
    exact mem_spans_combined used
  case data =>
    intro position segment used member place low high
    apply frame.memory
    have starts (ptr : Nat) (touched : ptr ∈ [total front, total front + (first + second)]) :
        ptr = heap.heapEnd ∨ ∃ other, (ptr, other) ∈
          spans 0 (front ++ ([⟨first, false⟩, ⟨second, false⟩] ++ back)) := by
      simp only [List.mem_cons, List.not_mem_nil, or_false] at touched
      rcases touched with rfl | rfl
      · right
        exact ⟨_, mem_spans_iff.mpr ⟨front, _, rfl, (Nat.zero_add _).symm⟩⟩
      · cases back with
        | nil =>
            left
            rw [total] at fills
            omega
        | cons head rest =>
            right
            refine ⟨head, mem_spans_iff.mpr
              ⟨front ++ [⟨first, false⟩, ⟨second, false⟩], rest, ?_, ?_⟩⟩
            · rw [List.append_assoc]
            · simp only [total_append, total]
              omega
    intro ptr touched
    have away := layout.header_apart member (starts ptr touched)
    omega
  case free =>
    intro start
    rw [lfree]
    rw [freeAt_splice] at start ⊢
    by_cases absorbed : heap.lfree = total front + first
    · rw [if_pos absorbed]
      exact Or.inr (Or.inl ⟨first + second, List.mem_cons_self⟩)
    · rw [if_neg absorbed]
      rcases start with inFront | ⟨size, inMiddle⟩ | inBack
      · exact Or.inl inFront
      · right
        left
        refine ⟨first + second, ?_⟩
        simp only [spans, List.mem_cons, List.not_mem_nil, or_false, Prod.mk.injEq] at inMiddle ⊢
        exact ⟨(inMiddle.resolve_right fun later => absorbed later.1).1, trivial⟩
      · right
        right
        simp only [total, Nat.add_zero] at inBack ⊢
        exact inBack
  case ended =>
    intro last
    rw [lfree, if_neg (by omega), last]
  case lowest =>
    intro low free start
    have earlier : heap.lfree ≤ free := by
      apply low
      rw [freeAt_splice] at start ⊢
      rcases start with inFront | ⟨size, inMiddle⟩ | inBack
      · exact Or.inl inFront
      · right
        left
        refine ⟨first, ?_⟩
        simp only [spans, List.mem_cons, List.not_mem_nil, or_false, Prod.mk.injEq] at inMiddle ⊢
        exact Or.inl ⟨inMiddle.1, trivial⟩
      · right
        right
        simp only [total, Nat.add_zero] at inBack ⊢
        exact inBack
    rw [lfree]
    split <;> omega

/-- The forward half of `plug_holes`. -/
theorem Layout.plug_forward {size : Nat} (layout : Layout heap (front ++ ([⟨size, false⟩] ++ back)))
    (merged : Merged back) :
    ∃ larger rest target,
      (if total front ≠ heap.get (total front) .next ∧
          heap.get (heap.get (total front) .next) .used = 0 ∧
          heap.get (total front) .next ≠ heap.heapEnd then
        combine heap (total front) (heap.get (total front) .next)
      else heap) = target ∧
      Layout target (front ++ ([⟨larger, false⟩] ++ rest)) ∧
      Merged (⟨larger, false⟩ :: rest) ∧
      Coalesced (front ++ ([⟨size, false⟩] ++ back)) (front ++ ([⟨larger, false⟩] ++ rest))
        heap target := by
  have room : 16 ≤ size ∧ size % 4 = 0 := layout.room ⟨size, false⟩ (by simp)
  have fills := layout.fills
  simp only [total_append, total] at fills
  have next : heap.get (total front) .next = total front + size := layout.next_eq
  rw [next]
  cases back with
  | nil =>
      refine ⟨size, [], heap, if_neg ?_, layout, List.isChain_singleton _, .refl _ _⟩
      rintro ⟨-, -, notEnd⟩
      rw [total] at fills
      omega
  | cons head rest =>
      have behind : heap.get (total front + size) .used = head.used.toNat := by
        have used := (shift layout).used_eq
        rw [total_snoc] at used
        exact used
      rw [behind]
      obtain ⟨headSize, used⟩ := head
      have headRoom : 16 ≤ headSize ∧ headSize % 4 = 0 := layout.room ⟨headSize, used⟩ (by simp)
      cases used with
      | true =>
          refine ⟨size, _, heap, if_neg ?_, layout, ?_, .refl _ _⟩
          · rintro ⟨-, unused, -⟩
            exact Nat.one_ne_zero unused
          · exact List.isChain_cons_cons.mpr ⟨Or.inr rfl, merged⟩
      | false =>
          have pair : Layout heap (front ++ ([⟨size, false⟩, ⟨headSize, false⟩] ++ rest)) := layout
          obtain ⟨combined, coalesced⟩ := pair.coalesced
          simp only [total] at fills
          refine ⟨size + headSize, rest, _, if_pos ⟨by omega, rfl, by omega⟩, combined, ?_,
            coalesced⟩
          exact merged.of_flags rfl

/-- `plug_holes` returns, and no two free blocks are left side by side. -/
theorem Layout.plug_holes {size : Nat} (layout : Layout heap (front ++ ([⟨size, false⟩] ++ back)))
    (frontMerged : Merged front) (backMerged : Merged back) :
    ∃ target after, plugHoles heap (total front) = some target ∧ Layout target after ∧
      Merged after ∧ Coalesced (front ++ ([⟨size, false⟩] ++ back)) after heap target := by
  have room : 16 ≤ size ∧ size % 4 = 0 := layout.room ⟨size, false⟩ (by simp)
  have fills := layout.fills
  simp only [total_append, total] at fills
  have unused : heap.get (total front) .used = 0 := layout.used_eq
  obtain ⟨larger, rest, middle, forward, enlarged, restMerged, first⟩ :=
    layout.plug_forward backMerged
  have before : middle.get (total front) .prev = lastStart 0 0 front := enlarged.prev_eq
  simp only [plugHoles]
  rw [if_pos ⟨by omega, unused⟩, forward, before]
  rcases List.eq_nil_or_concat front with rfl | ⟨init, last, rfl⟩
  · refine ⟨middle, _, if_neg ?_, enlarged, restMerged, first⟩
    rintro ⟨different, -⟩
    exact different rfl
  · rw [List.concat_eq_append] at *
    obtain ⟨lastSize, used⟩ := last
    have lastRoom : 16 ≤ lastSize ∧ lastSize % 4 = 0 := layout.room ⟨lastSize, used⟩ (by simp)
    have place : lastStart 0 0 (init ++ [⟨lastSize, used⟩]) = total init := by
      rw [lastStart_append, Nat.zero_add]
      rfl
    have backward : Layout middle (init ++ ([⟨lastSize, used⟩, ⟨larger, false⟩] ++ rest)) := by
      rw [List.append_assoc] at enlarged
      exact enlarged
    have previous : middle.get (total init) .used = used.toNat := backward.used_eq
    rw [place, previous, total_snoc]
    cases used with
    | true =>
        refine ⟨middle, _, if_neg ?_, enlarged, ?_, first⟩
        · rintro ⟨-, free⟩
          exact Nat.one_ne_zero free
        · rw [List.append_assoc]
          exact merged_of_used rfl (List.IsChain.left_of_append frontMerged) restMerged
    | false =>
        obtain ⟨combined, coalesced⟩ := backward.coalesced
        have different : total init ≠ total init + lastSize := by omega
        refine ⟨_, _, if_pos ⟨different, rfl⟩, combined, ?_, first.trans ?_⟩
        · refine merged_split.mpr ⟨frontMerged.of_flags ?_, restMerged.of_flags rfl⟩
          rw [List.map_append, List.map_append]
          rfl
        · rw [List.append_assoc]
          exact coalesced

end Combining

end BerPiNbiot.Kernel
