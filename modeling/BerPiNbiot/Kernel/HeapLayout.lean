import BerPiNbiot.Kernel.Heap
import BerPiNbiot.Tiling.Core

/-!
# The layout of the heap

The structures in memory describe a tiling of the heap: `next` and `prev` of every
block lead to its neighbours.  The operations of `mem.c` rewrite a few structures; they
replace neighbouring segments and keep the layout.

What an operation leaves alone is said by `Frame`: it stores to the listed structures
and nowhere else.
-/

namespace BerPiNbiot.Kernel

open BerPiNbiot.Text BerPiNbiot.Tiling

/-! ## Fields -/

/-- The numbers that a field can hold are below its limit. -/
def HeapField.limit : HeapField → Nat
  | .magic => 65536
  | .used => 65536
  | .next => 4294967296
  | .prev => 4294967296

namespace Heap

@[simp]
theorem heapPtr_set (heap : Heap) (ptr : Nat) (field : HeapField) (value : Nat) :
    (heap.set ptr field value).heapPtr = heap.heapPtr :=
  rfl

@[simp]
theorem memSizeAligned_set (heap : Heap) (ptr : Nat) (field : HeapField) (value : Nat) :
    (heap.set ptr field value).memSizeAligned = heap.memSizeAligned :=
  rfl

@[simp]
theorem heapEnd_set (heap : Heap) (ptr : Nat) (field : HeapField) (value : Nat) :
    (heap.set ptr field value).heapEnd = heap.heapEnd :=
  rfl

@[simp]
theorem lfree_set (heap : Heap) (ptr : Nat) (field : HeapField) (value : Nat) :
    (heap.set ptr field value).lfree = heap.lfree :=
  rfl

@[simp]
theorem usedMem_set (heap : Heap) (ptr : Nat) (field : HeapField) (value : Nat) :
    (heap.set ptr field value).usedMem = heap.usedMem :=
  rfl

theorem get_set_self (heap : Heap) (ptr : Nat) {field : HeapField} {value : Nat}
    (fits : value < field.limit) : (heap.set ptr field value).get ptr field = value := by
  apply Memory.word_setWord
  cases field <;> exact fits

theorem get_set_of_ne (heap : Heap) (ptr value : Nat) {field other : HeapField}
    (different : other ≠ field) :
    (heap.set ptr field value).get ptr other = heap.get ptr other := by
  apply Memory.word_setWord_of_apart
  cases field <;> cases other <;>
    first
    | contradiction
    | simp only [HeapField.offset, HeapField.width, heapPtr_set]; omega

theorem get_set_of_apart (heap : Heap) {ptr other : Nat} (field : HeapField) (value : Nat)
    (apart : other + 12 ≤ ptr ∨ ptr + 12 ≤ other) :
    (heap.set ptr field value).get other = heap.get other := by
  funext seen
  apply Memory.word_setWord_of_apart
  cases field <;> cases seen <;>
    simp only [HeapField.offset, HeapField.width, heapPtr_set] <;> omega

end Heap

/-! ## What an operation leaves alone -/

/-- Only the listed structures and the variables have changed. -/
structure Frame (touched : List Nat) (heap target : Heap) : Prop where
  heapPtr : target.heapPtr = heap.heapPtr
  memSizeAligned : target.memSizeAligned = heap.memSizeAligned
  memory : ∀ place, (∀ ptr ∈ touched, place < heap.heapPtr + ptr ∨
    heap.heapPtr + ptr + 12 ≤ place) → target.memory place = heap.memory place

namespace Frame

variable {touched : List Nat} {heap middle target : Heap}

theorem refl (touched : List Nat) (heap : Heap) : Frame touched heap heap :=
  ⟨rfl, rfl, fun _ _ => rfl⟩

theorem trans (first : Frame touched heap middle) (second : Frame touched middle target) :
    Frame touched heap target where
  heapPtr := second.heapPtr.trans first.heapPtr
  memSizeAligned := second.memSizeAligned.trans first.memSizeAligned
  memory := by
    intro place outside
    rw [second.memory place (by rw [first.heapPtr]; exact outside), first.memory place outside]

/-- An assignment touches its structure. -/
theorem set (frame : Frame touched heap target) {ptr : Nat} (field : HeapField) (value : Nat)
    (member : ptr ∈ touched) : Frame touched heap (target.set ptr field value) := by
  apply frame.trans
  refine ⟨rfl, rfl, fun place outside => ?_⟩
  apply Memory.setWord_of_outside
  rcases outside ptr member with below | above
  · left
    omega
  · right
    cases field <;> simp only [HeapField.offset, HeapField.width] <;> omega

theorem mono {more : List Nat} (frame : Frame touched heap target) (sub : touched ⊆ more) :
    Frame more heap target :=
  ⟨frame.heapPtr, frame.memSizeAligned, fun place outside =>
    frame.memory place fun ptr member => outside ptr (sub member)⟩

theorem heapEnd (frame : Frame touched heap target) : target.heapEnd = heap.heapEnd := by
  rw [Heap.heapEnd, Heap.heapEnd, frame.memSizeAligned]

/-- The static variables may change. -/
theorem statics (frame : Frame touched heap target) (lfree usedMem maxMem : Nat) :
    Frame touched heap
      { target with lfree := lfree, usedMem := usedMem, maxMem := maxMem } :=
  ⟨frame.heapPtr, frame.memSizeAligned, frame.memory⟩

/-- Structures away from the listed ones are as before. -/
theorem get (frame : Frame touched heap target) {other : Nat}
    (apart : ∀ ptr ∈ touched, other + 12 ≤ ptr ∨ ptr + 12 ≤ other) :
    target.get other = heap.get other := by
  funext field
  rw [Heap.get, Heap.get, frame.heapPtr]
  apply Memory.word_congr
  intro place low high
  apply frame.memory
  intro ptr member
  have away := apart ptr member
  cases field <;> simp only [HeapField.offset, HeapField.width] at low high <;> omega

end Frame

/-! ## Chains of structures -/

/-- What the structure of a block should say. -/
def header (used : Bool) (next prev : Nat) : HeapField → Nat
  | .magic => heapMagic
  | .used => used.toNat
  | .next => next
  | .prev => prev

/-- The structures from `start` on describe the segments. -/
def Tiles (read : Nat → HeapField → Nat) : Nat → Nat → List Segment → Prop
  | _, _, [] => True
  | before, start, segment :: rest =>
      read start = header segment.used (start + segment.size) before ∧
        Tiles read start (start + segment.size) rest

theorem tiles_append {read : Nat → HeapField → Nat} {before start : Nat}
    {first second : List Segment} :
    Tiles read before start (first ++ second) ↔ Tiles read before start first ∧
      Tiles read (lastStart before start first) (start + total first) second := by
  induction first generalizing before start with
  | nil => exact (and_iff_right trivial).symm
  | cons segment rest ih =>
      rw [List.cons_append, Tiles, Tiles, ih, lastStart, total, ← Nat.add_assoc, and_assoc]

theorem Tiles.congr {read other : Nat → HeapField → Nat} {before start : Nat}
    {segments : List Segment} (tiles : Tiles read before start segments)
    (same : ∀ position segment, (position, segment) ∈ spans start segments →
      other position = read position) : Tiles other before start segments := by
  induction segments generalizing before start with
  | nil => trivial
  | cons segment rest ih =>
      constructor
      · rw [same start segment List.mem_cons_self]
        exact tiles.1
      · apply ih tiles.2
        intro position later member
        exact same position later (List.mem_cons_of_mem _ member)

/-- The first block of a chain gets another neighbour in front of it. -/
theorem Tiles.relink {read other : Nat → HeapField → Nat} {before front start : Nat}
    {segments : List Segment} (tiles : Tiles read before start segments)
    (positive : ∀ segment ∈ segments, 0 < segment.size)
    (kept : ∀ field, field ≠ .prev → other start field = read start field)
    (linked : segments ≠ [] → other start .prev = front)
    (same : ∀ position, start < position → ∀ segment, (position, segment) ∈ spans start segments →
      other position = read position) : Tiles other front start segments := by
  cases segments with
  | nil => trivial
  | cons segment rest =>
      constructor
      · funext field
        by_cases link : field = .prev
        · rw [link, linked (List.cons_ne_nil segment rest)]
          rfl
        · rw [kept field link, tiles.1]
          cases field <;> first | rfl | contradiction
      · apply tiles.2.congr
        intro position later member
        have behind := (mem_spans_bounds member).1
        have size := positive segment List.mem_cons_self
        exact same position (by omega) later (List.mem_cons_of_mem _ member)

/-! ## Layouts -/

theorem combine_eq (heap : Heap) {mem nmem far : Nat} (apart : mem + 12 ≤ nmem)
    (behind : heap.get nmem .next = far) :
    combine heap mem nmem =
      { (heap.set mem .next far).set far .prev mem with
        lfree := if heap.lfree = nmem then mem else heap.lfree } := by
  have read : (heap.set mem .next far).get nmem .next = far := by
    rw [Heap.get_set_of_apart _ _ _ (Or.inr apart), behind]
  unfold combine
  by_cases low : heap.lfree = nmem
  · rw [if_pos low, if_pos low]
    change Heap.set (Heap.set _ mem .next (heap.get nmem .next))
      ((heap.set mem .next (heap.get nmem .next)).get nmem .next) .prev mem = _
    rw [behind, read]
    rfl
  · rw [if_neg low, if_neg low]
    change Heap.set (Heap.set _ mem .next (heap.get nmem .next))
      ((heap.set mem .next (heap.get nmem .next)).get nmem .next) .prev mem = _
    rw [behind, read]
    rfl

/-- The memory holds a tiling of the heap. -/
structure Layout (heap : Heap) (segments : List Segment) : Prop where
  tiles : Tiles heap.get 0 0 segments
  fills : total segments = heap.heapEnd
  guarded : heap.get heap.heapEnd .used = 1
  room : ∀ segment ∈ segments, 16 ≤ segment.size ∧ segment.size % 4 = 0
  aligned : heap.heapPtr % 4 = 0
  enough : 12 ≤ heap.memSizeAligned
  bounded : heap.heapPtr + heap.heapEnd + 12 < 4294967296

namespace Layout

variable {heap target : Heap} {segments front middle back : List Segment} {segment : Segment}
variable {touched : List Nat}

/-- The structure of a block. -/
theorem header_eq (layout : Layout heap (front ++ segment :: back)) :
    heap.get (total front) =
      header segment.used (total front + segment.size) (lastStart 0 0 front) := by
  have rest := (tiles_append.mp layout.tiles).2.1
  rw [Nat.zero_add] at rest
  exact rest

theorem used_eq (layout : Layout heap (front ++ segment :: back)) :
    heap.get (total front) .used = segment.used.toNat := by
  rw [layout.header_eq]
  rfl

theorem next_eq (layout : Layout heap (front ++ segment :: back)) :
    heap.get (total front) .next = total front + segment.size := by
  rw [layout.header_eq]
  rfl

theorem prev_eq (layout : Layout heap (front ++ segment :: back)) :
    heap.get (total front) .prev = lastStart 0 0 front := by
  rw [layout.header_eq]
  rfl

/-- The same layout, seen from the next block. -/
theorem shift (layout : Layout heap (front ++ segment :: back)) :
    Layout heap ((front ++ [segment]) ++ back) := by
  rw [List.append_assoc]
  exact layout

/-- The static variables are not part of the layout. -/
theorem statics (layout : Layout heap segments) (lfree usedMem maxMem : Nat) :
    Layout { heap with lfree := lfree, usedMem := usedMem, maxMem := maxMem } segments :=
  ⟨layout.tiles, layout.fills, layout.guarded, layout.room, layout.aligned, layout.enough,
    layout.bounded⟩

theorem total_mod (room : ∀ segment ∈ segments, 16 ≤ segment.size ∧ segment.size % 4 = 0) :
    total segments % 4 = 0 := by
  induction segments with
  | nil => rfl
  | cons segment rest ih =>
      rw [List.forall_mem_cons] at room
      have whole := ih room.2
      rw [total]
      omega

/-- Neighbouring segments are replaced by others of the same total size.  The structures
of the new ones are in place, and the block behind them points back to the last. -/
theorem splice {replacement : List Segment} (layout : Layout heap (front ++ (middle ++ back)))
    (frame : Frame touched heap target)
    (inside : ∀ ptr ∈ touched, total front ≤ ptr ∧ ptr ≤ total front + total middle)
    (same : total replacement = total middle)
    (room : ∀ segment ∈ replacement, 16 ≤ segment.size ∧ segment.size % 4 = 0)
    (tiles : Tiles target.get (lastStart 0 0 front) (total front) replacement)
    (kept : ∀ field, field ≠ .prev → target.get (total front + total middle) field =
      heap.get (total front + total middle) field)
    (linked : back ≠ [] → target.get (total front + total middle) .prev =
      lastStart (lastStart 0 0 front) (total front) replacement) :
    Layout target (front ++ (replacement ++ back)) := by
  obtain ⟨frontTiles, restTiles⟩ := tiles_append.mp layout.tiles
  obtain ⟨-, backTiles⟩ := tiles_append.mp restTiles
  rw [Nat.zero_add] at restTiles backTiles
  have rooms := layout.room
  simp only [List.forall_mem_append] at rooms
  have fills := layout.fills
  rw [total_append, total_append] at fills
  refine ⟨?_, ?_, ?_, ?_, ?_, ?_, ?_⟩
  · rw [tiles_append, tiles_append, Nat.zero_add, same]
    refine ⟨?_, tiles, ?_⟩
    · apply frontTiles.congr
      intro position segment member
      have bounds := mem_spans_bounds member
      have size := rooms.1 segment (mem_of_mem_spans member)
      apply frame.get
      intro ptr changed
      have low := (inside ptr changed).1
      omega
    · apply backTiles.relink
      · intro segment member
        have size := rooms.2.2 segment member
        omega
      · exact kept
      · exact linked
      · intro position behind segment member
        have first : total front + total middle + 12 ≤ position := by
          cases back with
          | nil => contradiction
          | cons head rest =>
              have size := rooms.2.2 head List.mem_cons_self
              rw [spans, List.mem_cons] at member
              rcases member with equal | later
              · cases equal
                omega
              · have bounds := mem_spans_bounds later
                omega
        apply frame.get
        intro ptr changed
        have high := (inside ptr changed).2
        omega
  · rw [frame.heapEnd, ← layout.fills]
    simp only [total_append, same]
  · rw [frame.heapEnd, ← layout.guarded]
    by_cases empty : back = []
    · rw [empty, total, Nat.add_zero] at fills
      rw [← fills]
      exact kept .used (by decide)
    · have behind : total front + total middle + 12 ≤ heap.heapEnd := by
        obtain ⟨head, rest, rfl⟩ := List.exists_cons_of_ne_nil empty
        have size := rooms.2.2 head List.mem_cons_self
        rw [total] at fills
        omega
      rw [frame.get]
      intro ptr changed
      have high := (inside ptr changed).2
      omega
  · simp only [List.forall_mem_append]
    exact ⟨rooms.1, room, rooms.2.2⟩
  · rw [frame.heapPtr]
    exact layout.aligned
  · rw [frame.memSizeAligned]
    exact layout.enough
  · rw [frame.heapPtr, frame.heapEnd]
    exact layout.bounded

/-- A block and the one behind it become one. -/
theorem combine_pair {first second : Segment}
    (layout : Layout heap (front ++ ([first, second] ++ back))) :
    Layout (combine heap (total front) (total front + first.size))
        (front ++ ([⟨first.size + second.size, first.used⟩] ++ back)) ∧
      Frame [total front, total front + (first.size + second.size)] heap
        (combine heap (total front) (total front + first.size)) := by
  have rooms := layout.room
  simp only [List.forall_mem_append, List.forall_mem_cons] at rooms
  obtain ⟨-, ⟨firstRoom, secondRoom, -⟩, -⟩ := rooms
  have fills := layout.fills
  simp only [total_append, total] at fills
  have bounded := layout.bounded
  have behind : heap.get (total front + first.size) .next =
      total front + (first.size + second.size) := by
    have next := (shift layout).next_eq
    rw [total_snoc, Nat.add_assoc] at next
    exact next
  have own : heap.get (total front) =
      header first.used (total front + first.size) (lastStart 0 0 front) := layout.header_eq
  rw [combine_eq heap (by omega) behind]
  have frame : Frame [total front, total front + (first.size + second.size)] heap
      ((heap.set (total front) .next (total front + (first.size + second.size))).set
        (total front + (first.size + second.size)) .prev (total front)) := by
    apply ((Frame.refl _ heap).set _ _ _).set
    · exact List.mem_cons_of_mem _ List.mem_cons_self
    · exact List.mem_cons_self
  refine ⟨?_, frame.statics _ _ _⟩
  apply layout.splice (frame.statics _ _ _)
  · intro ptr member
    simp only [List.mem_cons, List.not_mem_nil, or_false] at member
    simp only [total]
    omega
  · simp only [total]
    omega
  · simp only [List.forall_mem_singleton]
    omega
  · refine ⟨?_, trivial⟩
    change ((heap.set _ _ _).set _ _ _).get (total front) = _
    rw [Heap.get_set_of_apart _ _ _ (by omega)]
    funext field
    by_cases link : field = .next
    · rw [link, Heap.get_set_self _ _ (by simp only [HeapField.limit]; omega)]
      rfl
    · rw [Heap.get_set_of_ne _ _ _ link, own]
      cases field <;> first | rfl | contradiction
  · intro field other
    change ((heap.set _ _ _).set _ _ _).get _ field = _
    simp only [total, Nat.add_zero]
    rw [Heap.get_set_of_ne _ _ _ other, Heap.get_set_of_apart _ _ _ (by omega)]
  · intro _
    change ((heap.set _ _ _).set _ _ _).get _ .prev = _
    simp only [total, Nat.add_zero]
    rw [Heap.get_set_self _ _ (by simp only [HeapField.limit]; omega)]
    rfl

/-- A new structure inside a block cuts it in two, as soon as the block behind points
back to it. -/
theorem link_back {part : Nat} {used : Bool}
    (layout : Layout heap (front ++ ([segment] ++ back)))
    (room : 16 ≤ part ∧ part % 4 = 0) (rest : part + 16 ≤ segment.size)
    (frame : Frame [total front, total front + part] heap target)
    (own : target.get (total front) =
      header used (total front + part) (lastStart 0 0 front))
    (inner : target.get (total front + part) =
      header false (total front + segment.size) (total front)) :
    Layout (linkBack target (total front + part))
        (front ++ ([⟨part, used⟩, ⟨segment.size - part, false⟩] ++ back)) ∧
      Frame [total front, total front + part, total front + segment.size] heap
        (linkBack target (total front + part)) := by
  have rooms := layout.room
  simp only [List.forall_mem_append, List.forall_mem_cons] at rooms
  obtain ⟨-, ⟨segmentRoom, -⟩, backRoom⟩ := rooms
  have fills := layout.fills
  simp only [total_append, total] at fills
  have bounded := layout.bounded
  have after : target.get (total front + segment.size) = heap.get (total front + segment.size) := by
    apply frame.get
    intro ptr member
    simp only [List.mem_cons, List.not_mem_nil, or_false] at member
    omega
  have next : target.get (total front + part) .next = total front + segment.size := by
    rw [inner]
    rfl
  have wide : Frame [total front, total front + part, total front + segment.size] heap
      (linkBack target (total front + part)) := by
    have more : Frame [total front, total front + part, total front + segment.size] heap
        target := frame.mono (by simp)
    unfold linkBack
    split
    · rw [next]
      apply more.set
      simp
    · exact more
  have inside (ptr : Nat)
      (member : ptr ∈ [total front, total front + part, total front + segment.size]) :
      total front ≤ ptr ∧ ptr ≤ total front + segment.size := by
    simp only [List.mem_cons, List.not_mem_nil, or_false] at member
    omega
  have kept (ptr : Nat) (low : ptr + 12 ≤ total front + segment.size) :
      (linkBack target (total front + part)).get ptr = target.get ptr := by
    unfold linkBack
    split
    · rw [next]
      exact Heap.get_set_of_apart _ _ _ (Or.inl low)
    · rfl
  refine ⟨?_, wide⟩
  apply layout.splice wide
  · simp only [total, Nat.add_zero]
    exact inside
  · simp only [total]
    omega
  · simp only [List.forall_mem_cons, List.not_mem_nil, false_implies, implies_true, and_true]
    omega
  · refine ⟨?_, ?_, trivial⟩
    · rw [kept _ (by omega), own]
    · simp only
      rw [kept _ (by omega), inner, Nat.add_assoc, Nat.add_sub_of_le (by omega)]
  · intro field other
    simp only [total, Nat.add_zero]
    rw [← after]
    unfold linkBack
    split
    · rw [next]
      exact Heap.get_set_of_ne _ _ _ other
    · rfl
  · intro nonempty
    have far : total front + segment.size ≠ target.heapEnd := by
      obtain ⟨head, tail, rfl⟩ := List.exists_cons_of_ne_nil nonempty
      have size := backRoom head List.mem_cons_self
      rw [frame.heapEnd, ← fills, total]
      omega
    simp only [total, Nat.add_zero]
    unfold linkBack
    rw [next, if_pos far, Heap.get_set_self _ _ (by simp only [HeapField.limit]; omega)]
    rfl

/-- The structures after `mem2` has been created. -/
theorem create_block {part : Nat} (layout : Layout heap (front ++ ([segment] ++ back)))
    (room : 16 ≤ part) (rest : part + 16 ≤ segment.size) :
    Frame [total front, total front + part] heap
        (createBlock heap (total front) (total front + part)) ∧
      (createBlock heap (total front) (total front + part)).get (total front) =
        header segment.used (total front + part) (lastStart 0 0 front) ∧
      (createBlock heap (total front) (total front + part)).get (total front + part) =
        header false (total front + segment.size) (total front) := by
  have fills := layout.fills
  simp only [total_append, total] at fills
  have bounded := layout.bounded
  have own : heap.get (total front) =
      header segment.used (total front + segment.size) (lastStart 0 0 front) := layout.header_eq
  have first : total front ∈ [total front, total front + part] := List.mem_cons_self
  have second : total front + part ∈ [total front, total front + part] :=
    List.mem_cons_of_mem _ List.mem_cons_self
  unfold createBlock
  simp only
  refine ⟨?_, ?_, ?_⟩
  · exact (((((Frame.refl _ heap).set _ _ second).set _ _ second).set _ _ second).set _ _
      second).set _ _ first
  · funext field
    by_cases link : field = .next
    · rw [link, Heap.get_set_self _ _ (by simp only [HeapField.limit]; omega)]
      rfl
    · rw [Heap.get_set_of_ne _ _ _ link]
      simp only [Heap.get_set_of_apart _ _ _ (Or.inl (by omega : total front + 12 ≤
        total front + part)), own]
      cases field <;> first | rfl | contradiction
  · have apart : total front + 12 ≤ total front + part := by omega
    rw [Heap.get_set_of_apart _ _ _ (Or.inr apart)]
    simp only [Heap.get_set_of_apart _ _ _ (Or.inl apart), own]
    funext field
    cases field with
    | magic =>
        rw [Heap.get_set_of_ne _ _ _ (by decide), Heap.get_set_of_ne _ _ _ (by decide),
          Heap.get_set_of_ne _ _ _ (by decide), Heap.get_set_self _ _ (by decide)]
        rfl
    | used =>
        rw [Heap.get_set_of_ne _ _ _ (by decide), Heap.get_set_of_ne _ _ _ (by decide),
          Heap.get_set_self _ _ (by decide)]
        rfl
    | next =>
        rw [Heap.get_set_of_ne _ _ _ (by decide), Heap.get_set_self]
        · rfl
        · simp only [HeapField.limit, header]
          omega
    | prev =>
        rw [Heap.get_set_self _ _ (by simp only [HeapField.limit]; omega)]
        rfl

/-- A block changes hands. -/
theorem mark {used : Bool} (layout : Layout heap (front ++ ([segment] ++ back)))
    (frame : Frame [total front] heap target)
    (own : target.get (total front) =
      header used (total front + segment.size) (lastStart 0 0 front)) :
    Layout target (front ++ ([⟨segment.size, used⟩] ++ back)) := by
  have rooms := layout.room
  simp only [List.forall_mem_append, List.forall_mem_singleton] at rooms
  have behind : target.get (total front + segment.size) =
      heap.get (total front + segment.size) := by
    apply frame.get
    intro ptr member
    rw [List.mem_singleton] at member
    omega
  apply layout.splice frame
  · intro ptr member
    rw [List.mem_singleton] at member
    omega
  · rfl
  · rw [List.forall_mem_singleton]
    exact rooms.2.1
  · exact ⟨own, trivial⟩
  · intro field _
    simp only [total, Nat.add_zero]
    rw [behind]
  · intro nonempty
    obtain ⟨head, tail, rfl⟩ := List.exists_cons_of_ne_nil nonempty
    simp only [total, Nat.add_zero]
    have before := (shift layout).prev_eq
    rw [total_snoc, lastStart_append, Nat.zero_add] at before
    rw [behind, before]
    rfl

end Layout

end BerPiNbiot.Kernel
