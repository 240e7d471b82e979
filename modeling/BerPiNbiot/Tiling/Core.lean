import Mathlib.Data.List.Basic
import Mathlib.Data.List.Chain

/-!
# Tilings of an interval

A region of memory is cut into consecutive segments, each of them in use or free.
A tiling is the list of its segments from low to high addresses; where a segment
lies follows from the sizes in front of it.

An allocator replaces a few neighbouring segments by others of the same total
size.  All other segments stay where they are.
-/

namespace BerPiNbiot.Tiling

/-- A piece of the region. -/
structure Segment where
  size : Nat
  used : Bool
  deriving DecidableEq, Repr

/-- The length of the tiled region. -/
def total : List Segment → Nat
  | [] => 0
  | segment :: rest => segment.size + total rest

/-- The part of the region in use. -/
def usedTotal : List Segment → Nat
  | [] => 0
  | segment :: rest => (if segment.used then segment.size else 0) + usedTotal rest

/-- The segments with their first addresses. -/
def spans (start : Nat) : List Segment → List (Nat × Segment)
  | [] => []
  | segment :: rest => (start, segment) :: spans (start + segment.size) rest

/-- The first address of the last segment, if there is one. -/
def lastStart (before start : Nat) : List Segment → Nat
  | [] => before
  | segment :: rest => lastStart start (start + segment.size) rest

/-- Free segments never touch. -/
def Merged (segments : List Segment) : Prop :=
  segments.IsChain fun first second => first.used = true ∨ second.used = true

@[simp]
theorem total_append (first second : List Segment) :
    total (first ++ second) = total first + total second := by
  induction first with
  | nil => rw [List.nil_append, total, Nat.zero_add]
  | cons segment rest ih => rw [List.cons_append, total, total, ih, Nat.add_assoc]

theorem total_snoc (front : List Segment) (segment : Segment) :
    total (front ++ [segment]) = total front + segment.size := by
  rw [total_append, total, total, Nat.add_zero]

@[simp]
theorem usedTotal_append (first second : List Segment) :
    usedTotal (first ++ second) = usedTotal first + usedTotal second := by
  induction first with
  | nil => rw [List.nil_append, usedTotal, Nat.zero_add]
  | cons segment rest ih => rw [List.cons_append, usedTotal, usedTotal, ih, Nat.add_assoc]

theorem spans_append (start : Nat) (first second : List Segment) :
    spans start (first ++ second) = spans start first ++ spans (start + total first) second := by
  induction first generalizing start with
  | nil => rfl
  | cons segment rest ih =>
      rw [List.cons_append, spans, spans, ih, List.cons_append, total, Nat.add_assoc]

theorem lastStart_append (before start : Nat) (first second : List Segment) :
    lastStart before start (first ++ second) =
      lastStart (lastStart before start first) (start + total first) second := by
  induction first generalizing before start with
  | nil => rfl
  | cons segment rest ih => rw [List.cons_append, lastStart, lastStart, ih, total, Nat.add_assoc]

/-- A segment lies inside the region. -/
theorem mem_spans_bounds {start position : Nat} {segment : Segment} {segments : List Segment}
    (member : (position, segment) ∈ spans start segments) :
    start ≤ position ∧ position + segment.size ≤ start + total segments := by
  induction segments generalizing start with
  | nil => contradiction
  | cons first rest ih =>
      rw [spans, List.mem_cons] at member
      rw [total]
      rcases member with equal | later
      · cases equal
        omega
      · have bounds := ih later
        omega

theorem mem_of_mem_spans {start position : Nat} {segment : Segment} {segments : List Segment}
    (member : (position, segment) ∈ spans start segments) : segment ∈ segments := by
  induction segments generalizing start with
  | nil => contradiction
  | cons first rest ih =>
      rw [spans, List.mem_cons] at member
      rcases member with equal | later
      · cases equal
        exact List.mem_cons_self
      · exact List.mem_cons_of_mem first (ih later)

/-- The segments in front of a segment say where it lies. -/
theorem mem_spans_iff {start position : Nat} {segment : Segment} {segments : List Segment} :
    (position, segment) ∈ spans start segments ↔ ∃ front back,
      segments = front ++ segment :: back ∧ position = start + total front := by
  constructor
  · intro member
    induction segments generalizing start with
    | nil => contradiction
    | cons first rest ih =>
        rw [spans, List.mem_cons] at member
        rcases member with equal | later
        · cases equal
          exact ⟨[], rest, rfl, rfl⟩
        · obtain ⟨front, back, rfl, place⟩ := ih later
          exact ⟨first :: front, back, rfl, by rw [place, total, Nat.add_assoc]⟩
  · rintro ⟨front, back, rfl, rfl⟩
    rw [spans_append]
    exact List.mem_append_right _ List.mem_cons_self

/-- Two segments are the same or one lies behind the other. -/
theorem spans_disjoint {start position other : Nat} {segment neighbour : Segment}
    {segments : List Segment} (member : (position, segment) ∈ spans start segments)
    (second : (other, neighbour) ∈ spans start segments) :
    (position = other ∧ segment = neighbour) ∨ position + segment.size ≤ other ∨
      other + neighbour.size ≤ position := by
  induction segments generalizing start with
  | nil => contradiction
  | cons first rest ih =>
      rw [spans, List.mem_cons] at member second
      rcases member with equal | later <;> rcases second with same | behind
      · cases equal
        cases same
        exact Or.inl ⟨rfl, rfl⟩
      · cases equal
        exact Or.inr (Or.inl (mem_spans_bounds behind).1)
      · cases same
        exact Or.inr (Or.inr (mem_spans_bounds later).1)
      · exact ih later behind

/-- Segments that are not empty begin at different places. -/
theorem eq_of_mem_spans {start position : Nat} {segment neighbour : Segment}
    {segments : List Segment} (sized : ∀ segment ∈ segments, 0 < segment.size)
    (member : (position, segment) ∈ spans start segments)
    (second : (position, neighbour) ∈ spans start segments) : segment = neighbour := by
  rcases spans_disjoint member second with ⟨-, same⟩ | behind | before
  · exact same
  · exact absurd behind (Nat.not_le_of_gt (Nat.lt_add_of_pos_right
      (sized segment (mem_of_mem_spans member))))
  · exact absurd before (Nat.not_le_of_gt (Nat.lt_add_of_pos_right
      (sized neighbour (mem_of_mem_spans second))))

/-- The first segment with a property is the lowest one. -/
theorem find_spans_le {start position other : Nat} {segment neighbour : Segment}
    {segments : List Segment} {wanted : Nat × Segment → Bool}
    (found : (spans start segments).find? wanted = some (position, segment))
    (member : (other, neighbour) ∈ spans start segments)
    (suitable : wanted (other, neighbour) = true) : position ≤ other := by
  induction segments generalizing start with
  | nil => contradiction
  | cons first rest ih =>
      rw [spans, List.find?_cons] at found
      cases here : wanted (start, first) with
      | true =>
          rw [here] at found
          cases found
          exact (mem_spans_bounds member).1
      | false =>
          rw [here] at found
          rw [spans, List.mem_cons] at member
          rcases member with equal | later
          · cases equal
            rw [here] at suitable
            contradiction
          · exact ih found later

/-- Only who uses the segments counts. -/
theorem Merged.of_flags {segments others : List Segment} (merged : Merged segments)
    (same : segments.map Segment.used = others.map Segment.used) : Merged others := by
  have flags := (List.isChain_map (R := fun first second => first = true ∨ second = true)
    Segment.used).mpr merged
  rw [same] at flags
  exact (List.isChain_map Segment.used).mp flags

theorem merged_split {front back : List Segment} {segment : Segment} :
    Merged (front ++ segment :: back) ↔ Merged (front ++ [segment]) ∧ Merged (segment :: back) :=
  List.isChain_split

/-- A used segment separates what is in front of it from what is behind. -/
theorem merged_of_used {front back : List Segment} {segment : Segment}
    (used : segment.used = true) (first : Merged front) (second : Merged back) :
    Merged (front ++ segment :: back) := by
  rw [merged_split]
  constructor
  · rw [Merged, List.isChain_append]
    refine ⟨first, List.isChain_singleton segment, ?_⟩
    intro last _ head member
    rw [List.head?_cons, Option.mem_some_iff] at member
    rw [← member]
    exact Or.inr used
  · cases back with
    | nil => exact List.isChain_singleton segment
    | cons head rest => exact List.isChain_cons_cons.mpr ⟨Or.inl used, second⟩

/-- A tiling without a used segment is a single segment. -/
theorem Merged.eq_singleton {segments : List Segment} (merged : Merged segments)
    (free : ∀ segment ∈ segments, segment.used = false) (nonempty : segments ≠ []) :
    segments = [⟨total segments, false⟩] := by
  cases segments with
  | nil => contradiction
  | cons first rest =>
      cases rest with
      | nil =>
          have unused := free first List.mem_cons_self
          rw [total, total, Nat.add_zero, ← unused]
      | cons second rest =>
          have touching := (List.isChain_cons_cons.mp merged).1
          rw [free first List.mem_cons_self,
            free second (List.mem_cons_of_mem _ List.mem_cons_self)] at touching
          simp at touching

end BerPiNbiot.Tiling
