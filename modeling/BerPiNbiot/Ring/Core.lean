import Mathlib.Data.List.Basic
import Mathlib.Data.List.Induction
import Mathlib.Logic.Function.Basic

/-!
# Rings

A ring is an array in which the places that are in use follow each other, past the end to
the beginning.  What it contains is read off the array, the first place in use and their
number.
-/

namespace BerPiNbiot.Ring

universe u

variable {α : Type u} {pool : Nat → α} {size first count : Nat}

/-- The places in use, in order. -/
def contents (pool : Nat → α) (size first count : Nat) : List α :=
  (List.range count).map fun index => pool ((first + index) % size)

@[simp]
theorem length_contents : (contents pool size first count).length = count := by
  rw [contents, List.length_map, List.length_range]

@[simp]
theorem contents_zero : contents pool size first 0 = [] :=
  rfl

/-- A whole turn changes nothing. -/
theorem contents_mod :
    contents pool size (first % size) count = contents pool size first count := by
  unfold contents
  simp only [Nat.mod_add_mod]

theorem take_contents {taken : Nat} (bound : taken ≤ count) :
    (contents pool size first count).take taken = contents pool size first taken := by
  unfold contents
  rw [← List.map_take, List.take_range, Nat.min_eq_left bound]

theorem contents_add (more : Nat) : contents pool size first (count + more) =
    contents pool size first count ++ contents pool size (first + count) more := by
  unfold contents
  rw [List.range_add, List.map_append, List.map_map]
  simp only [Function.comp_def, Nat.add_assoc]

/-- The first place leaves the ring. -/
theorem contents_succ : contents pool size first (count + 1) =
    pool (first % size) :: contents pool size (first + 1) count := by
  rw [Nat.add_comm, contents_add]
  rfl

/-- Places that are not in use do not show. -/
theorem contents_congr {other : Nat → α}
    (same : ∀ index < count, pool ((first + index) % size) = other ((first + index) % size)) :
    contents pool size first count = contents other size first count := by
  apply List.map_congr_left
  intro index member
  exact same index (List.mem_range.mp member)

/-- Two places of a ring are different as long as they are less than a turn apart. -/
theorem place_ne {one two : Nat} (before : one < two) (less : two < one + size) :
    (first + one) % size ≠ (first + two) % size := by
  intro same
  have divides : size ∣ first + two - (first + one) :=
    Nat.dvd_of_mod_eq_zero (Nat.sub_mod_eq_zero_of_mod_eq same.symm)
  have zero := Nat.eq_zero_of_dvd_of_lt divides (by omega)
  omega

/-- A value is stored behind the last one. -/
theorem contents_concat (room : count < size) (value : α) :
    contents (Function.update pool ((first + count) % size) value) size first (count + 1) =
      contents pool size first count ++ [value] := by
  rw [contents_add]
  congr 1
  · apply contents_congr
    intro index bound
    rw [Function.update_of_ne (place_ne bound (by omega))]
  · simp [contents, Function.update_self]

/-! ## Rings that forget -/

/-- The last values of a list, at most so many. -/
def latest (limit : Nat) (values : List α) : List α :=
  values.drop (values.length - limit)

theorem latest_of_le {limit : Nat} {values : List α} (short : values.length ≤ limit) :
    latest limit values = values := by
  rw [latest, Nat.sub_eq_zero_of_le short, List.drop_zero]

/-- Values that have been forgotten make no difference later on. -/
theorem latest_append {limit : Nat} {values : List α} (more : List α) :
    latest limit (latest limit values ++ more) = latest limit (values ++ more) := by
  unfold latest
  rw [List.length_append, List.length_append, List.length_drop, ← List.drop_append_of_le_length
    (by omega), List.drop_drop]
  congr 1
  omega

/-- Values are stored one after the other. -/
def write (pool : Nat → α) (size start : Nat) : List α → Nat → α
  | [] => pool
  | value :: rest => write (Function.update pool (start % size) value) size (start + 1) rest

theorem write_congr {start other : Nat} (same : start % size = other % size) (values : List α) :
    write pool size start values = write pool size other values := by
  induction values generalizing pool start other with
  | nil => rfl
  | cons value rest ih =>
      unfold write
      rw [same]
      apply ih
      rw [Nat.add_mod, same, ← Nat.add_mod]

/-- A value is stored behind the last one in a ring without room, over the first one. -/
theorem contents_overwrite (positive : 0 < size) (value : α) :
    contents (Function.update pool ((first + size) % size) value) size (first + 1) size =
      latest size (contents pool size first size ++ [value]) := by
  have split : size = size - 1 + 1 := by omega
  have concat := @contents_concat _ pool size (first + 1) (size - 1) (by omega) value
  rw [← split, show first + 1 + (size - 1) = first + size by omega] at concat
  rw [concat, latest, List.length_append, length_contents, List.length_singleton,
    Nat.add_sub_cancel_left]
  conv_rhs => rw [show contents pool size first size = contents pool size first (size - 1 + 1) by
    rw [← split]]
  rw [contents_succ]
  rfl

/-- Values that are stored behind the last one take the places of the first ones when there is
no room left. -/
theorem contents_write (positive : 0 < size) (bounded : count ≤ size) (values : List α) :
    contents (write pool size (first + count) values) size
        (first + (count + values.length - size)) (min size (count + values.length)) =
      latest size (contents pool size first count ++ values) := by
  induction values generalizing pool first count with
  | nil =>
      rw [List.append_nil, latest_of_le (by rw [length_contents]; exact bounded)]
      rw [List.length_nil, Nat.add_zero, Nat.sub_eq_zero_of_le bounded, Nat.min_eq_right bounded]
      rfl
  | cons value rest ih =>
      unfold write
      rw [List.length_cons, ← List.singleton_append, ← List.append_assoc]
      rcases Nat.lt_or_eq_of_le bounded with room | full
      · rw [← contents_concat room, ← ih (Nat.succ_le_of_lt room), Nat.add_assoc first]
        congr 1 <;> omega
      · subst full
        rw [← latest_append, ← contents_overwrite positive, ← ih (Nat.le_refl _)]
        rw [Nat.add_right_comm first 1, Nat.add_assoc first 1]
        congr 1 <;> omega

/-! ## Streams through a ring that forgets -/

/-- What a ring keeps of a stream, and what has been taken out of it. -/
structure Window (α : Type u) where
  kept : List α
  given : List α

/-- Values come in, or some are asked for. -/
inductive Traffic (α : Type u) where
  | put (values : List α)
  | get (count : Nat)

/-- The values that come in. -/
def Traffic.values : Traffic α → List α
  | .put values => values
  | .get _ => []

namespace Window

/-- Nothing kept and nothing given out. -/
def empty : Window α :=
  ⟨[], []⟩

/-- The oldest values are forgotten first. -/
def step (limit : Nat) (window : Window α) : Traffic α → Window α
  | .put values => { window with kept := latest limit (window.kept ++ values) }
  | .get count =>
      { kept := window.kept.drop count, given := window.given ++ window.kept.take count }

/-- What is given out is a part of what comes in, in its order. -/
theorem run_sublist (limit : Nat) (run : List (Traffic α)) :
    ((run.foldl (step limit) empty).given ++ (run.foldl (step limit) empty).kept).Sublist
      (run.flatMap Traffic.values) := by
  induction run using List.reverseRecOn with
  | nil => exact List.Sublist.refl _
  | append_singleton run last ih =>
      rw [List.foldl_append, List.flatMap_append, List.flatMap_singleton]
      cases last with
      | put values =>
          refine List.Sublist.trans ?_ (ih.append (List.Sublist.refl values))
          rw [List.append_assoc]
          exact (List.Sublist.refl _).append (List.drop_sublist _ _)
      | get count =>
          change ((_ ++ List.take count _) ++ List.drop count _).Sublist (_ ++ [])
          rw [List.append_assoc, List.take_append_drop, List.append_nil]
          exact ih

/-- Nothing is lost as long as there is room for what comes in. -/
theorem run_eq {limit : Nat} {run : List (Traffic α)}
    (fits : ∀ first values, first ++ [.put values] <+: run →
      (first.foldl (step limit) empty).kept.length + values.length ≤ limit) :
    (run.foldl (step limit) empty).given ++ (run.foldl (step limit) empty).kept =
      run.flatMap Traffic.values := by
  induction run using List.reverseRecOn with
  | nil => rfl
  | append_singleton run last ih =>
      have before := ih fun first values begins =>
        fits first values (begins.trans (List.prefix_append _ _))
      rw [List.foldl_append, List.flatMap_append, List.flatMap_singleton, ← before]
      cases last with
      | put values =>
          change _ ++ latest limit _ = _
          rw [latest_of_le, List.append_assoc]
          · rfl
          · rw [List.length_append]
            exact fits run values (List.prefix_refl _)
      | get count =>
          change (_ ++ List.take count _) ++ List.drop count _ = _ ++ []
          rw [List.append_assoc, List.take_append_drop, List.append_nil]

end Window

end BerPiNbiot.Ring
