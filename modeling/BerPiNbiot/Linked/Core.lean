import Mathlib.Data.List.Nodup
import Mathlib.Logic.Function.Basic

/-!
# Linked cells

Lists of cells each of which names the next one.  The links are a function of the cell, so
that several lists can share it; a change of one cell leaves the lists without that cell alone.
-/

namespace BerPiNbiot.Linked

universe u

variable {ι : Type u} {next : ι → Option ι} {start : Option ι} {cell : ι} {cells : List ι}

/-- The cells from a starting point on are these, and the last of them names no other. -/
def Links (next : ι → Option ι) : Option ι → List ι → Prop
  | start, [] => start = none
  | start, cell :: rest => start = some cell ∧ Links next (next cell) rest

/-- Some cells from a starting point on. -/
def walk (next : ι → Option ι) : Nat → Option ι → List ι
  | 0, _ => []
  | _ + 1, none => []
  | count + 1, some cell => cell :: walk next count (next cell)

theorem Links.walk (links : Links next start cells) :
    walk next cells.length start = cells := by
  induction cells generalizing start with
  | nil => rfl
  | cons cell rest ih =>
      obtain ⟨rfl, later⟩ := links
      exact congrArg (cell :: ·) (ih later)

/-- Cells outside of a list do not matter to it. -/
theorem Links.congr {other : ι → Option ι} (links : Links next start cells)
    (same : ∀ cell ∈ cells, other cell = next cell) : Links other start cells := by
  induction cells generalizing start with
  | nil => exact links
  | cons cell rest ih =>
      refine ⟨links.1, ?_⟩
      rw [same cell List.mem_cons_self]
      exact ih links.2 fun _ member => same _ (List.mem_cons_of_mem _ member)

variable [DecidableEq ι]

theorem Links.update (links : Links next start cells) (absent : cell ∉ cells)
    (link : Option ι) : Links (Function.update next cell link) start cells :=
  links.congr fun _ member => Function.update_of_ne (ne_of_mem_of_not_mem member absent) _ _

/-- A cell is put in front of a list. -/
theorem Links.push (links : Links next start cells) (absent : cell ∉ cells) :
    Links (Function.update next cell start) (some cell) (cell :: cells) := by
  refine ⟨rfl, ?_⟩
  rw [Function.update_self]
  exact links.update absent start

/-- A cell is put behind a list. -/
theorem Links.concat {last : ι} (links : Links next start (cells ++ [last]))
    (once : (cells ++ [last]).Nodup) (absent : cell ∉ cells ++ [last]) (ends : next cell = none) :
    Links (Function.update next last (some cell)) start (cells ++ [last] ++ [cell]) := by
  induction cells generalizing start with
  | nil =>
      refine ⟨links.1, ?_, ?_⟩
      · rw [Function.update_self]
      · rw [Function.update_of_ne (fun same => absent (List.mem_singleton.mpr same)), ends]
        rfl
  | cons first rest ih =>
      obtain ⟨here, later⟩ := links
      rw [List.cons_append, List.nodup_cons] at once
      refine ⟨here, ?_⟩
      have different : first ≠ last := by
        rintro rfl
        exact once.1 (List.mem_append_right _ (List.mem_singleton_self _))
      rw [Function.update_of_ne different]
      exact ih later once.2 fun member => absent (List.mem_cons_of_mem _ member)

end BerPiNbiot.Linked
