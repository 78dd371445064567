import Mathlib.Data.List.Basic
import Mathlib.Data.List.Range

/-!
# Arrays as functions

An array is a function from its cells. `write` stores a list into an interval of cells and `copy`
moves an interval. A write is seen by a read of that interval (`map_write_self`) and by no read
disjoint from it (`map_write_of_disjoint`).
-/

namespace Store

universe u

variable {α : Type u}

/-- The array `a` after the list `d` was stored from cell `p` on. -/
def write (a : Nat → α) (p : Nat) (d : List α) : Nat → α := fun i =>
  if p ≤ i then d.getD (i - p) (a i) else a i

/-- The array `a` after its `n` cells from `src` on were copied to the cells from `dst` on; the two
intervals may overlap. -/
def copy (a : Nat → α) (dst src n : Nat) : Nat → α := fun i =>
  if dst ≤ i ∧ i < dst + n then a (src + (i - dst)) else a i

/-- A write is seen by a read of the written interval. -/
theorem map_write_self (a : Nat → α) (p : Nat) (d : List α) :
    (List.range' p d.length).map (write a p d) = d := by
  refine List.ext_getElem (by simp) fun i h₁ h₂ => ?_
  simp only [List.getElem_map, List.getElem_range', Nat.one_mul]
  simp [write, List.getElem?_eq_getElem h₂]

/-- A write is not seen outside the written interval. -/
theorem write_of_notMem (a : Nat → α) {p i : Nat} {d : List α}
    (h : i < p ∨ p + d.length ≤ i) : write a p d i = a i := by
  unfold write
  split
  · simp [List.getElem?_eq_none (show d.length ≤ i - p by omega)]
  · rfl

/-- A write into an array is the write into the part of it that starts at `k`. -/
theorem write_add (a : Nat → α) (k p : Nat) (d : List α) (i : Nat) :
    write a (k + p) d (k + i) = write (fun j => a (k + j)) p d i := by
  simp only [write, Nat.add_le_add_iff_left, Nat.add_sub_add_left]

/-- A write is not seen by a read disjoint from it. -/
theorem map_write_of_disjoint (a : Nat → α) {p : Nat} {d : List α} {l : List Nat}
    (h : ∀ i ∈ l, i < p ∨ p + d.length ≤ i) : l.map (write a p d) = l.map a :=
  List.map_congr_left fun i hi => write_of_notMem a (h i hi)

/-- The cells of an array that hold a list, one by one, hold the list. -/
theorem map_range'_eq {m : Nat → α} {d : Nat} {l : List α} {z : α}
    (h : ∀ i < l.length, m (d + i) = l.getD i z) : (List.range' d l.length).map m = l := by
  refine List.ext_getElem (by simp) fun i h₁ h₂ => ?_
  simp only [List.getElem_map, List.getElem_range', Nat.one_mul]
  rw [h i h₂, List.getD_eq_getElem?_getD, List.getElem?_eq_getElem h₂, Option.getD_some]

end Store
