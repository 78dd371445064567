import Mathlib.Data.List.Basic
import Mathlib.Data.List.Range

/-!
# Cyclic arrays

An array of `n` cells read around its end. `slot n s i` is the cell `i` places after cell `s`,
and `positions n s k` lists the `k` cells from `s` on in reading order. A stretch that does not pass
the end is an interval (`positions_eq_range'`) and a stretch splits at any of its cells
(`positions_add`).
-/

namespace Cyclic

variable {n s : Nat}

/-- The cell `i` places after cell `s` in a cyclic array of `n` cells, for `s < n` and `i ≤ n`. -/
def slot (n s i : Nat) : Nat := if s + i < n then s + i else s + i - n

/-- The `k` cells from `s` on, in reading order. -/
def positions (n s k : Nat) : List Nat := (List.range k).map (slot n s)

@[simp] theorem slot_zero (h : s < n) : slot n s 0 = s := by simp [slot, h]

/-- The two forms of a slot, before and past the end of the array. -/
theorem slot_cases (n s i : Nat) :
    s + i < n ∧ slot n s i = s + i ∨ n ≤ s + i ∧ slot n s i = s + i - n := by
  unfold slot; split <;> omega

/-- The cell reached in two strides is the cell reached in one. -/
theorem slot_slot {i j : Nat} (hs : s < n) (hij : i + j ≤ n) :
    slot n (slot n s i) j = slot n s (i + j) := by
  unfold slot; split <;> split <;> split <;> omega

@[simp] theorem positions_length (n s k : Nat) : (positions n s k).length = k := by
  simp [positions]

@[simp] theorem positions_zero (n s : Nat) : positions n s 0 = [] := rfl

/-- A stretch splits at any of its cells. -/
theorem positions_add {j k : Nat} (hs : s < n) (h : j + k ≤ n) :
    positions n s (j + k) = positions n s j ++ positions n (slot n s j) k := by
  unfold positions
  rw [List.range_add, List.map_append, List.map_map]
  congr 1
  refine List.map_congr_left fun i hi => ?_
  have hi := List.mem_range.1 hi
  exact (slot_slot hs (by omega)).symm

/-- A stretch that does not pass the end of the array is an interval. -/
theorem positions_eq_range' {k : Nat} (h : s + k ≤ n) : positions n s k = List.range' s k := by
  rw [List.range'_eq_map_range, positions]
  refine List.map_congr_left fun i hi => ?_
  have hi := List.mem_range.1 hi
  unfold slot; split <;> omega

/-- Membership in a stretch: at its start or, wrapped, at the front of the array. -/
theorem mem_positions {k p : Nat} :
    p ∈ positions n s k ↔ ∃ i, i < k ∧ slot n s i = p := by
  simp [positions]

/-- The cells of a stretch without its first cells. -/
theorem positions_drop {j k : Nat} (hs : s < n) (h : j + k ≤ n) :
    (positions n s (j + k)).drop j = positions n (slot n s j) k := by
  rw [positions_add hs h, List.drop_left' (by simp)]

end Cyclic
