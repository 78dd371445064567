import Mathlib.Logic.Function.Basic

/-!
# Tables

A table maps a key to the value it holds for it, if any. `insert` and `erase` change one key, and
`sweep` drops every entry that meets a condition, as a clean-up pass over the table does.
-/

universe u v

/-- A table with keys in `κ` and values in `ν`. -/
def Table (κ : Type u) (ν : Type v) := κ → Option ν

namespace Table

variable {κ : Type u} {ν : Type v} {t : Table κ ν} {k k' : κ} {x : ν}

/-- The table that holds nothing. -/
def empty : Table κ ν := fun _ => none

/-- The value held for a key. -/
def find (t : Table κ ν) (k : κ) : Option ν := t k

/-- Holds `x` for the key `k`. -/
def insert [DecidableEq κ] (k : κ) (x : ν) (t : Table κ ν) : Table κ ν :=
  Function.update t k (some x)

/-- Holds nothing for the key `k`. -/
def erase [DecidableEq κ] (k : κ) (t : Table κ ν) : Table κ ν := Function.update t k none

/-- Drops the entries that are `old`. -/
def sweep (old : κ → ν → Bool) (t : Table κ ν) : Table κ ν := fun k =>
  (t k).filter fun x => !old k x

@[simp] theorem find_empty : (empty : Table κ ν).find k = none := rfl

@[simp] theorem find_insert_self [DecidableEq κ] : (t.insert k x).find k = some x :=
  Function.update_self ..

@[simp] theorem find_insert_of_ne [DecidableEq κ] (h : k' ≠ k) :
    (t.insert k x).find k' = t.find k' := Function.update_of_ne h ..

@[simp] theorem find_erase_self [DecidableEq κ] : (t.erase k).find k = none :=
  Function.update_self ..

@[simp] theorem find_erase_of_ne [DecidableEq κ] (h : k' ≠ k) :
    (t.erase k).find k' = t.find k' := Function.update_of_ne h ..

/-- Inserting what is held already changes nothing. -/
theorem insert_of_find [DecidableEq κ] (h : t.find k = some x) : t.insert k x = t := by
  rw [insert, ← h]
  exact Function.update_eq_self k t

/-- An insertion holds on to every key. -/
theorem isSome_find_insert [DecidableEq κ] (h : (t.find k').isSome = true) :
    ((t.insert k x).find k').isSome = true := by
  by_cases hk : k' = k
  · rw [hk, find_insert_self]
    rfl
  · rw [find_insert_of_ne hk]
    exact h

/-- An insertion for a key that is held holds no new key. -/
theorem isSome_find_insert_held [DecidableEq κ] {y : ν} (h : t.find k = some y) :
    ((t.insert k x).find k').isSome = (t.find k').isSome := by
  by_cases hk : k' = k
  · rw [hk, find_insert_self, h]
    rfl
  · rw [find_insert_of_ne hk]

/-- A swept table holds what it held and is not old. -/
theorem find_sweep {old : κ → ν → Bool} :
    (t.sweep old).find k = some x ↔ t.find k = some x ∧ old k x = false := by
  simp [find, sweep, Option.filter_eq_some_iff]

end Table
