import Mathlib.Data.List.Basic

/-!
# Shared mutexes

A mutex with one exclusive holder or any number of shared ones; a value in which both hold it cannot
be built. Whether a shared request waits for the exclusive requests made before it is left open by
most libraries, so `Admits` has it as a parameter.
-/

universe u

/-- A shared mutex: its holders, and who waits to hold it exclusively. -/
structure SharedMutex (ι : Type u) where
  exclusive : Option ι := none
  shared : List ι := []
  waiting : List ι := []
  /-- An exclusive holder is the only holder. -/
  alone : exclusive.isSome = true → shared = [] := by simp

namespace SharedMutex

variable {ι : Type u} {m : SharedMutex ι} {i j : ι}

/-- Nobody holds the mutex. -/
def Free (m : SharedMutex ι) : Prop := m.exclusive = none ∧ m.shared = []

/-- A shared request is granted at once; with `writersFirst`, exclusive requests go first. -/
def Admits (writersFirst : Bool) (m : SharedMutex ι) : Prop :=
  m.exclusive = none ∧ (writersFirst = true → m.waiting = [])

/-- `i` holds the mutex. -/
def Holds (i : ι) (m : SharedMutex ι) : Prop := m.exclusive = some i ∨ i ∈ m.shared

/-- `i` waits to hold the mutex exclusively. -/
def await (i : ι) (m : SharedMutex ι) : SharedMutex ι :=
  { m with waiting := i :: m.waiting }

/-- `i` takes a free mutex exclusively. -/
def lock [DecidableEq ι] (i : ι) (m : SharedMutex ι) (h : m.Free) : SharedMutex ι where
  exclusive := some i
  shared := m.shared
  waiting := m.waiting.erase i
  alone _ := h.2

/-- The exclusive holder lets go. -/
def unlock (m : SharedMutex ι) : SharedMutex ι :=
  { m with exclusive := none, alone := by simp }

/-- `i` takes the mutex shared. -/
def lockShared (i : ι) (m : SharedMutex ι) (h : m.exclusive = none) : SharedMutex ι :=
  { m with shared := i :: m.shared, alone := by simp [h] }

/-- The shared holder `i` lets go. -/
def unlockShared [DecidableEq ι] (i : ι) (m : SharedMutex ι) : SharedMutex ι :=
  { m with shared := m.shared.erase i, alone := fun h => by rw [m.alone h]; rfl }

/-- Beside an exclusive holder nobody holds the mutex. -/
theorem eq_of_holds (hi : m.exclusive = some i) (hj : m.Holds j) : j = i := by
  rcases hj with hj | hj
  · exact Option.some.inj (hj.symm.trans hi)
  · rw [m.alone (by rw [hi]; rfl)] at hj
    cases hj

/-- Nobody holds a free mutex. -/
theorem Free.not_holds (h : m.Free) : ¬ m.Holds i := by
  rintro (hi | hi)
  · rw [h.1] at hi
    cases hi
  · rw [h.2] at hi
    cases hi

/-- A mutex with a shared holder has no exclusive one. -/
theorem exclusive_of_mem (h : i ∈ m.shared) : m.exclusive = none := by
  cases hex : m.exclusive with
  | none => rfl
  | some j =>
    rw [m.alone (by rw [hex]; rfl)] at h
    cases h

end SharedMutex
