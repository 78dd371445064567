import Mathlib.Data.Multiset.Filter
import Mathlib.Data.Multiset.Range
import Mathlib.Algebra.Order.Group.Multiset
import Mathlib.Algebra.BigOperators.Group.List.Basic

/-!
# Ledgers of numbered things

Things that are numbered in the order they come up (allocations, open handles) are accounted for by
multisets of numbers. A ledger that is at most `Multiset.range n` has none of the first `n` things
twice, and one that is equal to it has each of them once. So where the sides of a ledger add up to
either of these, what is on one side is not on the other.
-/

namespace Ledger

variable {α : Type*} {m m' : Multiset Nat} {n i : Nat}

/-- The next thing to come up is new. -/
theorem cons_le_range (h : m ≤ Multiset.range n) : n ::ₘ m ≤ Multiset.range (n + 1) := by
  rw [Multiset.range_succ]
  exact Multiset.cons_le_cons n h

theorem cons_eq_range (h : m = Multiset.range n) : n ::ₘ m = Multiset.range (n + 1) := by
  rw [Multiset.range_succ, h]

/-- What is on the ledger has come up. -/
theorem lt_of_mem (h : m = Multiset.range n) (hi : i ∈ m) : i < n := by
  rw [h] at hi
  exact Multiset.mem_range.mp hi

/-- What is on one side once is not on the other. -/
theorem apart (h : m + m' ≤ Multiset.range n) : m'.Nodup ∧ ∀ i ∈ m', i ∉ m := by
  have hnodup := Multiset.nodup_of_le h (Multiset.nodup_range n)
  obtain ⟨-, hone, hdisjoint⟩ := Multiset.nodup_add.mp hnodup
  exact ⟨hone, fun i hi hmem => Multiset.disjoint_left.mp hdisjoint hmem hi⟩

/-- Everything that has come up is on one side, once. -/
theorem count_eq (h : m + m' = Multiset.range n) (hi : i < n) :
    m.count i = if i ∈ m' then 0 else 1 := by
  have hone : m.count i + m'.count i = 1 := by
    rw [← Multiset.count_add, h]
    exact Multiset.count_eq_one_of_mem (Multiset.nodup_range n) (Multiset.mem_range.mpr hi)
  split
  · next hmem =>
    have hpos := Multiset.count_pos.mpr hmem
    omega
  · next hmem =>
    rw [Multiset.count_eq_zero_of_notMem hmem] at hone
    exact hone

/-! ## Ledgers that are derived from others -/

/-- `filterMap` depends on the function at the elements only. -/
theorem filterMap_congr {β : Type*} {f g : α → Option β} {s : Multiset α}
    (h : ∀ x ∈ s, f x = g x) : s.filterMap f = s.filterMap g := by
  induction s using Quot.inductionOn with
  | h l => exact congrArg Multiset.ofList (List.filterMap_congr h)

/-- The ledger of a list is the sum of those of its elements. -/
theorem coe_flatMap {β : Type*} (l : List α) (f : α → List β) :
    Multiset.ofList (l.flatMap f) = (l.map fun x => Multiset.ofList (f x)).sum := by
  induction l with
  | nil => rfl
  | cons x l ih =>
    rw [List.flatMap_cons, ← Multiset.coe_add, ih, List.map_cons, List.sum_cons]

/-- One more element of the list adds its ledger. -/
theorem sum_map_insert {β : Type*} (f : α → Multiset β) (x : α) (l r : List α) :
    ((l ++ x :: r).map f).sum = ((l ++ r).map f).sum + f x := by
  rw [List.map_append, List.map_append, List.map_cons, List.sum_append, List.sum_append,
    List.sum_cons, add_comm (f x), add_assoc]

/-- An element of the list with the same ledger can take the place of another. -/
theorem sum_map_replace {β : Type*} {f : α → Multiset β} {x y : α} (h : f y = f x) (l r : List α) :
    ((l ++ y :: r).map f).sum = ((l ++ x :: r).map f).sum := by
  rw [List.map_append, List.map_append, List.map_cons, List.map_cons, h]

end Ledger
