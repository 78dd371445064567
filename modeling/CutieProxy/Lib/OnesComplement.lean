import Mathlib.Data.Nat.ModEq
import Mathlib.Algebra.BigOperators.Group.List.Basic

/-!
# One's complement sums

Words are the numbers up to `m`, all of whose bits are set. `add` adds with the end-around carry and
`sum` adds up words from zero on. Such a sum is determined by the sum of the numbers: it is
`reduce m` of it, the only word that has its remainder modulo `m` and is zero just when it is
(`eq_reduce`). So carries may be folded in at any time and in any portion (`reduce_fold`).
-/

namespace OnesComplement

variable {m n k a b : Nat}

/-- The sum of two words, with the end-around carry. -/
def add (m a b : Nat) : Nat := if a + b ≤ m then a + b else a + b - m

/-- The sum of words. -/
def sum (m : Nat) (words : List Nat) : Nat := words.foldl (add m) 0

/-- The word a number folds to. -/
def reduce (m n : Nat) : Nat := if n = 0 then 0 else (n - 1) % m + 1

@[simp] theorem reduce_zero (m : Nat) : reduce m 0 = 0 := rfl

theorem reduce_eq_zero : reduce m n = 0 ↔ n = 0 := by
  unfold reduce
  split <;> omega

theorem reduce_le (hm : 0 < m) : reduce m n ≤ m := by
  unfold reduce
  split
  · exact Nat.zero_le m
  · exact Nat.mod_lt _ hm

theorem reduce_modEq : reduce m n ≡ n [MOD m] := by
  unfold reduce
  split
  · next h => rw [h]
  · next h =>
    have hn : n - 1 + 1 = n := by omega
    have hstep := (Nat.mod_modEq (n - 1) m).add_right 1
    rwa [hn] at hstep

/-- The word of a number is the only one with its remainder that is zero just when it is. -/
theorem eq_reduce (hle : a ≤ m) (hzero : a = 0 ↔ n = 0) (hmod : a ≡ n [MOD m]) :
    a = reduce m n := by
  rcases Nat.eq_zero_or_pos a with ha | ha
  · rw [ha, hzero.mp ha, reduce_zero]
  · have hn : n ≠ 0 := fun h => absurd (hzero.mpr h) (Nat.ne_of_gt ha)
    have hpred : a - 1 ≡ n - 1 [MOD m] := by
      apply Nat.ModEq.add_right_cancel' 1
      rwa [Nat.sub_add_cancel ha, Nat.sub_add_cancel (Nat.pos_of_ne_zero hn)]
    have hlt : (a - 1) % m = a - 1 := Nat.mod_eq_of_lt (by omega)
    rw [reduce, if_neg hn, ← hpred, hlt, Nat.sub_add_cancel ha]

/-- A word folds to itself. -/
theorem reduce_of_le (h : n ≤ m) : reduce m n = n := (eq_reduce h Iff.rfl rfl).symm

theorem reduce_congr (hm : 0 < m) (hzero : n = 0 ↔ k = 0) (hmod : n ≡ k [MOD m]) :
    reduce m n = reduce m k :=
  eq_reduce (reduce_le hm) (reduce_eq_zero.trans hzero) (reduce_modEq.trans hmod)

/-- A sum of two words folds to the same word as the sum of the numbers. -/
theorem add_reduce (hm : 0 < m) (hb : b ≤ m) : add m (reduce m n) b = reduce m (n + b) := by
  have hle := reduce_le (n := n) hm
  have hzero := reduce_eq_zero (m := m) (n := n)
  have hmod : reduce m n + b ≡ n + b [MOD m] := reduce_modEq.add_right b
  unfold add
  split
  · next h => exact eq_reduce h (by omega) hmod
  · next h =>
    refine eq_reduce (by omega) (by omega) (Nat.ModEq.trans ?_ hmod)
    exact (Nat.modEq_iff_dvd' (Nat.sub_le _ _)).mpr ⟨1, by omega⟩

/-- The one's complement sum of words is their sum, folded. -/
theorem sum_eq_reduce (hm : 0 < m) {words : List Nat} (h : ∀ w ∈ words, w ≤ m) :
    sum m words = reduce m words.sum := by
  have hfrom (words : List Nat) : ∀ n, (∀ w ∈ words, w ≤ m) →
      words.foldl (add m) (reduce m n) = reduce m (n + words.sum) := by
    induction words with
    | nil => exact fun _ _ => rfl
    | cons w words ih =>
      intro n h
      rw [List.foldl_cons, add_reduce hm (h w List.mem_cons_self),
        ih _ fun w' hw' => h w' (List.mem_cons_of_mem _ hw'), List.sum_cons, Nat.add_assoc]
  have hzero := hfrom words 0 h
  rwa [Nat.zero_add] at hzero

/-- A carry above `c` may be folded in where `c` is one more than a multiple of `m`. -/
theorem reduce_fold {c : Nat} (hm : 0 < m) (hc : c ≡ 1 [MOD m]) :
    reduce m (n / c + n % c) = reduce m n := by
  have hn := Nat.div_add_mod n c
  refine reduce_congr hm ?_ ?_
  · constructor
    · intro h
      obtain ⟨hdiv, hrest⟩ := Nat.add_eq_zero_iff.mp h
      rw [← hn, hdiv, hrest, Nat.mul_zero]
    · rintro rfl
      rw [Nat.zero_div, Nat.zero_mod]
  · have hcarry : n / c ≡ c * (n / c) [MOD m] := by
      have := hc.symm.mul_right (n / c)
      rwa [Nat.one_mul] at this
    have hstep := hcarry.add_right (n % c)
    rwa [hn] at hstep

/-- A word beside the complement of the folded rest makes a sum of all ones. -/
theorem reduce_add_complement (hm : 0 < m) : reduce m (n + (m - reduce m n)) = m := by
  have hle := reduce_le (n := n) hm
  have hzero := reduce_eq_zero (m := m) (n := n)
  refine (eq_reduce (Nat.le_refl m) (by omega) ?_).symm
  have hmod : reduce m n + (m - reduce m n) ≡ n + (m - reduce m n) [MOD m] :=
    reduce_modEq.add_right _
  rwa [Nat.add_sub_cancel' hle] at hmod

/-- A number folds to all ones just when it is a multiple of `m` other than zero. -/
theorem reduce_eq_self (hm : 0 < m) : reduce m n = m ↔ n ≠ 0 ∧ m ∣ n := by
  constructor
  · intro h
    refine ⟨fun hn => ?_, ?_⟩
    · rw [hn, reduce_zero] at h
      omega
    · have hmod := reduce_modEq (m := m) (n := n)
      rw [h] at hmod
      exact (Nat.modEq_zero_iff_dvd.mp (hmod.symm.trans ((Nat.modEq_zero_iff_dvd).mpr dvd_rfl)))
  · rintro ⟨hn, hdvd⟩
    refine (eq_reduce (Nat.le_refl m) (by omega) ?_).symm
    exact ((Nat.modEq_zero_iff_dvd).mpr dvd_rfl).trans ((Nat.modEq_zero_iff_dvd).mpr hdvd).symm

end OnesComplement
