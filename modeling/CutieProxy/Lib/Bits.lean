import Mathlib.Data.List.Range
import Mathlib.Data.Nat.Bitwise

/-!
# Bits of a number

Bits are numbered from the low end. A mask of `w` bits from bit `k` on cuts a field out of a number
(`and_mask`). `low` is the list of the low bits of a number, which determines a number it is long
enough for (`low_inj`); a list of bits cut off by a mask is a part of it (`zipWith_and_mask`).
-/

namespace Bits

/-- The field of `w` bits from bit `k` on, in place. -/
theorem and_mask (n w k : Nat) : n &&& (2 ^ w - 1) * 2 ^ k = n / 2 ^ k % 2 ^ w * 2 ^ k := by
  rw [← Nat.shiftLeft_eq, ← Nat.shiftLeft_eq]
  refine Nat.eq_of_testBit_eq fun i => ?_
  rw [Nat.testBit_and, Nat.testBit_shiftLeft, Nat.testBit_shiftLeft, Nat.testBit_two_pow_sub_one,
    Nat.testBit_mod_two_pow, Nat.testBit_div_two_pow]
  by_cases hi : k ≤ i
  · simp [hi, Bool.and_comm]
  · simp [hi]

/-- Masking works on the parts of a number. -/
theorem add_mul_and {w n m : Nat} (hn : n < 2 ^ w) (hm : m < 2 ^ w) (n' m' : Nat) :
    (n + 2 ^ w * n') &&& (m + 2 ^ w * m') = (n &&& m) + 2 ^ w * (n' &&& m') := by
  refine Nat.eq_of_testBit_eq fun i => ?_
  have hand : n &&& m < 2 ^ w := Nat.lt_of_le_of_lt Nat.and_le_left hn
  rw [Nat.testBit_and, Nat.add_comm n, Nat.add_comm m, Nat.add_comm (n &&& m),
    Nat.testBit_two_pow_mul_add _ hn, Nat.testBit_two_pow_mul_add _ hm,
    Nat.testBit_two_pow_mul_add _ hand]
  split
  · rw [Nat.testBit_and]
  · rw [Nat.testBit_and]

/-! ## The low bits -/

/-- The low `w` bits, from the lowest on. -/
def low (w n : Nat) : List Bool := (List.range w).map n.testBit

/-- How many of the low `w` bits are set. -/
def count (w n : Nat) : Nat := (low w n).count true

variable {w v n m : Nat}

@[simp] theorem length_low : (low w n).length = w := by
  rw [low, List.length_map, List.length_range]

theorem low_add : low (w + v) n = low w n ++ low v (n / 2 ^ w) := by
  rw [low, List.range_add, List.map_append, List.map_map, low, low]
  refine congrArg _ (List.map_congr_left fun i _ => ?_)
  rw [Function.comp, Nat.testBit_div_two_pow, Nat.add_comm]

/-- A number in front of which another is put. -/
theorem low_add_mul (h : m < 2 ^ w) : low (w + v) (m + 2 ^ w * n) = low w m ++ low v n := by
  have hdiv : (m + 2 ^ w * n) / 2 ^ w = n := by
    rw [Nat.add_mul_div_left _ _ (Nat.two_pow_pos w), Nat.div_eq_of_lt h, Nat.zero_add]
  rw [low_add, hdiv]
  refine congrArg (· ++ _) (List.map_congr_left fun i hi => ?_)
  rw [Nat.add_comm, Nat.testBit_two_pow_mul_add _ h, if_pos (List.mem_range.mp hi)]

theorem low_zero : low w 0 = List.replicate w false := by
  rw [low, List.map_eq_replicate_iff.mpr fun i _ => Nat.zero_testBit i, List.length_range]

theorem low_mod : low w (n % 2 ^ w) = low w n := by
  refine List.map_congr_left fun i hi => ?_
  rw [Nat.testBit_mod_two_pow, decide_eq_true (List.mem_range.mp hi), Bool.true_and]

theorem low_and : low w (n &&& m) = List.zipWith and (low w n) (low w m) := by
  rw [low, low, low, List.zipWith_map, List.zipWith_self]
  exact List.map_congr_left fun i _ => Nat.testBit_and n m i

theorem low_inj (hn : n < 2 ^ w) (hm : m < 2 ^ w) : low w n = low w m ↔ n = m := by
  refine ⟨fun h => Nat.eq_of_testBit_eq fun i => ?_, congrArg _⟩
  rcases Nat.lt_or_ge i w with hi | hi
  · exact List.map_inj_left.mp h i (List.mem_range.mpr hi)
  · have hpow := Nat.pow_le_pow_right Nat.two_pos hi
    rw [Nat.testBit_lt_two_pow (Nat.lt_of_lt_of_le hn hpow),
      Nat.testBit_lt_two_pow (Nat.lt_of_lt_of_le hm hpow)]

/-- A bit that is shifted in at the high end. -/
theorem low_shiftIn : low (w + 1) (n >>> 1 ||| 2 ^ w) = (low (w + 1) n).tail ++ [true] := by
  have htail : (low (w + 1) n).tail = low w (n >>> 1) := by
    rw [Nat.add_comm, low_add, Nat.shiftRight_eq_div_pow]
    rfl
  rw [htail, low, List.range_succ, List.map_append]
  congr 1
  · refine List.map_congr_left fun i hi => ?_
    rw [Nat.testBit_or, Nat.testBit_two_pow_of_ne (List.mem_range.mp hi).ne', Bool.or_false]
  · rw [List.map_singleton, Nat.testBit_or, Nat.testBit_two_pow_self, Bool.or_true]

/-! ## Lists of bits -/

theorem zipWith_and_true (bits : List Bool) :
    List.zipWith and bits (List.replicate bits.length true) = bits := by
  induction bits with
  | nil => rfl
  | cons b bits ih =>
    rw [List.length_cons, List.replicate_succ, List.zipWith_cons_cons, Bool.and_true, ih]

theorem zipWith_and_false (bits : List Bool) :
    List.zipWith and bits (List.replicate bits.length false) =
      List.replicate bits.length false := by
  induction bits with
  | nil => rfl
  | cons b bits ih =>
    rw [List.length_cons, List.replicate_succ, List.zipWith_cons_cons, Bool.and_false, ih]

/-- A mask whose first `w` bits are set keeps the first `w` bits. -/
theorem zipWith_and_mask {bits : List Bool} (h : bits.length = w + v) :
    List.zipWith and bits (List.replicate w true ++ List.replicate v false) =
      bits.take w ++ List.replicate v false := by
  have htake : (bits.take w).length = w := by rw [List.length_take, h]; omega
  have hdrop : (bits.drop w).length = v := by rw [List.length_drop, h]; omega
  have htrue := zipWith_and_true (bits.take w)
  have hfalse := zipWith_and_false (bits.drop w)
  rw [htake] at htrue
  rw [hdrop] at hfalse
  calc List.zipWith and bits (List.replicate w true ++ List.replicate v false)
      = List.zipWith and (bits.take w ++ bits.drop w)
          (List.replicate w true ++ List.replicate v false) := by rw [List.take_append_drop]
    _ = bits.take w ++ List.replicate v false := by
      rw [List.zipWith_append (by rw [htake, List.length_replicate]), htrue, hfalse]

end Bits
