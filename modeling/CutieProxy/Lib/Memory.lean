import CutieProxy.Lib.Bits

/-!
# Numbers in memory

`ofMemory` is the number whose memory is a list of bytes, low byte first, and `toMemory` the memory
of a number. `networkBits` are the bits of some memory in network order: byte by byte, from the high
bit of a byte on. Masking numbers masks their bits in network order (`and_eq_iff`), and has as many
bits (`count_ofMemory`).
-/

namespace Memory

/-- The number in memory. -/
def ofMemory : List UInt8 → Nat
  | [] => 0
  | b :: bytes => b.toNat + 2 ^ 8 * ofMemory bytes

/-- The memory of a number of `k` bytes. -/
def toMemory : Nat → Nat → List UInt8
  | 0, _ => []
  | k + 1, n => UInt8.ofNat (n % 2 ^ 8) :: toMemory k (n / 2 ^ 8)

/-- The bits of some memory, in network order. -/
def networkBits (bytes : List UInt8) : List Bool :=
  bytes.flatMap fun b => (Bits.low 8 b.toNat).reverse

variable {k n : Nat} {b : UInt8} {bytes xs ys ms : List UInt8}

/-! ## The memory of a number -/

theorem length_toMemory : (toMemory k n).length = k := by
  induction k generalizing n with
  | zero => rfl
  | succ k ih => rw [toMemory, List.length_cons, ih]

theorem toMemory_ofMemory (bytes : List UInt8) :
    toMemory bytes.length (ofMemory bytes) = bytes := by
  induction bytes with
  | nil => rfl
  | cons b bytes ih =>
    have hb := b.toNat_lt
    have hmod : (b.toNat + 2 ^ 8 * ofMemory bytes) % 2 ^ 8 = b.toNat := by omega
    have hdiv : (b.toNat + 2 ^ 8 * ofMemory bytes) / 2 ^ 8 = ofMemory bytes := by omega
    rw [List.length_cons, toMemory, ofMemory, hmod, hdiv, ih, UInt8.ofNat_toNat]

theorem ofMemory_toMemory : ofMemory (toMemory k n) = n % 2 ^ (8 * k) := by
  induction k generalizing n with
  | zero => exact (Nat.mod_one n).symm
  | succ k ih =>
    rw [toMemory, ofMemory, ih, UInt8.toNat_ofNat', Nat.mod_mod, Nat.mul_succ, Nat.add_comm (8 * k),
      Nat.pow_add, Nat.mod_mul]

/-- Numbers of the same length are the same just when their memory is. -/
theorem ofMemory_inj (h : xs.length = ys.length) : ofMemory xs = ofMemory ys ↔ xs = ys := by
  refine ⟨fun heq => ?_, congrArg _⟩
  rw [← toMemory_ofMemory xs, heq, h, toMemory_ofMemory]

/-! ## The bits of a number -/

theorem low_ofMemory :
    Bits.low (8 * bytes.length) (ofMemory bytes) = bytes.flatMap fun b => Bits.low 8 b.toNat := by
  induction bytes with
  | nil => rfl
  | cons b bytes ih =>
    rw [ofMemory, List.length_cons, Nat.mul_succ, Nat.add_comm, Bits.low_add_mul b.toNat_lt, ih,
      List.flatMap_cons]

theorem networkBits_append : networkBits (xs ++ ys) = networkBits xs ++ networkBits ys :=
  List.flatMap_append

theorem networkBits_cons :
    networkBits (b :: bytes) = (Bits.low 8 b.toNat).reverse ++ networkBits bytes :=
  List.flatMap_cons

theorem length_networkBits : (networkBits bytes).length = 8 * bytes.length := by
  induction bytes with
  | nil => rfl
  | cons b bytes ih =>
    rw [networkBits_cons, List.length_append, List.length_reverse, Bits.length_low, ih,
      List.length_cons, Nat.mul_succ, Nat.add_comm]

/-- Some memory that is filled with one byte, whose bits are all the same. -/
theorem networkBits_replicate {v : Bool} (h : (Bits.low 8 b.toNat).reverse = List.replicate 8 v) :
    networkBits (List.replicate k b) = List.replicate (8 * k) v := by
  induction k with
  | zero => rfl
  | succ k ih =>
    rw [List.replicate_succ, networkBits_cons, h, ih, List.replicate_append_replicate, Nat.mul_succ,
      Nat.add_comm]

/-- A number has as many set bits as its memory. -/
theorem count_ofMemory (bytes : List UInt8) :
    Bits.count (8 * bytes.length) (ofMemory bytes) = (networkBits bytes).count true := by
  rw [Bits.count, low_ofMemory, networkBits, List.count_flatMap, List.count_flatMap]
  refine congrArg List.sum (List.map_congr_left fun b _ => ?_)
  exact List.count_reverse.symm

/-- The memory of a number, high byte first. -/
theorem networkBits_reverse :
    networkBits (toMemory k n).reverse = (Bits.low (8 * k) n).reverse := by
  induction k generalizing n with
  | zero => rfl
  | succ k ih =>
    rw [toMemory, List.reverse_cons, networkBits_append, ih, Nat.mul_succ, Nat.add_comm,
      Bits.low_add, List.reverse_append, networkBits_cons, UInt8.toNat_ofNat', Nat.mod_mod,
      Bits.low_mod]
    exact congrArg _ (List.append_nil _)

theorem networkBits_inj : networkBits xs = networkBits ys ↔ xs = ys := by
  refine ⟨fun h => ?_, congrArg _⟩
  induction xs generalizing ys with
  | nil =>
    cases ys with
    | nil => rfl
    | cons y ys => cases h
  | cons x xs ih =>
    cases ys with
    | nil => cases h
    | cons y ys =>
      rw [networkBits_cons, networkBits_cons] at h
      obtain ⟨hhead, htail⟩ := List.append_inj h (by
        rw [List.length_reverse, List.length_reverse, Bits.length_low, Bits.length_low])
      rw [List.reverse_inj, Bits.low_inj x.toNat_lt y.toNat_lt, UInt8.toNat_inj] at hhead
      rw [hhead, ih htail]

/-! ## Masks -/

theorem ofMemory_and (h : xs.length = ms.length) :
    ofMemory xs &&& ofMemory ms = ofMemory (List.zipWith (· &&& ·) xs ms) := by
  induction xs generalizing ms with
  | nil => exact Nat.zero_and _
  | cons x xs ih =>
    obtain ⟨m, ms, rfl⟩ := List.exists_cons_of_length_eq_add_one h.symm
    rw [List.zipWith_cons_cons, ofMemory, ofMemory, ofMemory,
      Bits.add_mul_and x.toNat_lt m.toNat_lt, ih (Nat.succ.inj h), UInt8.toNat_and]

theorem networkBits_and (h : xs.length = ms.length) :
    networkBits (List.zipWith (· &&& ·) xs ms) =
      List.zipWith and (networkBits xs) (networkBits ms) := by
  induction xs generalizing ms with
  | nil => rfl
  | cons x xs ih =>
    obtain ⟨m, ms, rfl⟩ := List.exists_cons_of_length_eq_add_one h.symm
    have hlength : (Bits.low 8 x.toNat).length = (Bits.low 8 m.toNat).length := by
      rw [Bits.length_low, Bits.length_low]
    rw [List.zipWith_cons_cons, networkBits_cons, networkBits_cons, networkBits_cons,
      ih (Nat.succ.inj h), UInt8.toNat_and, Bits.low_and, List.reverse_zipWith hlength,
      List.zipWith_append (by rw [List.length_reverse, List.length_reverse, hlength])]

/-- Masked numbers are the same just when their masked memory is. -/
theorem and_eq_iff (hx : xs.length = ms.length) (hy : ys.length = ms.length) :
    ofMemory xs &&& ofMemory ms = ofMemory ys &&& ofMemory ms ↔
      List.zipWith (· &&& ·) xs ms = List.zipWith (· &&& ·) ys ms := by
  rw [ofMemory_and hx, ofMemory_and hy, ofMemory_inj]
  rw [List.length_zipWith, List.length_zipWith, hx, hy]

/-- Under a mask of the first `n` bits memory is the same just when its first `n` bits are. -/
theorem zipWith_and_eq_iff {v : Nat} (hx : xs.length = ms.length) (hy : ys.length = ms.length)
    (hmask : networkBits ms = List.replicate n true ++ List.replicate v false) :
    List.zipWith (· &&& ·) xs ms = List.zipWith (· &&& ·) ys ms ↔
      (networkBits xs).take n = (networkBits ys).take n := by
  have hlength : 8 * ms.length = n + v := by
    rw [← length_networkBits, hmask, List.length_append, List.length_replicate,
      List.length_replicate]
  rw [← networkBits_inj, networkBits_and hx, networkBits_and hy, hmask,
    Bits.zipWith_and_mask (by rw [length_networkBits, hx, hlength]),
    Bits.zipWith_and_mask (by rw [length_networkBits, hy, hlength]), List.append_left_inj]

/-! ## Fields of some memory -/

/-- The field of `w` bytes with the number `i`. -/
def field (w i : Nat) (bytes : List UInt8) : List UInt8 := (bytes.drop (w * i)).take w

theorem length_field {w i : Nat} (h : w * (i + 1) ≤ bytes.length) :
    (field w i bytes).length = w := by
  rw [field, List.length_take, List.length_drop]
  rw [Nat.mul_succ] at h
  omega

theorem field_zipWith {f : UInt8 → UInt8 → UInt8} {w i : Nat} :
    field w i (List.zipWith f xs ms) = List.zipWith f (field w i xs) (field w i ms) := by
  rw [field, List.drop_zipWith, List.take_zipWith, field, field]

theorem take_mul_succ {w i : Nat} :
    bytes.take (w * (i + 1)) = bytes.take (w * i) ++ field w i bytes := by
  rw [Nat.mul_succ, List.take_add, field]

/-- The first fields of some memory are the same just when the memory up to their end is. -/
theorem take_eq_iff {w : Nat} (h : xs.length = ys.length) :
    (∀ i < k, field w i xs = field w i ys) ↔ xs.take (w * k) = ys.take (w * k) := by
  induction k with
  | zero => exact iff_of_true nofun rfl
  | succ k ih =>
    have hlength : (xs.take (w * k)).length = (ys.take (w * k)).length := by
      rw [List.length_take, List.length_take, h]
    rw [take_mul_succ, take_mul_succ, Nat.forall_lt_succ_right, ih]
    exact ⟨fun heq => by rw [heq.1, heq.2], fun heq => List.append_inj heq hlength⟩

/-- Memory is the same just when its fields are. -/
theorem field_eq_iff {w : Nat} (hx : xs.length = w * k) (hy : ys.length = w * k) :
    (∀ i < k, field w i xs = field w i ys) ↔ xs = ys := by
  rw [take_eq_iff (hx.trans hy.symm), List.take_of_length_le (Nat.le_of_eq hx),
    List.take_of_length_le (Nat.le_of_eq hy)]

/-- The set bits of some memory, counted in its fields. -/
theorem count_fields {w : Nat} (h : bytes.length = w * k) :
    ((List.range k).map fun i => Bits.count (8 * w) (ofMemory (field w i bytes))).sum =
      (networkBits bytes).count true := by
  have htake (j : Nat) (hj : j ≤ k) :
      ((List.range j).map fun i => Bits.count (8 * w) (ofMemory (field w i bytes))).sum =
        (networkBits (bytes.take (w * j))).count true := by
    induction j with
    | zero => rfl
    | succ j ih =>
      have hfield : (field w j bytes).length = w := length_field (by
        rw [h]
        exact Nat.mul_le_mul_left w hj)
      have hcount := count_ofMemory (field w j bytes)
      rw [hfield] at hcount
      rw [take_mul_succ, networkBits_append, List.count_append, ← ih (Nat.le_of_succ_le hj),
        List.range_succ, List.map_append, List.sum_append, List.map_singleton, List.sum_singleton,
        hcount]
  rw [htake k (Nat.le_refl k), List.take_of_length_le (Nat.le_of_eq h)]

/-- Masked fields are the same just when the masked memory is. -/
theorem and_fields_eq_iff {w : Nat} (hx : xs.length = w * k) (hy : ys.length = w * k)
    (hm : ms.length = w * k) :
    (∀ i < k, ofMemory (field w i xs) &&& ofMemory (field w i ms) =
        ofMemory (field w i ys) &&& ofMemory (field w i ms)) ↔
      List.zipWith (· &&& ·) xs ms = List.zipWith (· &&& ·) ys ms := by
  have hmasked {zs : List UInt8} (hz : zs.length = w * k) :
      (List.zipWith (· &&& ·) zs ms).length = w * k := by
    rw [List.length_zipWith, hz, hm, Nat.min_self]
  rw [← field_eq_iff (hmasked hx) (hmasked hy)]
  refine forall₂_congr fun i hi => ?_
  have hfield {zs : List UInt8} (hz : zs.length = w * k) : (field w i zs).length = w :=
    length_field (by rw [hz]; exact Nat.mul_le_mul_left w hi)
  rw [field_zipWith, field_zipWith]
  exact and_eq_iff ((hfield hx).trans (hfield hm).symm) ((hfield hy).trans (hfield hm).symm)

end Memory
