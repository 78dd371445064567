import CutieProxy.Lib.Bits
import CutieProxy.Lib.Loop
import CutieProxy.Lib.OnesComplement
import CutieProxy.Net.Inet

/-!
# The checksum of `ipv6_helper`

`ip_checksum_partial` adds up the words of some memory, 32 bits at a time, and `ip_checksum_fold`
folds the carries in. The sum of RFC 1071 adds the 16-bit words with the end-around carry instead;
both fold the same number, so the checksums are the same whichever end of the words is the high one
(`ipChecksumFold_partial`).
-/

namespace CutieProxy

/-! ## RFC 1071 -/

/-- The 16-bit words of some bytes, where `word` puts two bytes together; a last byte alone is
padded with zero. -/
def words16 (word : UInt8 → UInt8 → Nat) : List UInt8 → List Nat
  | b₀ :: b₁ :: rest => word b₀ b₁ :: words16 word rest
  | [b] => [word b 0]
  | [] => []

/-- A word of the machine. -/
def hostWord (b₀ b₁ : UInt8) : Nat := (word16 b₀ b₁).toNat

/-- A word in network order. -/
def netWord (b₀ b₁ : UInt8) : Nat := (word16 b₁ b₀).toNat

/-- The one's complement sum of RFC 1071. -/
def rfc1071Sum (word : UInt8 → UInt8 → Nat) (bytes : List UInt8) : Nat :=
  OnesComplement.sum 65535 (words16 word bytes)

namespace Ipv6Helper

/-! ## The source -/

/-- The 32-bit word at `p32`. -/
def word32 (b₀ b₁ b₂ b₃ : UInt8) : UInt32 :=
  UInt32.ofNat (b₀.toNat + 256 * b₁.toNat + 65536 * b₂.toNat + 16777216 * b₃.toNat)

/-- The last byte of an odd length, at `p8`. -/
def partialTail8 (p : List UInt8) (sum : UInt64) : UInt64 :=
  match p with
  | [] => sum
  | b :: _ => sum + (ntohs (UInt16.ofNat (256 * b.toNat))).toUInt64

/-- The trailing bytes, at `p16`. -/
def partialTail16 (p : List UInt8) (sum : UInt64) : UInt64 :=
  match p with
  | b₀ :: b₁ :: rest => partialTail8 rest (sum + (word16 b₀ b₁).toUInt64)
  | rest => partialTail8 rest sum

/-- `ip_checksum_partial`, on the `len` bytes at `p`. -/
def ipChecksumPartial (p : List UInt8) (sum : UInt64) : UInt64 :=
  match p with
  | b₀ :: b₁ :: b₂ :: b₃ :: rest =>
    ipChecksumPartial rest (sum + (word32 b₀ b₁ b₂ b₃).toUInt64)
  | rest => partialTail16 rest sum

/-! ### Folding -/

/-- `sum & ~0xffffffffULL` is zero just when `sum` fits in 32 bits. -/
theorem and_high_eq_zero {sum : UInt64} : sum &&& ~~~0xffffffff = 0 ↔ sum.toNat < 4294967296 := by
  have hsum := sum.toNat_lt
  rw [← UInt64.toNat_inj, UInt64.toNat_and]
  show sum.toNat &&& (2 ^ 32 - 1) * 2 ^ 32 = 0 ↔ _
  rw [Bits.and_mask]
  omega

/-- `sum & 0xffff0000ULL` is zero just when the bits of `sum` from 16 to 31 are. -/
theorem and_low_eq_zero {sum : UInt64} :
    sum &&& 0xffff0000 = 0 ↔ sum.toNat / 65536 % 65536 = 0 := by
  rw [← UInt64.toNat_inj, UInt64.toNat_and]
  show sum.toNat &&& (2 ^ 16 - 1) * 2 ^ 16 = 0 ↔ _
  rw [Bits.and_mask]
  omega

/-- The carry from 32 bits on is added without overflow. -/
theorem toNat_foldHigh (sum : UInt64) : ((sum >>> 32) + (sum &&& 0xffffffff)).toNat =
    sum.toNat / 4294967296 + sum.toNat % 4294967296 := by
  have hsum := sum.toNat_lt
  have hand : (sum &&& 0xffffffff).toNat = sum.toNat % 2 ^ 32 := by
    rw [UInt64.toNat_and]
    exact Nat.and_two_pow_sub_one_eq_mod _ 32
  have hshift : (sum >>> 32).toNat = sum.toNat / 2 ^ 32 := by
    rw [UInt64.toNat_shiftRight]
    exact Nat.shiftRight_eq_div_pow _ 32
  rw [UInt64.toNat_add, hand, hshift]
  omega

/-- The carry from 16 bits on is added without overflow. -/
theorem toNat_foldLow (sum : UInt64) : ((sum >>> 16) + (sum &&& 0xffff)).toNat =
    sum.toNat / 65536 + sum.toNat % 65536 := by
  have hsum := sum.toNat_lt
  have hand : (sum &&& 0xffff).toNat = sum.toNat % 2 ^ 16 := by
    rw [UInt64.toNat_and]
    exact Nat.and_two_pow_sub_one_eq_mod _ 16
  have hshift : (sum >>> 16).toNat = sum.toNat / 2 ^ 16 := by
    rw [UInt64.toNat_shiftRight]
    exact Nat.shiftRight_eq_div_pow _ 16
  rw [UInt64.toNat_add, hand, hshift]
  omega

/-- The first loop of `ip_checksum_fold`, which lowers the sum. -/
def foldHigh : Loop UInt64 where
  guard sum := sum &&& ~~~0xffffffff != 0
  body sum := (sum >>> 32) + (sum &&& 0xffffffff)
  variant := UInt64.toNat
  lowers sum h := by
    have hge := mt and_high_eq_zero.mpr (bne_iff_ne.mp h)
    rw [toNat_foldHigh]
    omega

/-- The second loop of `ip_checksum_fold`, which lowers the sum. -/
def foldLow : Loop UInt64 where
  guard sum := sum &&& 0xffff0000 != 0
  body sum := (sum >>> 16) + (sum &&& 0xffff)
  variant := UInt64.toNat
  lowers sum h := by
    have hge := mt and_low_eq_zero.mpr (bne_iff_ne.mp h)
    rw [toNat_foldLow]
    omega

/-- `ip_checksum_fold`. -/
def ipChecksumFold (sum : UInt64) : UInt16 := (~~~(foldLow.run (foldHigh.run sum))).toUInt16

/-! ### The pseudo-header -/

/-- The memory of `ipv6_pseudo_header_t`. -/
def pseudoHeader (srcIp dstIp : IpAddressV6) (protocol : UInt8) (len : UInt32) : List UInt8 :=
  srcIp.toList ++ dstIp.toList ++
    [UInt8.ofNat (len.toNat / 16777216), UInt8.ofNat (len.toNat / 65536),
      UInt8.ofNat (len.toNat / 256), UInt8.ofNat len.toNat] ++
    [0, 0, 0, protocol]

/-- `tcp_udp_v6_header_checksum_partial`. -/
def tcpUdpV6HeaderChecksumPartial (srcIp dstIp : IpAddressV6) (protocol : UInt8) (len : UInt32) :
    UInt64 :=
  ipChecksumPartial (pseudoHeader srcIp dstIp protocol len) 0

/-- `tcp_udp_v6_checksum`, on the `len` bytes at `payload`. -/
def tcpUdpV6Checksum (srcIp dstIp : IpAddressV6) (protocol : UInt8) (payload : List UInt8)
    (len : UInt32) : UInt16 :=
  ipChecksumFold (ipChecksumPartial payload
    (tcpUdpV6HeaderChecksumPartial srcIp dstIp protocol len))

/-! ## The sum -/

/-- The numbers `ip_checksum_partial` adds up. -/
def addends : List UInt8 → List Nat
  | b₀ :: b₁ :: b₂ :: b₃ :: rest => (word32 b₀ b₁ b₂ b₃).toNat :: addends rest
  | [b₀, b₁, b₂] => [hostWord b₀ b₁, b₂.toNat]
  | [b₀, b₁] => [hostWord b₀ b₁]
  | [b] => [b.toNat]
  | [] => []

variable {p q : List UInt8} {sum : UInt64}

theorem hostWord_eq (b₀ b₁ : UInt8) : hostWord b₀ b₁ = b₀.toNat + 256 * b₁.toNat :=
  toNat_word16 b₀ b₁

theorem toNat_word32 (b₀ b₁ b₂ b₃ : UInt8) :
    (word32 b₀ b₁ b₂ b₃).toNat = hostWord b₀ b₁ + 65536 * hostWord b₂ b₃ := by
  have h₀ := b₀.toNat_lt
  have h₁ := b₁.toNat_lt
  have h₂ := b₂.toNat_lt
  have h₃ := b₃.toNat_lt
  rw [word32, UInt32.toNat_ofNat', hostWord_eq, hostWord_eq]
  omega

theorem hostWord_le (b₀ b₁ : UInt8) : hostWord b₀ b₁ ≤ 65535 :=
  Nat.le_of_lt_succ (word16 b₀ b₁).toNat_lt

theorem netWord_le (b₀ b₁ : UInt8) : netWord b₀ b₁ ≤ 65535 := hostWord_le b₁ b₀

/-- `ntohs(*p8 << 8)` is the byte. -/
theorem toNat_lastByte (b : UInt8) : (ntohs (UInt16.ofNat (256 * b.toNat))).toNat = b.toNat := by
  have hb := b.toNat_lt
  rw [ntohs, toNat_htons, UInt16.toNat_ofNat']
  omega

/-- Where the accumulator is large enough for all of it, it holds the sum of the numbers added. -/
theorem toNat_ipChecksumPartial (h : sum.toNat + (addends p).sum < 18446744073709551616) :
    (ipChecksumPartial p sum).toNat = sum.toNat + (addends p).sum := by
  fun_induction addends p generalizing sum with
  | case1 b₀ b₁ b₂ b₃ rest ih =>
    rw [List.sum_cons] at h
    have hadd : (sum + (word32 b₀ b₁ b₂ b₃).toUInt64).toNat =
        sum.toNat + (word32 b₀ b₁ b₂ b₃).toNat := by
      rw [UInt64.toNat_add, UInt32.toNat_toUInt64]
      exact Nat.mod_eq_of_lt (by omega)
    rw [ipChecksumPartial, ih (by omega), hadd, List.sum_cons, Nat.add_assoc]
  | case2 b₀ b₁ b₂ =>
    have hlast := toNat_lastByte b₂
    simp only [List.sum_cons, List.sum_nil, hostWord] at h ⊢
    simp only [ipChecksumPartial, partialTail16, partialTail8, UInt64.toNat_add,
      UInt16.toNat_toUInt64, hlast]
    omega
  | case3 b₀ b₁ =>
    simp only [List.sum_cons, List.sum_nil, hostWord] at h ⊢
    simp only [ipChecksumPartial, partialTail16, partialTail8, UInt64.toNat_add,
      UInt16.toNat_toUInt64]
    omega
  | case4 b =>
    have hlast := toNat_lastByte b
    simp only [List.sum_cons, List.sum_nil] at h ⊢
    simp only [ipChecksumPartial, partialTail16, partialTail8, UInt64.toNat_add,
      UInt16.toNat_toUInt64, hlast]
    omega
  | case5 => rfl

/-- Four bytes are one addend below `2 ^ 32`, and the bytes at the end are worth less. -/
theorem addends_sum_le (p : List UInt8) : 4 * (addends p).sum ≤ 4294967296 * p.length := by
  fun_induction addends p with
  | case1 b₀ b₁ b₂ b₃ rest ih =>
    have hword := (word32 b₀ b₁ b₂ b₃).toNat_lt
    simp only [List.sum_cons, List.length_cons]
    omega
  | case2 b₀ b₁ b₂ =>
    have hword := hostWord_le b₀ b₁
    have hbyte := b₂.toNat_lt
    simp only [List.sum_cons, List.sum_nil, List.length_cons, List.length_nil]
    omega
  | case3 b₀ b₁ =>
    have hword := hostWord_le b₀ b₁
    simp only [List.sum_cons, List.sum_nil, List.length_cons, List.length_nil]
    omega
  | case4 b =>
    have hbyte := b.toNat_lt
    simp only [List.sum_cons, List.sum_nil, List.length_cons, List.length_nil]
    omega
  | case5 => exact Nat.zero_le _

/-- The sum goes on after a multiple of four bytes. -/
theorem addends_append (h : 4 ∣ p.length) : addends (p ++ q) = addends p ++ addends q := by
  fun_induction addends p with
  | case1 b₀ b₁ b₂ b₃ rest ih =>
    have hrest : 4 ∣ rest.length := (Nat.dvd_add_left (Nat.dvd_refl 4)).mp h
    rw [List.cons_append, List.cons_append, List.cons_append, List.cons_append, addends, ih hrest,
      List.cons_append]
  | case2 | case3 | case4 =>
    simp only [List.length_cons, List.length_nil] at h
    omega
  | case5 => rfl

/-- The addends fold to the same word as the 16-bit words of the machine. -/
theorem reduce_addends (p : List UInt8) :
    OnesComplement.reduce 65535 (addends p).sum =
      OnesComplement.reduce 65535 (words16 hostWord p).sum := by
  have hsum : (words16 hostWord p).sum ≤ (addends p).sum ∧
      65535 ∣ (addends p).sum - (words16 hostWord p).sum ∧
      ((words16 hostWord p).sum = 0 → (addends p).sum = 0) := by
    fun_induction addends p with
    | case1 b₀ b₁ b₂ b₃ rest ih =>
      have hword := toNat_word32 b₀ b₁ b₂ b₃
      simp only [words16, List.sum_cons]
      omega
    | case2 b₀ b₁ b₂ =>
      have hlast := hostWord_eq b₂ 0
      simp only [words16, List.sum_cons, List.sum_nil, hlast, UInt8.toNat_zero]
      omega
    | case3 b₀ b₁ => simp [words16]
    | case4 b =>
      have hlast := hostWord_eq b 0
      simp only [words16, List.sum_cons, List.sum_nil, hlast, UInt8.toNat_zero]
      omega
    | case5 => simp [words16]
  obtain ⟨hle, hdvd, hzero⟩ := hsum
  exact OnesComplement.reduce_congr (by decide) (by omega) ((Nat.modEq_iff_dvd' hle).mpr hdvd).symm

/-! ## The checksum -/

/-- The loops fold all carries in. -/
theorem toNat_fold_run (sum : UInt64) : (foldLow.run (foldHigh.run sum)).toNat =
    OnesComplement.reduce 65535 sum.toNat := by
  have hlarge : (foldHigh.run sum).toNat < 4294967296 :=
    and_high_eq_zero.mp (bne_eq_false_iff_eq.mp (foldHigh.guard_run sum))
  have hhigh : OnesComplement.reduce 65535 (foldHigh.run sum).toNat =
      OnesComplement.reduce 65535 sum.toNat := by
    refine Loop.run_invariant (I := fun s : UInt64 => OnesComplement.reduce 65535 s.toNat = _)
      (fun s _ hs => ?_) rfl
    rw [← hs]
    show OnesComplement.reduce 65535 ((s >>> 32) + (s &&& 0xffffffff)).toNat = _
    rw [toNat_foldHigh]
    exact OnesComplement.reduce_fold (by decide) (by decide)
  have hlow : (foldLow.run (foldHigh.run sum)).toNat < 4294967296 ∧
      OnesComplement.reduce 65535 (foldLow.run (foldHigh.run sum)).toNat =
        OnesComplement.reduce 65535 sum.toNat := by
    refine Loop.run_invariant (I := fun s : UInt64 => s.toNat < 4294967296 ∧
      OnesComplement.reduce 65535 s.toNat = _) (fun s _ hs => ?_) ⟨hlarge, hhigh⟩
    rw [← hs.2]
    show ((s >>> 16) + (s &&& 0xffff)).toNat < _ ∧
      OnesComplement.reduce 65535 ((s >>> 16) + (s &&& 0xffff)).toNat = _
    rw [toNat_foldLow]
    exact ⟨by omega, OnesComplement.reduce_fold (by decide) (by decide)⟩
  have hguard := and_low_eq_zero.mp (bne_eq_false_iff_eq.mp (foldLow.guard_run (foldHigh.run sum)))
  rw [← hlow.2, OnesComplement.reduce_of_le (by omega)]

/-- The fold is the complement of the word the sum folds to. -/
theorem toNat_ipChecksumFold (sum : UInt64) : (ipChecksumFold sum).toNat =
    65535 - OnesComplement.reduce 65535 sum.toNat := by
  have hle : OnesComplement.reduce 65535 sum.toNat ≤ 65535 :=
    OnesComplement.reduce_le (by decide)
  have hsize : UInt64.size = 18446744073709551616 := rfl
  rw [ipChecksumFold, UInt64.toNat_toUInt16, UInt64.toNat_not, toNat_fold_run]
  omega

/-- The words go on after an even number of bytes. -/
theorem words16_append {word : UInt8 → UInt8 → Nat} (h : 2 ∣ p.length) :
    words16 word (p ++ q) = words16 word p ++ words16 word q := by
  fun_induction words16 word p with
  | case1 b₀ b₁ rest ih =>
    have hrest : 2 ∣ rest.length := (Nat.dvd_add_left (Nat.dvd_refl 2)).mp h
    rw [List.cons_append, List.cons_append, words16, ih hrest, List.cons_append]
  | case2 =>
    simp only [List.length_cons, List.length_nil] at h
    omega
  | case3 => rfl

/-- The sum of RFC 1071 is the sum of the words, folded. -/
theorem rfc1071Sum_eq {word : UInt8 → UInt8 → Nat} (hword : ∀ b₀ b₁, word b₀ b₁ ≤ 65535)
    (p : List UInt8) :
    rfc1071Sum word p = OnesComplement.reduce 65535 (words16 word p).sum := by
  refine OnesComplement.sum_eq_reduce (by decide) fun w hw => ?_
  fun_induction words16 word p with
  | case1 b₀ b₁ rest ih =>
    rcases List.mem_cons.mp hw with rfl | hw
    · exact hword b₀ b₁
    · exact ih hw
  | case2 b =>
    rw [List.mem_singleton.mp hw]
    exact hword b 0
  | case3 => cases hw

/-- Swapping the bytes of all words swaps those of their sum. -/
theorem rfc1071Sum_net (p : List UInt8) : rfc1071Sum netWord p =
    rfc1071Sum hostWord p / 256 + 256 * (rfc1071Sum hostWord p % 256) := by
  rw [rfc1071Sum_eq netWord_le, rfc1071Sum_eq hostWord_le]
  -- a word with its bytes swapped is 256 times the word, modulo 65535
  have hswap : ∀ b₀ b₁, 256 * hostWord b₀ b₁ = netWord b₀ b₁ + 65535 * b₁.toNat := by
    intro b₀ b₁
    have hhost := hostWord_eq b₀ b₁
    have hnet : netWord b₀ b₁ = b₁.toNat + 256 * b₀.toNat := hostWord_eq b₁ b₀
    omega
  have hsum : 65535 ∣ 256 * (words16 hostWord p).sum - (words16 netWord p).sum ∧
      (words16 netWord p).sum ≤ 256 * (words16 hostWord p).sum ∧
      ((words16 netWord p).sum = 0 ↔ (words16 hostWord p).sum = 0) := by
    fun_induction words16 hostWord p with
    | case1 b₀ b₁ rest ih =>
      have hword := hswap b₀ b₁
      have hle := hostWord_le b₀ b₁
      have hbyte := hostWord_eq b₀ b₁
      simp only [words16, List.sum_cons]
      omega
    | case2 b =>
      have hword := hswap b 0
      have hbyte := hostWord_eq b 0
      have hzero : (0 : UInt8).toNat = 0 := rfl
      simp only [words16, List.sum_cons, List.sum_nil]
      omega
    | case3 => simp [words16]
  obtain ⟨hdvd, hle, hzero⟩ := hsum
  set r := OnesComplement.reduce 65535 (words16 hostWord p).sum with hr
  have hr_le : r ≤ 65535 := OnesComplement.reduce_le (by decide)
  have hr_zero : r = 0 ↔ (words16 hostWord p).sum = 0 := OnesComplement.reduce_eq_zero
  have hr_mod : 256 * r ≡ 256 * (words16 hostWord p).sum [MOD 65535] :=
    OnesComplement.reduce_modEq.mul_left 256
  have hr_swap : r / 256 + 256 * (r % 256) ≡ 256 * r [MOD 65535] :=
    (Nat.modEq_iff_dvd' (by omega)).mpr ⟨r / 256, by omega⟩
  refine (OnesComplement.eq_reduce (by omega) (by omega) ?_).symm
  exact (hr_swap.trans hr_mod).trans ((Nat.modEq_iff_dvd' hle).mpr hdvd).symm

theorem rfc1071Sum_host_le (p : List UInt8) : rfc1071Sum hostWord p ≤ 65535 := by
  rw [rfc1071Sum_eq hostWord_le]
  exact OnesComplement.reduce_le (by decide)

/-- A sum of all ones is one in either byte order. -/
theorem rfc1071Sum_net_ones : rfc1071Sum netWord p = 65535 ↔ rfc1071Sum hostWord p = 65535 := by
  have hle := rfc1071Sum_host_le p
  rw [rfc1071Sum_net]
  omega

/-! ## RFC 1071 by 32-bit words -/

section
variable (srcIp dstIp : IpAddressV6) (protocol : UInt8) (len : UInt32)

theorem length_pseudoHeader : (pseudoHeader srcIp dstIp protocol len).length = 40 := by
  simp [pseudoHeader]

/-- The accumulator holds the sum of all numbers added to it. -/
theorem toNat_checksum_sum (hlength : p.length ≤ 4294967296) :
    (ipChecksumPartial p (tcpUdpV6HeaderChecksumPartial srcIp dstIp protocol len)).toNat =
      (addends (pseudoHeader srcIp dstIp protocol len)).sum + (addends p).sum := by
  have hheader := addends_sum_le (pseudoHeader srcIp dstIp protocol len)
  rw [length_pseudoHeader] at hheader
  have hp := addends_sum_le p
  have hpartial : (tcpUdpV6HeaderChecksumPartial srcIp dstIp protocol len).toNat =
      (addends (pseudoHeader srcIp dstIp protocol len)).sum := by
    have hstart : (0 : UInt64).toNat + (addends (pseudoHeader srcIp dstIp protocol len)).sum <
        18446744073709551616 := by
      rw [UInt64.toNat_zero]
      omega
    have hsum := toNat_ipChecksumPartial hstart
    rwa [UInt64.toNat_zero, Nat.zero_add] at hsum
  rw [toNat_ipChecksumPartial (by omega), hpartial]

/-- The checksum is the complement of the sum of RFC 1071. -/
theorem toNat_tcpUdpV6Checksum (hlength : p.length ≤ 4294967296) :
    (tcpUdpV6Checksum srcIp dstIp protocol p len).toNat =
      65535 - rfc1071Sum hostWord (pseudoHeader srcIp dstIp protocol len ++ p) := by
  have hmultiple : 4 ∣ (pseudoHeader srcIp dstIp protocol len).length := by
    rw [length_pseudoHeader]
    decide
  rw [tcpUdpV6Checksum, toNat_ipChecksumFold, toNat_checksum_sum _ _ _ _ hlength,
    ← List.sum_append, ← addends_append hmultiple, reduce_addends, rfc1071Sum_eq hostWord_le]

/-- The checksum of a pseudo-header and at most `2 ^ 32` bytes: the accumulator holds the sum of all
numbers added to it, and the fold, whose loops end, is the complement of the sum of RFC 1071, in the
byte order of the machine and, stored in memory, in network order. -/
theorem ipChecksumFold_partial (p : List UInt8) (hlength : p.length ≤ 4294967296) :
    (ipChecksumPartial p (tcpUdpV6HeaderChecksumPartial srcIp dstIp protocol len)).toNat =
        (addends (pseudoHeader srcIp dstIp protocol len)).sum + (addends p).sum ∧
      (ipChecksumFold (ipChecksumPartial p
        (tcpUdpV6HeaderChecksumPartial srcIp dstIp protocol len))).toNat =
          65535 - rfc1071Sum hostWord (pseudoHeader srcIp dstIp protocol len ++ p) ∧
      (htons (ipChecksumFold (ipChecksumPartial p
        (tcpUdpV6HeaderChecksumPartial srcIp dstIp protocol len)))).toNat =
          65535 - rfc1071Sum netWord (pseudoHeader srcIp dstIp protocol len ++ p) := by
  have hfold := toNat_tcpUdpV6Checksum srcIp dstIp protocol len hlength
  have hle := rfc1071Sum_host_le (pseudoHeader srcIp dstIp protocol len ++ p)
  rw [tcpUdpV6Checksum] at hfold
  refine ⟨toNat_checksum_sum srcIp dstIp protocol len hlength, hfold, ?_⟩
  rw [toNat_htons, hfold, rfc1071Sum_net]
  omega

/-- One byte behind a pseudo-header. -/
theorem ipChecksumFold_partial_one :
    (ipChecksumPartial [69] (tcpUdpV6HeaderChecksumPartial (Vector.replicate 16 0)
        (Vector.replicate 16 0) 59 0)).toNat =
        (addends (pseudoHeader (Vector.replicate 16 0) (Vector.replicate 16 0) 59 0)).sum +
          (addends [69]).sum ∧
      (ipChecksumFold (ipChecksumPartial [69] (tcpUdpV6HeaderChecksumPartial
        (Vector.replicate 16 0) (Vector.replicate 16 0) 59 0))).toNat =
          65535 - rfc1071Sum hostWord
            (pseudoHeader (Vector.replicate 16 0) (Vector.replicate 16 0) 59 0 ++ [69]) ∧
      (htons (ipChecksumFold (ipChecksumPartial [69] (tcpUdpV6HeaderChecksumPartial
        (Vector.replicate 16 0) (Vector.replicate 16 0) 59 0)))).toNat =
          65535 - rfc1071Sum netWord
            (pseudoHeader (Vector.replicate 16 0) (Vector.replicate 16 0) 59 0 ++ [69]) :=
  ipChecksumFold_partial _ _ _ _ [69] (by decide)

end

end Ipv6Helper

end CutieProxy
