import CutieProxy.Lib.Decimal
import CutieProxy.Lib.Memory
import CutieProxy.Net.Inet

/-!
# Subnets

`ip_subnet::from_cidr` reads an address and a prefix number and builds the mask: for IPv4 as a
number in host order that `htonl` turns around, for IPv6 byte by byte. `get_prefix` counts the bits
of the mask in words of the machine and `address_in_subnet` masks such words, so neither looks at
the order of their bytes; a mask whose first `n` bits in network order are set makes both right
(`getPrefix_of_mask`, `addressInSubnet_of_mask`), and `from_cidr` builds that one
(`fromCidr_correct`).

The parsers `RtlIpv4StringToAddressA` and `RtlIpv6StringToAddressA` are a parameter.
-/

namespace CutieProxy

/-- `RtlIpv4StringToAddressA` in strict mode and `RtlIpv6StringToAddressA`, on the characters of a C
string. Where they stopped is not looked at. -/
structure AddressParser where
  stringToAddress : (T : IpFamily) → List UInt8 → Option T.Address

/-- `ip_address_v4::from_string` and `ip_address_v6::from_string`. -/
def AddressParser.fromString (p : AddressParser) (T : IpFamily) (ip : List UInt8) :
    Option T.Address :=
  p.stringToAddress T (ip.takeWhile (· ≠ 0))

/-- `htonl`, which turns the four bytes of a word around. -/
def htonl (x : Nat) : Nat := Memory.ofMemory (Memory.toMemory 4 x).reverse

/-- `S_un.S_addr`. -/
def IpAddressV4.sAddr (a : IpAddressV4) : Nat := Memory.ofMemory a.toBytes

/-- The address of a word in network byte order. -/
def IpAddressV4.ofSAddr (x : Nat) : IpAddressV4 where
  sB1 := UInt8.ofNat (x % 2 ^ 8)
  sB2 := UInt8.ofNat (x / 2 ^ 8 % 2 ^ 8)
  sB3 := UInt8.ofNat (x / 2 ^ 8 / 2 ^ 8 % 2 ^ 8)
  sB4 := UInt8.ofNat (x / 2 ^ 8 / 2 ^ 8 / 2 ^ 8 % 2 ^ 8)

/-- `u.dword[i]`. -/
def dword (a : IpAddressV6) (i : Nat) : Nat := Memory.ofMemory (Memory.field 4 i a.toList)

/-- `u.qword[i]`. -/
def qword (a : IpAddressV6) (i : Nat) : Nat := Memory.ofMemory (Memory.field 8 i a.toList)

/-- `memset` of the first `count` bytes. -/
def memset {n : Nat} (dest : Vector UInt8 n) (value : UInt8) (count : Nat) : Vector UInt8 n :=
  Vector.ofFn fun i => if i.val < count then value else dest[i]

namespace Subnet

/-- `get_prefix`. -/
def getPrefix : {T : IpFamily} → Subnet T → UInt8
  | .v6, s =>
    UInt8.ofNat (Bits.count 32 (dword s.mask 0) + Bits.count 32 (dword s.mask 1) +
      Bits.count 32 (dword s.mask 2) + Bits.count 32 (dword s.mask 3))
  | .v4, s => UInt8.ofNat (Bits.count 32 (IpAddressV4.sAddr s.mask))

/-- `address_in_subnet`. -/
def addressInSubnet : {T : IpFamily} → Subnet T → T.Address → Bool
  | .v6, s, ip =>
    (qword ip 0 &&& qword s.mask 0) == (qword s.address 0 &&& qword s.mask 0) &&
      (qword ip 1 &&& qword s.mask 1) == (qword s.address 1 &&& qword s.mask 1)
  | .v4, s, ip =>
    (IpAddressV4.sAddr ip &&& IpAddressV4.sAddr s.mask) ==
      (IpAddressV4.sAddr s.address &&& IpAddressV4.sAddr s.mask)

/-- The characters before and after the first `'/'`. -/
def splitSlash (subnet : List UInt8) : Option (List UInt8 × List UInt8) :=
  Decimal.splitFirst 47 subnet

/-- `std::from_chars` into a `uint8_t`. -/
def prefixFromChars (text : List UInt8) : Option UInt8 :=
  (Decimal.number 255 (text.map UInt8.toNat)).map UInt8.ofNat

/-- `while (mask--) { net_mask >>= 1; net_mask = net_mask | top; }`. -/
def shiftIn (top : Nat) : Nat → Nat → Nat
  | 0, netMask => netMask
  | mask + 1, netMask => shiftIn top mask (netMask >>> 1 ||| top)

/-- The largest prefix number that is accepted. -/
def width : IpFamily → Nat
  | .v4 => 32
  | .v6 => 128

/-- The mask that `from_cidr` builds for a prefix number. -/
def prefixMask : (T : IpFamily) → Nat → T.Address
  | .v4, mask => IpAddressV4.ofSAddr (htonl (shiftIn 0x80000000 mask 0))
  | .v6, mask =>
    let addressMask : IpAddressV6 := memset (Vector.replicate 16 0) 0xFF (mask / 8)
    let netMask := UInt8.ofNat (shiftIn 0x80 (mask % 8) 0)
    if _h : mask / 8 < 16 then addressMask.set (mask / 8) netMask else addressMask

/-- `255.255.255.255`. -/
def fullText : List UInt8 := [50, 53, 53, 46, 50, 53, 53, 46, 50, 53, 53, 46, 50, 53, 53]

/-- The mask of a subnet without a prefix number. -/
def fullMask (p : AddressParser) : (T : IpFamily) → T.Address
  | .v4 => (p.fromString .v4 fullText).getD default
  | .v6 => Vector.replicate 16 0xFF

/-- `from_cidr`. -/
def fromCidr (p : AddressParser) (T : IpFamily) (subnet : List UInt8) : Option (Subnet T) :=
  match splitSlash subnet with
  | some (ip, text) =>
    match p.fromString T ip with
    | some address =>
      match prefixFromChars text with
      | some mask =>
        if mask.toNat ≤ width T then some ⟨address, prefixMask T mask.toNat⟩ else none
      | none => none
    | none => none
  | none =>
    match p.fromString T subnet with
    | some address => some ⟨address, fullMask p T⟩
    | none => none

/-! ## What a string says -/

/-- The bytes of an address. -/
def memory : {T : IpFamily} → T.Address → List UInt8
  | .v4, a => IpAddressV4.toBytes a
  | .v6, a => Vector.toList a

/-- The bits of an address, in network order. -/
def bits {T : IpFamily} (a : T.Address) : List Bool := Memory.networkBits (memory a)

/-- The address and the prefix number of a string, which is the full width without a slash. -/
def readCidr (p : AddressParser) (T : IpFamily) (subnet : List UInt8) : Option (T.Address × Nat) :=
  match splitSlash subnet with
  | some (ip, text) => do
    let address ← p.fromString T ip
    let mask ← prefixFromChars text
    some (address, mask.toNat)
  | none => (p.fromString T subnet).map fun address => (address, width T)

variable {T : IpFamily} {s : Subnet T} {n v : Nat}

theorem length_memory (a : T.Address) : 8 * (memory a).length = width T := by
  cases T with
  | v4 => rfl
  | v6 => exact congrArg (8 * ·) (Vector.length_toList : a.toList.length = 16)

/-! ## Masks -/

theorem length_bits (a : T.Address) : (bits a).length = width T :=
  Memory.length_networkBits.trans (length_memory a)

/-- A mask of the first `n` bits has `n` bits, also counted in words of the machine. -/
theorem getPrefix_of_mask (hmask : bits s.mask = List.replicate n true ++ List.replicate v false) :
    s.getPrefix.toNat = n := by
  have hcount : (bits s.mask).count true = n := by
    rw [hmask, List.count_append, List.count_replicate_self, List.count_replicate]
    rfl
  have hsmall : n < 2 ^ 8 := by
    have hle : n ≤ width T := by
      rw [← length_bits s.mask, ← hcount]
      exact List.count_le_length
    exact Nat.lt_of_le_of_lt hle (by cases T <;> decide)
  have hwords : s.getPrefix = UInt8.ofNat n := by
    rw [← hcount]
    cases T with
    | v4 => exact congrArg UInt8.ofNat (Memory.count_ofMemory _)
    | v6 =>
      have hlength : (memory s.mask).length = 4 * 4 := Vector.length_toList
      rw [bits, ← Memory.count_fields hlength]
      simp [getPrefix, dword, memory, List.range_succ, Nat.add_assoc]
  rw [hwords, UInt8.toNat_ofNat_of_lt' hsmall]

/-- Words of the machine under a mask of the first `n` bits are the same just when the first `n`
bits of the addresses are. -/
theorem addressInSubnet_of_mask
    (hmask : bits s.mask = List.replicate n true ++ List.replicate v false) (ip : T.Address) :
    s.addressInSubnet ip = true ↔ (bits ip).take n = (bits s.address).take n := by
  have hlength (a : T.Address) : (memory a).length = (memory s.mask).length := by
    have ha := length_memory a
    have hm := length_memory s.mask
    omega
  rw [bits, bits, ← Memory.zipWith_and_eq_iff (hlength ip) (hlength s.address) hmask]
  cases T with
  | v4 =>
    rw [addressInSubnet, beq_iff_eq]
    exact Memory.and_eq_iff (hlength ip) (hlength s.address)
  | v6 =>
    have hsize (a : IpAddressV6) : a.toList.length = 8 * 2 := Vector.length_toList
    refine Iff.trans ?_ (Memory.and_fields_eq_iff (hsize ip) (hsize s.address) (hsize s.mask))
    rw [addressInSubnet, Bool.and_eq_true, beq_iff_eq, beq_iff_eq, Nat.forall_lt_succ_right,
      Nat.forall_lt_succ_right]
    simp [qword, memory]

/-! ## Building a mask -/

/-- The loop shifts in as many bits as it runs. -/
theorem low_shiftIn {w j k v m : Nat}
    (hm : Bits.low (w + 1) m = List.replicate (v + k) false ++ List.replicate j true) :
    Bits.low (w + 1) (shiftIn (2 ^ w) k m) =
      List.replicate v false ++ List.replicate (j + k) true := by
  induction k generalizing j m with
  | zero => exact hm
  | succ k ih =>
    have hstep : Bits.low (w + 1) (m >>> 1 ||| 2 ^ w) =
        List.replicate (v + k) false ++ List.replicate (j + 1) true := by
      rw [Bits.low_shiftIn, hm, ← Nat.add_assoc, List.replicate_succ, List.cons_append,
        List.tail_cons, List.append_assoc, ← List.replicate_succ']
    rw [shiftIn, ih hstep, Nat.add_right_comm, Nat.add_assoc]

theorem high_shiftIn {w k v : Nat} (h : k + v = w + 1) :
    (Bits.low (w + 1) (shiftIn (2 ^ w) k 0)).reverse =
      List.replicate k true ++ List.replicate v false := by
  have hzero : Bits.low (w + 1) 0 = List.replicate (v + k) false ++ List.replicate 0 true := by
    rw [Bits.low_zero, ← h, Nat.add_comm]
    exact (List.append_nil _).symm
  rw [low_shiftIn hzero, List.reverse_append, List.reverse_replicate, List.reverse_replicate,
    Nat.zero_add]

theorem toBytes_ofSAddr (x : Nat) : (IpAddressV4.ofSAddr x).toBytes = Memory.toMemory 4 x := rfl

/-- The memory of a word after `htonl` is the word, high byte first. -/
theorem bits_ofSAddr_htonl (x : Nat) :
    Memory.networkBits (IpAddressV4.ofSAddr (htonl x)).toBytes = (Bits.low 32 x).reverse := by
  have hlength : (Memory.toMemory 4 x).reverse.length = 4 := by
    rw [List.length_reverse, Memory.length_toMemory]
  have hmemory := Memory.toMemory_ofMemory (Memory.toMemory 4 x).reverse
  rw [hlength] at hmemory
  rw [toBytes_ofSAddr, htonl, hmemory, Memory.networkBits_reverse]

/-- The bytes of an IPv6 mask, with one that is not all ones or zeros. -/
theorem toList_memset_set {q t : Nat} (b : UInt8) (h : q + (1 + t) = 16) :
    ((memset (Vector.replicate 16 (0 : UInt8)) 0xFF q).set q b (by omega)).toList =
      List.replicate q 0xFF ++ (b :: List.replicate t 0) := by
  refine List.ext_getElem ?_ fun i hi _ => ?_
  · rw [Vector.length_toList, List.length_append, List.length_cons, List.length_replicate,
      List.length_replicate]
    omega
  · simp only [Vector.getElem_toList, Vector.getElem_set, memset, Vector.getElem_ofFn,
      Fin.getElem_fin, Vector.getElem_replicate, List.getElem_append, List.length_replicate,
      List.getElem_cons, List.getElem_replicate]
    split_ifs <;> first | rfl | omega

theorem toList_memset {n : Nat} (dest : Vector UInt8 n) (b : UInt8) :
    (memset dest b n).toList = List.replicate n b := by
  refine List.ext_getElem ?_ fun i hi _ => ?_
  · rw [Vector.length_toList, List.length_replicate]
  · rw [Vector.length_toList] at hi
    simp only [Vector.getElem_toList, memset, Vector.getElem_ofFn, List.getElem_replicate,
      if_pos hi]

theorem bits_prefixMask_v6 {q r t : Nat} (hsize : q + (1 + t) = 16) (hr : r < 8) :
    bits (prefixMask .v6 (8 * q + r)) =
      List.replicate (8 * q + r) true ++ List.replicate (8 - r + 8 * t) false := by
  have hdiv : (8 * q + r) / 8 = q := by omega
  have hmod : (8 * q + r) % 8 = r := by omega
  have hlast : (Bits.low 8 (UInt8.ofNat (shiftIn 0x80 r 0)).toNat).reverse =
      List.replicate r true ++ List.replicate (8 - r) false := by
    rw [UInt8.toNat_ofNat', Bits.low_mod]
    exact high_shiftIn (w := 7) (by omega)
  have hmemory : memory (T := .v6) (prefixMask .v6 (8 * q + r)) =
      List.replicate q 0xFF ++ UInt8.ofNat (shiftIn 0x80 r 0) :: List.replicate t 0 := by
    rw [prefixMask]
    simp only [hdiv, hmod, dif_pos (show q < 16 by omega)]
    exact toList_memset_set _ hsize
  rw [bits, hmemory, Memory.networkBits_append, Memory.networkBits_cons, hlast,
    Memory.networkBits_replicate (v := true) rfl, Memory.networkBits_replicate (v := false) rfl,
    List.append_assoc, List.replicate_append_replicate, ← List.append_assoc,
    List.replicate_append_replicate]

theorem bits_prefixMask (h : n ≤ width T) :
    bits (prefixMask T n) = List.replicate n true ++ List.replicate (width T - n) false := by
  cases T with
  | v4 =>
    have hsum : n + (32 - n) = 31 + 1 := Nat.add_sub_cancel' h
    exact (bits_ofSAddr_htonl _).trans (high_shiftIn hsum)
  | v6 =>
    have hn : n = 8 * (n / 8) + n % 8 := (Nat.div_add_mod n 8).symm
    have hn128 : n ≤ 128 := h
    rcases Nat.lt_or_ge (n / 8) 16 with hq | hq
    · have hbits := bits_prefixMask_v6 (q := n / 8) (r := n % 8) (t := 15 - n / 8) (by omega)
        (Nat.mod_lt n (by omega))
      rw [← hn] at hbits
      have hzeros : 8 - n % 8 + 8 * (15 - n / 8) = 128 - n := by omega
      rw [hbits, hzeros, width]
    · have hn16 : n = 128 := by omega
      have hmemory : memory (T := .v6) (prefixMask .v6 128) = List.replicate 16 0xFF :=
        toList_memset _ _
      rw [hn16, bits, hmemory, Memory.networkBits_replicate (v := true) rfl]
      rfl

/-- The mask of the full width. -/
theorem bits_fullMask {p : AddressParser}
    (hfull : p.stringToAddress .v4 fullText = some ⟨255, 255, 255, 255⟩) :
    bits (fullMask p T) = List.replicate (width T) true ++ List.replicate 0 false := by
  cases T with
  | v4 =>
    have haddress : fullMask p .v4 = (⟨255, 255, 255, 255⟩ : IpAddressV4) := by
      rw [fullMask, AddressParser.fromString]
      exact congrArg (Option.getD · default) hfull
    rw [haddress]
    rfl
  | v6 =>
    have hmemory : memory (T := .v6) (fullMask p .v6) = List.replicate 16 0xFF :=
      Vector.toList_replicate
    rw [bits, hmemory, Memory.networkBits_replicate (v := true) rfl]
    rfl

/-- Of a subnet that `from_cidr` accepts, the prefix is the number of the string, and the addresses
in it are those with the same first bits as the address of the string. -/
theorem fromCidr_correct {p : AddressParser} {subnet : List UInt8}
    (hfull : p.stringToAddress .v4 fullText = some ⟨255, 255, 255, 255⟩)
    (h : fromCidr p T subnet = some s) :
    ∃ address n, readCidr p T subnet = some (address, n) ∧ s.getPrefix.toNat = n ∧
      ∀ ip, s.addressInSubnet ip = true ↔ (bits ip).take n = (bits address).take n := by
  have hmask {address mask : T.Address} {n v : Nat}
      (hbits : bits mask = List.replicate n true ++ List.replicate v false) :
      (Subnet.mk address mask).getPrefix.toNat = n ∧
        ∀ ip, (Subnet.mk address mask).addressInSubnet ip = true ↔
          (bits ip).take n = (bits address).take n :=
    ⟨getPrefix_of_mask hbits, addressInSubnet_of_mask hbits⟩
  rw [fromCidr] at h
  split at h
  · next ip text hsplit =>
    split at h
    · next address haddress =>
      split at h
      · next mask hnumber =>
        split at h
        · next hwidth =>
          cases h
          refine ⟨address, mask.toNat, ?_, hmask (bits_prefixMask hwidth)⟩
          rw [readCidr, hsplit]
          dsimp only
          rw [haddress, hnumber]
          rfl
        · cases h
      · cases h
    · cases h
  · next hsplit =>
    split at h
    · next address haddress =>
      cases h
      refine ⟨address, width T, ?_, hmask (bits_fullMask hfull)⟩
      rw [readCidr, hsplit]
      dsimp only
      rw [haddress]
      rfl
    · cases h

/-- A parser of the dotted quads `10.0.0.1` and `255.255.255.255`. -/
def quadParser : AddressParser where
  stringToAddress
    | .v4, s =>
      if s = [49, 48, 46, 48, 46, 48, 46, 49] then some ⟨10, 0, 0, 1⟩
      else if s = fullText then some ⟨255, 255, 255, 255⟩
      else none
    | .v6, _ => none

/-- `10.0.0.1/8`. -/
def tenSlashEight : List UInt8 := [49, 48, 46, 48, 46, 48, 46, 49, 47, 56]

/-- The subnet of `10.0.0.1/8`. -/
def tenSubnet : Subnet .v4 where
  address := ⟨10, 0, 0, 1⟩
  mask := ⟨255, 0, 0, 0⟩

theorem fromCidr_correct_ten :
    ∃ address n, readCidr quadParser .v4 tenSlashEight = some (address, n) ∧
      tenSubnet.getPrefix.toNat = n ∧
      ∀ ip, tenSubnet.addressInSubnet ip = true ↔ (bits ip).take n = (bits address).take n :=
  fromCidr_correct rfl (by decide)

end Subnet

end CutieProxy
