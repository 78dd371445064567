import CutieProxy.Net.Packet

/-!
# The bytes of a rewritten frame

The rewriting of a packet is a sequence of writes at the offsets of its headers. A byte of the
result is found by going back through them: each write has a lemma for the bytes it leaves, with a
side condition on the offset, and one for the field it writes.

The checksums are recalculated by the driver's library. `CNdisApi.Recalculates` is what is relied on
of that, and `CNdisApi.internet` a library that computes the checksums of the Internet protocols.
-/

namespace CutieProxy

/-! ## Words in memory -/

/-- The word whose memory is that of `x` is `x`. -/
theorem word16_leBytes (x : UInt16) :
    word16 (UInt8.ofNat (x.toNat % 256)) (UInt8.ofNat (x.toNat / 256)) = x := by
  apply UInt16.toNat.inj
  have := x.toNat_lt
  simp only [word16, UInt16.toNat_ofNat', UInt8.toNat_ofNat']
  omega

/-- The memory of the word whose memory is `lo`, `hi`. -/
theorem leBytes_word16 (lo hi : UInt8) : leBytes (word16 lo hi) = [lo, hi] := by
  have hlo := lo.toNat_lt
  have hhi := hi.toNat_lt
  have hlow : (lo.toNat + 256 * hi.toNat) % 256 = lo.toNat := by omega
  have hhigh : (lo.toNat + 256 * hi.toNat) / 256 = hi.toNat := by omega
  rw [leBytes, toNat_word16, hlow, hhigh, UInt8.ofNat_toNat, UInt8.ofNat_toNat]

/-- The word whose memory is `x`, high byte first, is `x` in network order. -/
theorem word16_beBytes (x : UInt16) :
    word16 (UInt8.ofNat (x.toNat / 256)) (UInt8.ofNat (x.toNat % 256)) = htons x := by
  apply UInt16.toNat.inj
  have hx := x.toNat_lt
  have hhigh : x.toNat / 256 % 2 ^ 8 = x.toNat / 256 := Nat.mod_eq_of_lt (by omega)
  have hlow : x.toNat % 256 % 2 ^ 8 = x.toNat % 256 := Nat.mod_eq_of_lt (by omega)
  rw [word16, toNat_htons, UInt16.toNat_ofNat', UInt8.toNat_ofNat', UInt8.toNat_ofNat', hhigh, hlow]
  exact Nat.mod_eq_of_lt (by omega)

/-- Adding to a 16-bit number in host order, without overflow. -/
theorem toNat_ntohs_htons_add {x n : UInt16} (h : (ntohs x).toNat + n.toNat < 65536) :
    (ntohs (htons (ntohs x + n))).toNat = (ntohs x).toNat + n.toNat := by
  rw [ntohs_htons, UInt16.toNat_add]
  exact Nat.mod_eq_of_lt h

namespace IntermediateBuffer

variable {p q : IntermediateBuffer} {o i : Nat}

/-! ## Fields of a datagram and a segment -/

/-- The port and address a packet comes from. -/
def source (p : IntermediateBuffer) : IpEndpoint IpAddressV4 := ⟨p.ipSrc, p.thSport, none⟩

/-- The port and address a packet goes to. -/
def destination (p : IntermediateBuffer) : IpEndpoint IpAddressV4 := ⟨p.ipDst, p.thDport, none⟩

theorem source_eq_iff {a : IpAddressV4} {x : UInt16} :
    p.source = ⟨a, x, none⟩ ↔ p.ipSrc = a ∧ p.thSport = x := by
  simp [source]

theorem destination_eq_iff {b : IpAddressV4} {y : UInt16} :
    p.destination = ⟨b, y, none⟩ ↔ p.ipDst = b ∧ p.thDport = y := by
  simp [destination]

/-- `ip_len`, in host order. -/
def totalLength (p : IntermediateBuffer) : Nat := (ntohs p.ipLen).toNat

/-- `udphdr::length`, in host order. -/
def udpLength (p : IntermediateBuffer) : Nat := (ntohs (p.read16 (p.transport + 4))).toNat

/-- The offset of the payload of a datagram. -/
def udpPayload (p : IntermediateBuffer) : Nat := p.transport + 8

/-- The bytes from one offset up to another. -/
def slice (p : IntermediateBuffer) (start stop : Nat) : List UInt8 :=
  (List.range' start (stop - start)).map p.mIBuffer

/-- The payload of a datagram: as many bytes as its length says, up to the end of the frame. -/
def payload (p : IntermediateBuffer) : List UInt8 :=
  p.slice p.udpPayload (min (p.transport + p.udpLength) p.mLength.toNat)

/-! ## Reading through writes -/

/-- A field is determined by its two bytes. -/
theorem read16_congr (h₀ : q.mIBuffer o = p.mIBuffer o)
    (h₁ : q.mIBuffer (o + 1) = p.mIBuffer (o + 1)) : q.read16 o = p.read16 o := by
  rw [read16, read16, h₀, h₁]

/-- An address is determined by its four bytes. -/
theorem readAddress_congr {o' : Nat} (h : ∀ i < 4, q.mIBuffer (o + i) = p.mIBuffer (o' + i)) :
    q.readAddress o = p.readAddress o' := by
  have h₀ := h 0 (by decide)
  have h₁ := h 1 (by decide)
  have h₂ := h 2 (by decide)
  have h₃ := h 3 (by decide)
  rw [Nat.add_zero, Nat.add_zero] at h₀
  rw [readAddress, readAddress, h₀, h₁, h₂, h₃]

@[simp] theorem write_mLength (bytes : List UInt8) : (p.write o bytes).mLength = p.mLength := rfl

@[simp] theorem write16_mLength (x : UInt16) : (p.write16 o x).mLength = p.mLength := rfl

@[simp] theorem memmove_mLength (d s n : Nat) : (p.memmove d s n).mLength = p.mLength := rfl

@[simp] theorem swapEthernetAddresses_mLength : p.swapEthernetAddresses.mLength = p.mLength := rfl

@[simp] theorem swapIpAddresses_mLength : p.swapIpAddresses.mLength = p.mLength := rfl

theorem write_apart {bytes : List UInt8} (h : i < o ∨ o + bytes.length ≤ i) :
    (p.write o bytes).mIBuffer i = p.mIBuffer i := Store.write_of_notMem _ h

theorem write_at {bytes : List UInt8} {x : UInt8} (h : bytes[i]? = some x) :
    (p.write o bytes).mIBuffer (o + i) = x := by
  simp [write, Store.write, h]

theorem write16_apart {x : UInt16} (h : i < o ∨ o + 2 ≤ i) :
    (p.write16 o x).mIBuffer i = p.mIBuffer i := write_apart h

/-- A field reads as what was written to it. -/
@[simp] theorem read16_write16 (x : UInt16) : (p.write16 o x).read16 o = x := by
  have h₀ : (p.write16 o x).mIBuffer (o + 0) = UInt8.ofNat (x.toNat % 256) := write_at rfl
  have h₁ : (p.write16 o x).mIBuffer (o + 1) = UInt8.ofNat (x.toNat / 256) := write_at rfl
  rw [Nat.add_zero] at h₀
  rw [read16, h₀, h₁]
  exact word16_leBytes x

theorem memmove_apart {d s n : Nat} (h : i < d ∨ d + n ≤ i) :
    (p.memmove d s n).mIBuffer i = p.mIBuffer i := by
  show (if d ≤ i ∧ i < d + n then _ else _) = _
  rw [if_neg (by omega)]

theorem memmove_at {d s n : Nat} (h : i < n) :
    (p.memmove d s n).mIBuffer (d + i) = p.mIBuffer (s + i) := by
  show (if d ≤ d + i ∧ d + i < d + n then p.mIBuffer (s + (d + i - d)) else _) = _
  rw [if_pos (by omega), Nat.add_sub_cancel_left]

theorem swapEthernetAddresses_apart (h : 12 ≤ i) :
    p.swapEthernetAddresses.mIBuffer i = p.mIBuffer i := by
  unfold swapEthernetAddresses
  rw [write_apart (by simp; omega), write_apart (by simp; omega)]

theorem swapEthernetAddresses_dest (h : i < 6) :
    p.swapEthernetAddresses.mIBuffer i = p.mIBuffer (i + 6) := by
  unfold swapEthernetAddresses
  rw [write_apart (.inl h), ← Nat.zero_add i, Nat.add_comm (0 + i) 6]
  exact write_at (by simp [h])

theorem swapEthernetAddresses_source (h : i < 6) :
    p.swapEthernetAddresses.mIBuffer (i + 6) = p.mIBuffer i := by
  unfold swapEthernetAddresses
  rw [Nat.add_comm i 6]
  exact write_at (by simp [h])

theorem swapIpAddresses_apart (h : i < 26 ∨ 34 ≤ i) :
    p.swapIpAddresses.mIBuffer i = p.mIBuffer i := by
  unfold swapIpAddresses
  have hlength : ∀ a : IpAddressV4, a.toBytes.length = 4 := fun _ => rfl
  have hoffset : etherHeaderLength = 14 := rfl
  rw [write_apart (by rw [hlength]; omega), write_apart (by rw [hlength]; omega)]

@[simp] theorem ipSrc_swapIpAddresses : p.swapIpAddresses.ipSrc = p.ipDst := rfl

@[simp] theorem ipDst_swapIpAddresses : p.swapIpAddresses.ipDst = p.ipSrc := rfl

/-- The addresses of a packet that goes back to where it comes from. -/
theorem ipSrc_swapAddresses : p.swapEthernetAddresses.swapIpAddresses.ipSrc = p.ipDst :=
  ipSrc_swapIpAddresses.trans (readAddress_congr fun i hi => swapEthernetAddresses_apart (by omega))

theorem ipDst_swapAddresses : p.swapEthernetAddresses.swapIpAddresses.ipDst = p.ipSrc :=
  ipDst_swapIpAddresses.trans (readAddress_congr fun i hi => swapEthernetAddresses_apart (by omega))

/-- An address reads as what was written to it. -/
@[simp] theorem readAddress_write (a : IpAddressV4) :
    (p.write o a.toBytes).readAddress o = a := by
  have h₀ : (p.write o a.toBytes).mIBuffer (o + 0) = a.sB1 := write_at rfl
  have h₁ : (p.write o a.toBytes).mIBuffer (o + 1) = a.sB2 := write_at rfl
  have h₂ : (p.write o a.toBytes).mIBuffer (o + 2) = a.sB3 := write_at rfl
  have h₃ : (p.write o a.toBytes).mIBuffer (o + 3) = a.sB4 := write_at rfl
  rw [Nat.add_zero] at h₀
  rw [readAddress, h₀, h₁, h₂, h₃]

/-! ## Slices -/

@[simp] theorem length_slice {start stop : Nat} : (p.slice start stop).length = stop - start := by
  simp [slice]

theorem slice_congr {start stop : Nat}
    (h : ∀ i, start ≤ i → i < stop → q.mIBuffer i = p.mIBuffer i) :
    q.slice start stop = p.slice start stop := by
  refine List.map_congr_left fun i hi => ?_
  rw [List.mem_range'_1] at hi
  exact h i hi.1 (by omega)

/-- What was written is read. -/
theorem slice_write (bytes : List UInt8) :
    (p.write o bytes).slice o (o + bytes.length) = bytes := by
  rw [slice, Nat.add_sub_cancel_left]
  exact Store.map_write_self _ _ _

/-- The bytes of an address. -/
theorem slice_readAddress : p.slice o (o + 4) = (p.readAddress o).toBytes := by
  rw [slice, Nat.add_sub_cancel_left]
  rfl

/-- The bytes of a field. -/
theorem slice_read16 : p.slice o (o + 2) = leBytes (p.read16 o) := by
  rw [slice, Nat.add_sub_cancel_left, read16, leBytes_word16]
  rfl

/-- A byte of a slice. -/
theorem mIBuffer_of_slice {start stop : Nat} {bytes : List UInt8} {x : UInt8}
    (h : p.slice start stop = bytes) (hx : bytes[i]? = some x) : p.mIBuffer (start + i) = x := by
  subst h
  obtain ⟨hlt, hget⟩ := List.getElem?_eq_some_iff.mp hx
  simpa [slice] using hget

/-- Two frames that hold the same bytes, at different places, have the same slice. -/
theorem slice_eq_slice {start start' n : Nat}
    (h : ∀ i < n, q.mIBuffer (start + i) = p.mIBuffer (start' + i)) :
    q.slice start (start + n) = p.slice start' (start' + n) := by
  refine List.ext_getElem (by simp) fun i hi _ => ?_
  have hlt : i < n := by simpa using hi
  simpa [slice] using h i hlt

/-- A slice splits at any offset in it. -/
theorem slice_append {start stop : Nat} (mid : Nat) (h₁ : start ≤ mid) (h₂ : mid ≤ stop) :
    p.slice start stop = p.slice start mid ++ p.slice mid stop := by
  have hmid : mid = start + (mid - start) := by omega
  have hlength : stop - start = mid - start + (stop - mid) := by omega
  unfold slice
  rw [hlength, ← List.range'_append_1, List.map_append, ← hmid]

/-! ## Frames -/

section Frames

variable (protocol : UInt8) (src dst : IpAddressV4) (flagsAndOffset : UInt16) (body : List UInt8)

@[simp] theorem ipv4Frame_ipSrc : (ipv4Frame protocol src dst flagsAndOffset body).ipSrc = src :=
  rfl

@[simp] theorem ipv4Frame_ipDst : (ipv4Frame protocol src dst flagsAndOffset body).ipDst = dst :=
  rfl

@[simp] theorem ipv4Frame_hProto :
    (ipv4Frame protocol src dst flagsAndOffset body).hProto = htons ethPIp := word16_beBytes _

@[simp] theorem ipv4Frame_ipLen :
    (ipv4Frame protocol src dst flagsAndOffset body).ipLen =
      htons (UInt16.ofNat (20 + body.length)) := word16_beBytes _

@[simp] theorem ipv4Frame_ipOff :
    (ipv4Frame protocol src dst flagsAndOffset body).ipOff = htons flagsAndOffset :=
  word16_beBytes _

@[simp] theorem ipv4Frame_ipHl : (ipv4Frame protocol src dst flagsAndOffset body).ipHl = 5 := by
  have hbyte : (ipv4Frame protocol src dst flagsAndOffset body).mIBuffer etherHeaderLength = 0x45 :=
    rfl
  rw [ipHl, hbyte]
  rfl

@[simp] theorem ipv4Frame_transport :
    (ipv4Frame protocol src dst flagsAndOffset body).transport = 34 := by
  rw [transport, ipv4Frame_ipHl]
  rfl

theorem ipv4Frame_isIpv4 : (ipv4Frame protocol src dst flagsAndOffset body).IsIpv4 protocol :=
  ⟨by rw [ipv4Frame_hProto, ntohs_htons], rfl⟩

end Frames

end IntermediateBuffer

/-! ## Checksums -/

namespace CNdisApi

open IntermediateBuffer

/-- A function that changes nothing but the bytes in `written`. -/
structure WritesOnly (written : IntermediateBuffer → Nat → Prop)
    (f : IntermediateBuffer → IntermediateBuffer) : Prop where
  length : ∀ p, (f p).mLength = p.mLength
  byte : ∀ p i, ¬ written p i → (f p).mIBuffer i = p.mIBuffer i

/-- `tcphdr::th_sum`, and what comes after the packet: a segment of odd length may be padded. -/
def tcpSum (p : IntermediateBuffer) (i : Nat) : Prop :=
  (p.transport + 16 ≤ i ∧ i < p.transport + 18) ∨ etherHeaderLength + p.totalLength ≤ i

/-- `udphdr::th_sum`, and what comes after the datagram: one of odd length may be padded. -/
def udpSum (p : IntermediateBuffer) (i : Nat) : Prop :=
  (p.transport + 6 ≤ i ∧ i < p.transport + 8) ∨ p.transport + p.udpLength ≤ i

/-- `iphdr::ip_sum`. -/
def ipSum (_ : IntermediateBuffer) (i : Nat) : Prop := 24 ≤ i ∧ i < 26

/-- The library recalculates checksums, and changes nothing else of a packet. -/
structure Recalculates (api : CNdisApi) : Prop where
  tcp : WritesOnly tcpSum api.recalculateTCPChecksum
  udp : WritesOnly udpSum api.recalculateUDPChecksum
  ip : WritesOnly ipSum api.recalculateIPChecksum

/-! ### The Internet checksum -/

/-- The sum of the 16-bit words of some bytes, high bytes first; a last byte alone is padded. -/
def wordSum : List UInt8 → Nat
  | hi :: lo :: rest => 256 * hi.toNat + lo.toNat + wordSum rest
  | [hi] => 256 * hi.toNat
  | [] => 0

/-- The complement of the one's complement sum of some bytes. -/
def checksum (bytes : List UInt8) : UInt16 :=
  let sum := wordSum bytes
  UInt16.ofNat (65535 - if sum = 0 then 0 else (sum - 1) % 65535 + 1)

/-- Recalculates the checksum at the offset `field`, over a pseudo-header and a slice. -/
def recalculate (field start stop : Nat) (pseudoHeader : List UInt8) (p : IntermediateBuffer) :
    IntermediateBuffer :=
  let cleared := p.write16 field 0
  cleared.write16 field (htons (checksum (pseudoHeader ++ cleared.slice start stop)))

/-- The pseudo-header of a segment. -/
def pseudoHeader (length : Nat) (p : IntermediateBuffer) : List UInt8 :=
  p.ipSrc.toBytes ++ p.ipDst.toBytes ++ [0, p.ipP] ++ beBytes (UInt16.ofNat length)

/-- A library that recalculates the checksums of TCP, UDP and IP. -/
def internet : CNdisApi where
  recalculateTCPChecksum p :=
    recalculate (p.transport + 16) p.transport (etherHeaderLength + p.totalLength)
      (pseudoHeader (p.totalLength - 4 * p.ipHl) p) p
  recalculateUDPChecksum p :=
    recalculate (p.transport + 6) p.transport (p.transport + p.udpLength)
      (pseudoHeader p.udpLength p) p
  recalculateIPChecksum p := recalculate 24 etherHeaderLength p.transport [] p
  maxEtherFrame := 1514

theorem recalculate_writesOnly {written : IntermediateBuffer → Nat → Prop}
    {field start stop : IntermediateBuffer → Nat} {header : IntermediateBuffer → List UInt8}
    (h : ∀ p i, field p ≤ i → i < field p + 2 → written p i) :
    WritesOnly written fun p => recalculate (field p) (start p) (stop p) (header p) p := by
  refine ⟨fun _ => rfl, fun p i hi => ?_⟩
  have hapart : i < field p ∨ field p + 2 ≤ i := by
    rcases Nat.lt_or_ge i (field p) with hlt | hge
    · exact .inl hlt
    · exact .inr (Nat.not_lt.mp fun hlt => hi (h p i hge hlt))
  unfold recalculate
  dsimp only
  rw [write16_apart hapart, write16_apart hapart]

theorem internet_recalculates : internet.Recalculates where
  tcp := recalculate_writesOnly fun _ _ hge hlt => .inl ⟨hge, hlt⟩
  udp := recalculate_writesOnly fun _ _ hge hlt => .inl ⟨hge, hlt⟩
  ip := recalculate_writesOnly fun _ _ hge hlt => ⟨hge, hlt⟩

end CNdisApi

end CutieProxy
