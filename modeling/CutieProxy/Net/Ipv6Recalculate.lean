import CutieProxy.Net.FrameBytes
import CutieProxy.Net.Ipv6Checksum
import CutieProxy.Net.Ipv6Headers

/-!
# Recalculating the checksum of an IPv6 packet

`recalculate_tcp_udp_checksum` clears the checksum of the transport header, sums up the
pseudo-header and the segment, and stores the complement. The receiver then sums up to all ones
whatever the segment is. A complement of zero is stored as it is, which in a datagram means that
there is no checksum. The packets are those with any extension headers but a routing header
(`ExtensionChain`); behind one that `find_transport_header` does not know nothing is recalculated.
`verifies_iff` says for which packets the checksum is right afterwards.
-/

namespace CutieProxy

open Ipv6Helper

/-- `IPPROTO_ICMPV6`. -/
def ipprotoIcmpv6 : UInt8 := 58

namespace IntermediateBuffer

variable {p q : IntermediateBuffer} {header start : Nat} {protocol : UInt8} {value : UInt16}

/-! ## The source -/

/-- The memory of the packet in a frame. -/
def ipv6Header (p : IntermediateBuffer) : PacketMemory := fun i =>
  p.mIBuffer (etherHeaderLength + i)

/-- The IPv6 address at an offset. -/
def readAddressV6 (p : IntermediateBuffer) (offset : Nat) : IpAddressV6 :=
  Vector.ofFn fun i => p.mIBuffer (offset + i)

/-- `ipv6hdr::ip6_len`. -/
def ip6Len (p : IntermediateBuffer) : UInt16 := p.read16 (etherHeaderLength + 4)

/-- `ipv6hdr::ip6_src`. -/
def ip6Src (p : IntermediateBuffer) : IpAddressV6 := p.readAddressV6 (etherHeaderLength + 8)

/-- `ipv6hdr::ip6_dst`. -/
def ip6Dst (p : IntermediateBuffer) : IpAddressV6 := p.readAddressV6 (etherHeaderLength + 24)

/-- The offset of the checksum in a transport header: that of `tcphdr::th_sum`, `udphdr::th_sum`
and `icmpv6hdr::checksum`. -/
def checksumOffset (protocol : UInt8) : Option Nat :=
  if protocol = ipprotoTcp then some 16
  else if protocol = ipprotoUdp then some 6
  else if protocol = ipprotoIcmpv6 then some 2
  else none

/-- Stores the checksum of the transport header at an offset. -/
def setChecksum (start : Nat) (protocol : UInt8) (value : UInt16) (p : IntermediateBuffer) :
    IntermediateBuffer :=
  match checksumOffset protocol with
  | some field => p.write16 (start + field) value
  | none => p

/-- `recalculate_tcp_udp_checksum`. -/
def recalculateTcpUdpChecksum (p : IntermediateBuffer) : IntermediateBuffer :=
  match ((findTransportHeader (p.mLength - UInt32.ofNat etherHeaderLength)).run
    p.ipv6Header).value with
  | (none, _) => p
  | (some header, protocol) =>
    let start := etherHeaderLength + header
    let cleared := p.setChecksum start protocol 0
    let len := p.mLength - UInt32.ofNat start
    let checksum := tcpUdpV6Checksum cleared.ip6Src cleared.ip6Dst protocol
      (cleared.slice start (start + len.toNat)) len
    cleared.setChecksum start protocol checksum

/-! ## What the receiver does -/

/-- The size of a transport header, without options. -/
def transportSize (protocol : UInt8) : Option Nat :=
  if protocol = ipprotoTcp then some 20
  else if protocol = ipprotoUdp then some 8
  else if protocol = ipprotoIcmpv6 then some 4
  else none

/-- The authentication header. -/
def ipprotoAh : UInt8 := 51

/-- The extension headers other than a routing header whose length is in units of eight bytes after
the first eight: hop-by-hop options, destination options, mobility, host identity, shim6 and the two
for experiments. -/
def optionHeaders : List UInt8 := [ipprotoHopopts, ipprotoDstopts, 135, 139, 140, 253, 254]

/-- The size of an extension header other than a routing header. -/
def extensionSize (m : PacketMemory) (offset : Nat) (proto : UInt8) : Option Nat :=
  if proto = ipprotoFragment then some 8
  else if proto = ipprotoAh then some (4 * ((m (offset + 1)).toNat + 2))
  else if proto ∈ optionHeaders then some (8 + (m (offset + 1)).toNat * 8)
  else none

/-- The fragment header is that of a packet that is not in fragments: the offset is 0, and no
fragment follows. -/
def IsWhole (m : PacketMemory) (offset : Nat) : Prop :=
  fragmentOffset m offset = 0 ∧ (m (offset + 3)).toNat % 2 = 0

/-- Extension headers lead from a header to another. -/
inductive ExtensionChain (m : PacketMemory) : Nat → UInt8 → Nat → UInt8 → Prop
  | last {offset proto} : ExtensionChain m offset proto offset proto
  | next {offset proto size header protocol} : extensionSize m offset proto = some size →
      (proto = ipprotoFragment → IsWhole m offset) →
      ExtensionChain m (offset + size) (m offset) header protocol →
      ExtensionChain m offset proto header protocol

/-- The frame of an unfragmented IPv6 packet without padding, whose extension headers end at a
complete transport header. -/
structure CarriesSegment (p : IntermediateBuffer) (header : Nat) (protocol : UInt8) : Prop where
  version : IsIpv6 p.ipv6Header
  chain : ExtensionChain p.ipv6Header 40 (p.ipv6Header 6) header protocol
  complete : ∃ size ∈ transportSize protocol,
    etherHeaderLength + header + size ≤ p.mLength.toNat
  unpadded : p.mLength.toNat = etherHeaderLength + 40 + (ntohs p.ip6Len).toNat

/-- The length of the segment, from the length field of the packet. -/
def segmentLength (p : IntermediateBuffer) (header : Nat) : Nat :=
  40 + (ntohs p.ip6Len).toNat - header

/-- The bytes the receiver sums up: the pseudo-header and the segment. -/
def summed (p : IntermediateBuffer) (header : Nat) (protocol : UInt8) : List UInt8 :=
  pseudoHeader p.ip6Src p.ip6Dst protocol (UInt32.ofNat (p.segmentLength header)) ++
    p.slice (etherHeaderLength + header) (etherHeaderLength + header + p.segmentLength header)

/-- The packet verifies at the receiver, and is no datagram without a checksum. -/
structure HasChecksum (p : IntermediateBuffer) (header : Nat) (protocol : UInt8) : Prop where
  sum : rfc1071Sum netWord (p.summed header protocol) = 65535
  datagram : protocol = ipprotoUdp → p.read16 (etherHeaderLength + header + 6) ≠ 0

/-- The frame `q` is `p` with a checksum that verifies. -/
structure Verifies (p q : IntermediateBuffer) (header : Nat) (protocol : UInt8) : Prop where
  checksum : q.HasChecksum header protocol
  length : q.mLength = p.mLength
  bytes : ∀ field ∈ checksumOffset protocol, ∀ i,
    i < etherHeaderLength + header + field ∨ etherHeaderLength + header + field + 2 ≤ i →
      q.mIBuffer i = p.mIBuffer i

/-- The headers that `find_transport_header` knows lead to the transport header. -/
def Reaches (p : IntermediateBuffer) (header : Nat) (protocol : UInt8) : Prop :=
  afterHeaders p.ipv6Header (p.mLength.toNat - etherHeaderLength) = (header, protocol)

/-- The 16-bit words the receiver sums up where the checksum of the datagram is cleared. -/
def clearedTotal (p : IntermediateBuffer) (header : Nat) (protocol : UInt8) : Nat :=
  (words16 netWord
    ((p.setChecksum (etherHeaderLength + header) protocol 0).summed header protocol)).sum

/-! ## The sum with a checksum in it -/

/-- The checksum is in the transport header, behind an even number of bytes. -/
theorem checksumOffset_of_size {size : Nat} (h : size ∈ transportSize protocol) :
    ∃ field, checksumOffset protocol = some field ∧ field + 2 ≤ size ∧ 2 ∣ field ∧
      4 ≤ size ∧ protocol ≠ ipprotoFragment ∧ (protocol = ipprotoUdp → field = 6) := by
  unfold transportSize at h
  split at h
  · next heq =>
    cases h
    rw [heq]
    exact ⟨16, rfl, by decide⟩
  · split at h
    · next heq =>
      cases h
      rw [heq]
      exact ⟨6, rfl, by decide⟩
    · split at h
      · next heq =>
        cases h
        rw [heq]
        exact ⟨2, rfl, by decide⟩
      · cases h

section Write
variable {place : Nat} (value : UInt16)

/-- A write into the segment leaves the addresses of the packet. -/
theorem readAddressV6_write16 {offset : Nat} (h : offset + 16 ≤ place) :
    (p.write16 place value).readAddressV6 offset = p.readAddressV6 offset := by
  unfold readAddressV6
  congr 1
  funext i
  exact write16_apart (.inl (by omega))

theorem ip6Src_write16 (h : 54 ≤ place) : (p.write16 place value).ip6Src = p.ip6Src :=
  readAddressV6_write16 value (by have : etherHeaderLength = 14 := rfl; omega)

theorem ip6Dst_write16 (h : 54 ≤ place) : (p.write16 place value).ip6Dst = p.ip6Dst :=
  readAddressV6_write16 value (by have : etherHeaderLength = 14 := rfl; omega)

theorem segmentLength_write16 (h : 54 ≤ place) (header : Nat) :
    (p.write16 place value).segmentLength header = p.segmentLength header := by
  have hlen : (p.write16 place value).ip6Len = p.ip6Len :=
    read16_congr (write16_apart (.inl (by have : etherHeaderLength = 14 := rfl; omega)))
      (write16_apart (.inl (by have : etherHeaderLength = 14 := rfl; omega)))
  rw [segmentLength, segmentLength, hlen]

/-- The word at an offset is one of the words summed up. -/
theorem sum_slice (before : List UInt8) (stop : Nat) (hbefore : 2 ∣ before.length)
    (hstart : start ≤ place) (heven : 2 ∣ place - start) (hstop : place + 2 ≤ stop) :
    (words16 hostWord (before ++ p.slice start stop)).sum =
      (words16 hostWord (before ++ p.slice start place)).sum + (p.read16 place).toNat +
        (words16 hostWord (p.slice (place + 2) stop)).sum := by
  have hword : words16 hostWord (leBytes (p.read16 place)) = [(p.read16 place).toNat] := by
    show [hostWord _ _] = _
    rw [hostWord, word16_leBytes]
  have hlength : 2 ∣ (before ++ p.slice start place).length := by
    rw [List.length_append, length_slice]
    exact Nat.dvd_add hbefore heven
  have hbytes : 2 ∣ (leBytes (p.read16 place)).length := Nat.dvd_refl 2
  rw [slice_append place hstart (by omega), slice_append (place + 2) (Nat.le_add_right _ _) hstop,
    slice_read16, ← List.append_assoc, words16_append hlength, words16_append hbytes, hword,
    List.sum_append, List.sum_append, List.sum_singleton, Nat.add_assoc]

/-- A word that is written takes the place of the word that was there. -/
theorem sum_write16 (before : List UInt8) (stop : Nat) (hbefore : 2 ∣ before.length)
    (hstart : start ≤ place) (heven : 2 ∣ place - start) (hstop : place + 2 ≤ stop) :
    (words16 hostWord (before ++ (p.write16 place value).slice start stop)).sum +
        (p.read16 place).toNat =
      (words16 hostWord (before ++ p.slice start stop)).sum + value.toNat := by
  have hhead : (p.write16 place value).slice start place = p.slice start place :=
    slice_congr fun i _ hi => write16_apart (.inl hi)
  have htail : (p.write16 place value).slice (place + 2) stop = p.slice (place + 2) stop :=
    slice_congr fun i hi _ => write16_apart (.inr hi)
  rw [sum_slice before stop hbefore hstart heven hstop,
    sum_slice before stop hbefore hstart heven hstop, read16_write16, hhead, htail]
  omega

end Write

/-- A pseudo-header that names a protocol has words other than zero. -/
theorem sum_pseudoHeader_ne_zero {srcIp dstIp : IpAddressV6} {len : UInt32} {rest : List UInt8}
    (h : protocol ≠ 0) :
    (words16 netWord (pseudoHeader srcIp dstIp protocol len ++ rest)).sum ≠ 0 := by
  have hsplit : pseudoHeader srcIp dstIp protocol len ++ rest =
      (srcIp.toList ++ dstIp.toList ++
        [UInt8.ofNat (len.toNat / 16777216), UInt8.ofNat (len.toNat / 65536),
          UInt8.ofNat (len.toNat / 256), UInt8.ofNat len.toNat] ++ [0, 0]) ++
        (0 :: protocol :: rest) := by
    simp [pseudoHeader]
  have hword : netWord 0 protocol = protocol.toNat := by
    rw [netWord, toNat_word16]
    rfl
  rw [hsplit, words16_append (by simp), List.sum_append]
  show _ + (netWord 0 protocol + _) ≠ 0
  have hpos : protocol.toNat ≠ 0 := fun hzero => h (UInt8.toNat.inj hzero)
  omega

/-! ## The chain of headers -/

section Chain
variable {m : PacketMemory} {offset size : Nat} {proto : UInt8}

/-- A transport header is none of the extension headers. -/
theorem extensionSize_of_transport (h : size ∈ transportSize proto) :
    extensionSize m offset proto = none ∧ ¬ IsSkipped proto ∧ proto ≠ ipprotoFragment := by
  have hproto : proto = ipprotoTcp ∨ proto = ipprotoUdp ∨ proto = ipprotoIcmpv6 := by
    by_contra hc
    obtain ⟨htcp, hudp, hicmp⟩ :
        proto ≠ ipprotoTcp ∧ proto ≠ ipprotoUdp ∧ proto ≠ ipprotoIcmpv6 := by
      simpa only [not_or] using hc
    rw [transportSize, if_neg htcp, if_neg hudp, if_neg hicmp] at h
    cases h
  rcases hproto with rfl | rfl | rfl
  · exact ⟨rfl, by decide, by decide⟩
  · exact ⟨rfl, by decide, by decide⟩
  · exact ⟨rfl, by decide, by decide⟩

theorem extensionSize_ge (h : extensionSize m offset proto = some size) : 8 ≤ size := by
  unfold extensionSize at h
  split at h
  · cases h
    exact Nat.le_refl 8
  split at h
  · cases h
    omega
  split at h
  · cases h
    omega
  · cases h

/-- A header that is skipped is one of the options, or a routing header. -/
theorem extensionSize_skipped (hskip : IsSkipped proto)
    (h : extensionSize m offset proto = some size) : size = 8 + (m (offset + 1)).toNat * 8 := by
  rcases hskip with rfl | rfl | rfl
  · exact (Option.some.inj h).symm
  · cases h
  · exact (Option.some.inj h).symm

theorem ExtensionChain.le (h : ExtensionChain m offset proto header protocol) :
    offset ≤ header := by
  induction h with
  | last => exact Nat.le_refl _
  | next hsize _ _ ih => exact Nat.le_trans (Nat.le_add_right _ _) ih

theorem lastFrom_end {n : Nat} (h : ¬ IsSkipped proto) :
    lastFrom m n offset proto = (offset, proto) := by
  rw [lastFrom, if_neg fun hc => h hc.1]

/-- The header at which the walk of `find_transport_header` ends: what follows it is the transport
header of the packet, or it is none that is looked for. A fragment header is seen to be one of a
packet that is not in fragments. -/
theorem ExtensionChain.last_cases {n k : Nat} (h : ExtensionChain m offset proto header protocol)
    (hprotocol : k ∈ transportSize protocol) (hin : header ≤ n) :
    ∃ last, lastFrom m n offset proto = last ∧
      (last.2 = ipprotoFragment → (m (last.1 + 2)).toNat < 4 ∧
        ((last.1 + 8, m last.1) = (header, protocol) ∨ transportSize (m last.1) = none)) ∧
      (last.2 ≠ ipprotoFragment → last = (header, protocol) ∨ transportSize last.2 = none) := by
  induction h with
  | @last offset proto =>
    obtain ⟨-, hskip, hfragment⟩ : extensionSize m offset proto = none ∧ ¬ IsSkipped proto ∧
        proto ≠ ipprotoFragment := extensionSize_of_transport hprotocol
    exact ⟨_, lastFrom_end hskip, fun hc => absurd hc hfragment, fun _ => .inl rfl⟩
  | @next offset proto size header protocol hsize hwhole hchain ih =>
    have hle := hchain.le
    have hge := extensionSize_ge hsize
    have hnone : transportSize proto = none := by
      rw [Option.eq_none_iff_forall_ne_some]
      intro k hk
      rw [(extensionSize_of_transport hk).1] at hsize
      cases hsize
    rcases Classical.em (IsSkipped proto) with hskip | hskip
    · have hnext : lastFrom m n offset proto = lastFrom m n (offset + size) (m offset) := by
        rw [lastFrom, if_pos ⟨hskip, by omega⟩, extensionSize_skipped hskip hsize, Nat.add_assoc]
      rw [hnext]
      exact ih hprotocol hin
    · refine ⟨_, lastFrom_end hskip, fun hfragment => ?_, fun _ => .inr hnone⟩
      dsimp only at hfragment ⊢
      have hfields := (hwhole hfragment).1
      rw [hfragment] at hsize
      obtain rfl : 8 = size := Option.some.inj hsize
      refine ⟨Nat.not_le.mp fun hc => fragmentOffset_ne_zero hc hfields, ?_⟩
      cases htransport : transportSize (m offset) with
      | none => exact .inr rfl
      | some k =>
        -- a transport header ends the chain
        cases hchain with
        | last => exact .inl rfl
        | next hsize' _ _ =>
          rw [(extensionSize_of_transport htransport).1] at hsize'
          cases hsize'

end Chain

/-! ## The segment of a frame -/

theorem sub_ofNat {x : UInt32} {n : Nat} (h : n ≤ x.toNat) :
    x - UInt32.ofNat n = UInt32.ofNat (x.toNat - n) := by
  have hx := x.toNat_lt
  have hn : (UInt32.ofNat n).toNat = n := UInt32.toNat_ofNat_of_lt' (Nat.lt_of_le_of_lt h hx)
  have hdiff : (UInt32.ofNat (x.toNat - n)).toNat = x.toNat - n :=
    UInt32.toNat_ofNat_of_lt' (Nat.lt_of_le_of_lt (Nat.sub_le _ _) hx)
  apply UInt32.toNat.inj
  rw [UInt32.toNat_sub_of_le _ _ (UInt32.le_iff_toNat_le.mpr (by rw [hn]; exact h)), hn, hdiff]

theorem setChecksum_eq {field : Nat} (hfield : checksumOffset protocol = some field) :
    p.setChecksum start protocol value = p.write16 (start + field) value := by
  rw [setChecksum, hfield]

theorem setChecksum_of_none (h : transportSize protocol = none) :
    p.setChecksum start protocol value = p := by
  have hfield : checksumOffset protocol = none := by
    unfold transportSize at h
    unfold checksumOffset
    split at h
    · cases h
    split at h
    · cases h
    split at h
    · cases h
    · next htcp hudp hicmp => rw [if_neg htcp, if_neg hudp, if_neg hicmp]
  rw [setChecksum, hfield]

namespace CarriesSegment

variable {field : Nat}

theorem header_ge (h : p.CarriesSegment header protocol) : 40 ≤ header := h.chain.le

/-- The segment goes on up to the end of the frame. -/
theorem segmentLength_eq (h : p.CarriesSegment header protocol) :
    p.segmentLength header = p.mLength.toNat - (etherHeaderLength + header) := by
  have hunpadded := h.unpadded
  unfold segmentLength
  omega

/-- The checksum field is in the segment, behind an even number of its bytes. -/
theorem exists_field (h : p.CarriesSegment header protocol) :
    ∃ field, checksumOffset protocol = some field ∧ field + 2 ≤ p.segmentLength header ∧
      2 ∣ field ∧ (protocol = ipprotoUdp → field = 6) := by
  obtain ⟨size, hsize, hcomplete⟩ := h.complete
  obtain ⟨field, hfield, hin, heven, -, -, hudp⟩ := checksumOffset_of_size hsize
  have hlength := h.segmentLength_eq
  exact ⟨field, hfield, by omega, heven, hudp⟩

/-- The size of the packet that is passed on. -/
theorem packetSize_eq (h : p.CarriesSegment header protocol) :
    (p.mLength - UInt32.ofNat etherHeaderLength).toNat = p.mLength.toNat - etherHeaderLength := by
  obtain ⟨size, -, hcomplete⟩ := h.complete
  rw [sub_ofNat (by omega)]
  exact UInt32.toNat_ofNat_of_lt' (Nat.lt_of_le_of_lt (Nat.sub_le _ _) p.mLength.toNat_lt)

/-- The transport header is found where it is reached. -/
theorem found (h : p.CarriesSegment header protocol) (hreaches : p.Reaches header protocol) :
    ((findTransportHeader (p.mLength - UInt32.ofNat etherHeaderLength)).run p.ipv6Header).value =
      (some header, protocol) := by
  obtain ⟨size, hsize, hcomplete⟩ := h.complete
  obtain ⟨-, -, -, -, hfour, -, -⟩ := checksumOffset_of_size hsize
  obtain ⟨last, hlast, hfragment, -⟩ := h.chain.last_cases hsize
    (show header ≤ p.mLength.toNat - etherHeaderLength by omega)
  rw [← lastHeader] at hlast
  unfold Reaches at hreaches
  have hfound : ((findTransportHeader (p.mLength - UInt32.ofNat etherHeaderLength)).run
      p.ipv6Header).value.1 ≠ none := by
    rw [ne_eq, found_none_iff h.version, h.packetSize_eq, hlast]
    rintro (hout | ⟨hproto, hlarge⟩)
    · rcases Decidable.em (last.2 = ipprotoFragment) with hproto | hproto
      · rw [afterHeaders_fragment (by rwa [hlast]), hlast] at hreaches
        have hheader : last.1 + 8 = header := congrArg Prod.fst hreaches
        omega
      · rw [afterHeaders_last (by rwa [hlast]), hlast] at hreaches
        have hheader : last.1 = header := congrArg Prod.fst hreaches
        omega
    · exact Nat.not_le.mpr (hfragment hproto).1 hlarge
  rw [value_of_found h.version hfound, h.packetSize_eq, hreaches]

/-- Where it is not reached the function finds no transport header, and leaves the frame. -/
theorem recalculate_of_not_reaches (h : p.CarriesSegment header protocol)
    (hreaches : ¬ p.Reaches header protocol) : p.recalculateTcpUdpChecksum = p := by
  obtain ⟨size, hsize, hcomplete⟩ := h.complete
  obtain ⟨last, hlast, hfragment, hother⟩ := h.chain.last_cases hsize
    (show header ≤ p.mLength.toNat - etherHeaderLength by omega)
  rw [← lastHeader] at hlast
  unfold Reaches at hreaches
  have hnone : transportSize
      (afterHeaders p.ipv6Header (p.mLength.toNat - etherHeaderLength)).2 = none := by
    rcases Decidable.em (last.2 = ipprotoFragment) with hproto | hproto
    · rw [afterHeaders_fragment (by rwa [hlast]), hlast] at hreaches ⊢
      exact (hfragment hproto).2.resolve_left hreaches
    · rw [afterHeaders_last (by rwa [hlast]), hlast] at hreaches ⊢
      exact (hother hproto).resolve_left hreaches
  rw [recalculateTcpUdpChecksum]
  split
  · rfl
  · next found proto hvalue =>
    have hfound : ((findTransportHeader (p.mLength - UInt32.ofNat etherHeaderLength)).run
        p.ipv6Header).value.1 ≠ none := by
      rw [hvalue]
      exact Option.some_ne_none found
    have hproto := congrArg Prod.snd ((value_of_found h.version hfound).symm.trans hvalue)
    rw [h.packetSize_eq] at hproto
    dsimp only at hproto ⊢
    rw [← hproto, setChecksum_of_none hnone, setChecksum_of_none hnone]

/-- The function stores the complement of the sum of the segment with the field cleared. -/
theorem recalculate_eq (h : p.CarriesSegment header protocol)
    (hreaches : p.Reaches header protocol) (hfield : checksumOffset protocol = some field) :
    let cleared := p.write16 (etherHeaderLength + header + field) 0
    ∃ checksum, p.recalculateTcpUdpChecksum =
        cleared.write16 (etherHeaderLength + header + field) checksum ∧
      checksum.toNat = 65535 - rfc1071Sum hostWord (cleared.summed header protocol) := by
  intro cleared
  have hge := h.header_ge
  have hlength := h.segmentLength_eq
  have hlt := p.mLength.toNat_lt
  obtain ⟨size, -, hcomplete⟩ := h.complete
  have hsegment : cleared.segmentLength header = p.segmentLength header :=
    segmentLength_write16 0 (by have : etherHeaderLength = 14 := rfl; omega) header
  have hlen : p.mLength - UInt32.ofNat (etherHeaderLength + header) =
      UInt32.ofNat (cleared.segmentLength header) := by
    rw [hsegment, hlength]
    exact sub_ofNat (by omega)
  have htoNat : (UInt32.ofNat (cleared.segmentLength header)).toNat =
      cleared.segmentLength header := by
    rw [hsegment, hlength]
    exact UInt32.toNat_ofNat_of_lt' (Nat.lt_of_le_of_lt (Nat.sub_le _ _) hlt)
  refine ⟨tcpUdpV6Checksum cleared.ip6Src cleared.ip6Dst protocol
    (cleared.slice (etherHeaderLength + header)
      (etherHeaderLength + header + cleared.segmentLength header))
    (UInt32.ofNat (cleared.segmentLength header)), ?_, ?_⟩
  · rw [recalculateTcpUdpChecksum, h.found hreaches]
    dsimp only
    rw [setChecksum_eq hfield, setChecksum_eq hfield, hlen, htoNat]
  · refine toNat_tcpUdpV6Checksum _ _ _ _ ?_
    rw [length_slice, hsegment]
    omega

/-- The sum of the segment after a word is written to its cleared checksum field. -/
theorem sum_summed (h : p.CarriesSegment header protocol)
    (hin : field + 2 ≤ p.segmentLength header) (heven : 2 ∣ field) (value : UInt16) :
    let cleared := p.write16 (etherHeaderLength + header + field) 0
    (words16 hostWord ((cleared.write16 (etherHeaderLength + header + field) value).summed header
      protocol)).sum = (words16 hostWord (cleared.summed header protocol)).sum + value.toNat := by
  intro cleared
  have hge := h.header_ge
  have hplace : 54 ≤ etherHeaderLength + header + field := by
    have : etherHeaderLength = 14 := rfl
    omega
  have hsegment : cleared.segmentLength header = p.segmentLength header :=
    segmentLength_write16 0 hplace header
  have hread : cleared.read16 (etherHeaderLength + header + field) = 0 := read16_write16 0
  unfold summed
  rw [ip6Src_write16 value hplace, ip6Dst_write16 value hplace, segmentLength_write16 value hplace]
  have hsum := sum_write16 (p := cleared) value
    (pseudoHeader cleared.ip6Src cleared.ip6Dst protocol
      (UInt32.ofNat (cleared.segmentLength header)))
    (etherHeaderLength + header + cleared.segmentLength header)
    (by rw [length_pseudoHeader]; decide) (Nat.le_add_right (etherHeaderLength + header) field)
    (by rw [Nat.add_sub_cancel_left]; exact heven) (by omega)
  rwa [hread, UInt16.toNat_zero, Nat.add_zero] at hsum

end CarriesSegment

/-- Without its checksum a segment has a sum of all ones where its words add up to a multiple of
65535. -/
theorem rfc1071Sum_cleared_iff {field : Nat} (hfield : checksumOffset protocol = some field) :
    rfc1071Sum hostWord
        ((p.write16 (etherHeaderLength + header + field) 0).summed header protocol) = 65535 ↔
      65535 ∣ p.clearedTotal header protocol := by
  have hprotocol : protocol ≠ 0 := by
    rintro rfl
    cases hfield
  unfold clearedTotal
  rw [setChecksum_eq hfield, ← rfc1071Sum_net_ones, rfc1071Sum_eq netWord_le,
    OnesComplement.reduce_eq_self (by decide)]
  exact and_iff_right (sum_pseudoHeader_ne_zero hprotocol)

/-- The receiver's sum is all ones after the checksum was recalculated. -/
theorem CarriesSegment.sum_recalculated (h : p.CarriesSegment header protocol)
    (hreaches : p.Reaches header protocol) :
    rfc1071Sum netWord (p.recalculateTcpUdpChecksum.summed header protocol) = 65535 := by
  obtain ⟨field, hfield, hin, heven, -⟩ := h.exists_field
  obtain ⟨checksum, hrecalculate, hchecksum⟩ := h.recalculate_eq hreaches hfield
  rw [rfc1071Sum_net_ones, hrecalculate, rfc1071Sum_eq hostWord_le, h.sum_summed hin heven,
    hchecksum, rfc1071Sum_eq hostWord_le]
  exact OnesComplement.reduce_add_complement (by decide)

/-- When the checksum that is stored is zero. -/
theorem CarriesSegment.stored_eq_zero_iff (h : p.CarriesSegment header protocol)
    (hreaches : p.Reaches header protocol) {field : Nat}
    (hfield : checksumOffset protocol = some field) :
    p.recalculateTcpUdpChecksum.read16 (etherHeaderLength + header + field) = 0 ↔
      65535 ∣ p.clearedTotal header protocol := by
  obtain ⟨checksum, hrecalculate, hchecksum⟩ := h.recalculate_eq hreaches hfield
  have hle := rfc1071Sum_host_le
    ((p.write16 (etherHeaderLength + header + field) 0).summed header protocol)
  rw [hrecalculate, read16_write16, ← rfc1071Sum_cleared_iff hfield, ← UInt16.toNat_inj, hchecksum,
    UInt16.toNat_zero]
  omega

/-- The checksum of a segment that is reached verifies after it was recalculated, unless the segment
is a datagram whose words without the checksum add up to a multiple of 65535. -/
theorem CarriesSegment.verifies_of_reaches (h : p.CarriesSegment header protocol)
    (hreaches : p.Reaches header protocol) :
    Verifies p p.recalculateTcpUdpChecksum header protocol ↔
      (protocol = ipprotoUdp → ¬ 65535 ∣ p.clearedTotal header protocol) := by
  constructor
  · rintro hverifies rfl hdvd
    exact hverifies.checksum.datagram rfl ((h.stored_eq_zero_iff hreaches rfl).mpr hdvd)
  · intro hdatagram
    obtain ⟨field, hfield, -⟩ := h.exists_field
    obtain ⟨checksum, hrecalculate, -⟩ := h.recalculate_eq hreaches hfield
    refine ⟨⟨h.sum_recalculated hreaches, ?_⟩, ?_, ?_⟩
    · rintro rfl hzero
      exact hdatagram rfl ((h.stored_eq_zero_iff hreaches rfl).mp hzero)
    · rw [hrecalculate]
      rfl
    · intro field' hfield' i hi
      obtain rfl := Option.some.inj (hfield.symm.trans hfield')
      rw [hrecalculate, write16_apart hi, write16_apart hi]

/-- The checksum verifies after `recalculate_tcp_udp_checksum` just when the segment is reached and
is no datagram whose words without the checksum add up to a multiple of 65535, or is not reached and
verified before. -/
theorem verifies_iff (h : p.CarriesSegment header protocol) :
    Verifies p p.recalculateTcpUdpChecksum header protocol ↔
      (p.Reaches header protocol →
        protocol = ipprotoUdp → ¬ 65535 ∣ p.clearedTotal header protocol) ∧
      (¬ p.Reaches header protocol → p.HasChecksum header protocol) := by
  rcases Classical.em (p.Reaches header protocol) with hreaches | hreaches
  · rw [h.verifies_of_reaches hreaches, and_iff_left fun hc => absurd hreaches hc,
      forall_prop_of_true hreaches]
  · rw [h.recalculate_of_not_reaches hreaches, and_iff_right fun hc => absurd hc hreaches,
      forall_prop_of_true hreaches]
    exact ⟨fun hverifies => hverifies.checksum,
      fun hchecksum => ⟨hchecksum, rfl, fun _ _ _ _ => rfl⟩⟩

/-- A datagram without data between the address `x::` and the address `::`. -/
def emptyDatagram (x : UInt16) : IntermediateBuffer :=
  ofBytes (List.replicate 14 0 ++ [0x60, 0, 0, 0, 0, 8, ipprotoUdp, 64] ++ beBytes x ++
    List.replicate 30 0 ++ [0, 0, 0, 0, 0, 8, 0, 0])

theorem emptyDatagram_mLength (x : UInt16) : (emptyDatagram x).mLength.toNat = 62 := by
  rfl

theorem emptyDatagram_next (x : UInt16) : (emptyDatagram x).ipv6Header 6 = ipprotoUdp := rfl

theorem emptyDatagram_carries (x : UInt16) :
    (emptyDatagram x).CarriesSegment 40 ipprotoUdp where
  version := by
    have hbyte : (emptyDatagram x).ipv6Header 0 = 0x60 := rfl
    rw [IsIpv6, hbyte]
    rfl
  chain := by
    rw [emptyDatagram_next]
    exact .last
  complete := ⟨8, rfl, by
    rw [emptyDatagram_mLength]
    decide⟩
  unpadded := by
    have hlen : (emptyDatagram x).ip6Len = word16 0 8 := rfl
    rw [emptyDatagram_mLength, hlen]
    rfl

theorem emptyDatagram_reaches (x : UInt16) : (emptyDatagram x).Reaches 40 ipprotoUdp := by
  have hlast : lastHeader (emptyDatagram x).ipv6Header
      ((emptyDatagram x).mLength.toNat - etherHeaderLength) = (40, ipprotoUdp) := by
    rw [lastHeader, emptyDatagram_next]
    exact lastFrom_end (by decide)
  rw [Reaches, afterHeaders_last (by rw [hlast]; decide), hlast]

theorem verifies_iff_empty :
    Verifies (emptyDatagram 0) (emptyDatagram 0).recalculateTcpUdpChecksum 40 ipprotoUdp ↔
      ((emptyDatagram 0).Reaches 40 ipprotoUdp →
        ipprotoUdp = ipprotoUdp → ¬ 65535 ∣ (emptyDatagram 0).clearedTotal 40 ipprotoUdp) ∧
      (¬ (emptyDatagram 0).Reaches 40 ipprotoUdp →
        (emptyDatagram 0).HasChecksum 40 ipprotoUdp) :=
  verifies_iff (emptyDatagram_carries 0)

/-- The checksum of a datagram from `ffde::` is stored as zero. -/
theorem zero_checksum_stored : ¬ ∀ (p : IntermediateBuffer) (header : Nat) (protocol : UInt8),
    p.CarriesSegment header protocol →
      Verifies p p.recalculateTcpUdpChecksum header protocol := by
  intro hclaim
  have hcarries := emptyDatagram_carries 0xffde
  have hstored := hcarries.stored_eq_zero_iff (emptyDatagram_reaches 0xffde) rfl
  refine (hclaim _ _ _ hcarries).checksum.datagram rfl (hstored.mpr ⟨1, ?_⟩)
  decide

end IntermediateBuffer

end CutieProxy
