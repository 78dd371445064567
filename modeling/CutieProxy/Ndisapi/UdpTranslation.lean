import CutieProxy.Ndisapi.Socks5UdpLocalRedirect
import CutieProxy.Net.FrameBytes

/-!
# What the UDP redirection makes of a datagram

A datagram `a:x -> b:y` of a client comes to the local proxy, at port `pp`, as `b:x -> a:pp`, with a
SOCKS5 UDP header naming `(b, y)` in front of its payload (`Encapsulated`). A datagram of the proxy
whose payload starts with a header naming `(c, z)` comes to the client from there, without the
header (`Stripped`). With consistent lengths and room for the header the two are inverse
(`round_trip`).
-/

namespace CutieProxy

open IntermediateBuffer

/-- An IPv4 packet that holds a datagram. -/
structure IntermediateBuffer.IsUdp (p : IntermediateBuffer) : Prop where
  ip : p.IsIpv4 ipprotoUdp
  header : 5 ≤ p.ipHl

/-- The lengths of the frame, the IP packet and the datagram agree. -/
structure IntermediateBuffer.Consistent (p : IntermediateBuffer) : Prop where
  frame : p.mLength.toNat = etherHeaderLength + p.totalLength
  packet : p.totalLength = 4 * p.ipHl + p.udpLength
  datagram : udphdrSize ≤ p.udpLength

/-- A packet with the bytes of another one that say what it is. -/
theorem IntermediateBuffer.IsUdp.of_bytes {p q : IntermediateBuffer}
    (hproto : ∀ i, 12 ≤ i → i < 15 → q.mIBuffer i = p.mIBuffer i)
    (hipP : q.mIBuffer 23 = p.mIBuffer 23) (h : p.IsUdp) : q.IsUdp := by
  refine ⟨⟨?_, hipP.trans h.ip.2⟩, ?_⟩
  · rw [hProto, read16_congr (hproto 12 (by omega) (by omega)) (hproto 13 (by omega) (by omega))]
    exact h.ip.1
  · have hbyte : q.mIBuffer etherHeaderLength = p.mIBuffer etherHeaderLength :=
      hproto 14 (by omega) (by omega)
    rw [ipHl, hbyte]
    exact h.header

section Frame

variable (src dst : IpAddressV4) (sport dport flagsAndOffset : UInt16) (data : List UInt8)

theorem IntermediateBuffer.udpFrame_isUdp :
    (udpFrame src dst sport dport flagsAndOffset data).IsUdp :=
  ⟨ipv4Frame_isIpv4 .., (ipv4Frame_ipHl ..).ge⟩

theorem IntermediateBuffer.udpFrame_isFragmented :
    (udpFrame src dst sport dport flagsAndOffset data).isFragmented =
      (flagsAndOffset &&& ~~~ipDf != 0) := by
  rw [isFragmented, udpFrame, ipv4Frame_ipOff, ntohs_htons]

theorem IntermediateBuffer.udpFrame_thSport :
    (udpFrame src dst sport dport flagsAndOffset data).thSport = htons sport := by
  rw [thSport, udpFrame, ipv4Frame_transport]
  exact word16_beBytes sport

theorem IntermediateBuffer.udpFrame_mLength :
    (udpFrame src dst sport dport flagsAndOffset data).mLength =
      UInt32.ofNat (42 + data.length) := by
  refine congrArg UInt32.ofNat ?_
  simp only [List.length_append, List.length_cons, List.length_nil, beBytes, IpAddressV4.toBytes]
  omega

end Frame

/-- The memory of a `socks5_udp_header` that names an IPv4 endpoint; the port is in network
order. -/
def socks5UdpHeader (address : IpAddressV4) (port : UInt16) : List UInt8 :=
  [0, 0, 0, 1] ++ address.toBytes ++ leBytes port

/-- `q` holds the same datagram as `p`, between the same endpoints. -/
structure SameDatagram (p q : IntermediateBuffer) : Prop where
  isUdp : p.IsUdp → q.IsUdp
  length : q.mLength = p.mLength
  ipHl : q.ipHl = p.ipHl
  totalLength : q.totalLength = p.totalLength
  udpLength : q.udpLength = p.udpLength
  source : q.source = p.source
  destination : q.destination = p.destination
  payload : q.payload = p.payload

/-- `q` is the datagram `p` on its way to the local proxy. -/
structure Encapsulated (port : UInt16) (p q : IntermediateBuffer) : Prop where
  isUdp : p.IsUdp → q.IsUdp
  length : q.mLength.toNat = p.mLength.toNat + socks5UdpHeaderSize
  ipHl : q.ipHl = p.ipHl
  totalLength : q.totalLength = p.totalLength + socks5UdpHeaderSize
  udpLength : q.udpLength = p.udpLength + socks5UdpHeaderSize
  source : q.source = ⟨p.ipDst, p.thSport, none⟩
  destination : q.destination = ⟨p.ipSrc, port, none⟩
  payload : q.payload = socks5UdpHeader p.ipDst p.thDport ++ p.payload

/-- `q` is the datagram `p` of the local proxy on its way to the client: from the endpoint the
header named, with what followed the header. -/
structure Stripped (address : IpAddressV4) (port : UInt16) (rest : List UInt8)
    (p q : IntermediateBuffer) : Prop where
  isUdp : p.IsUdp → q.IsUdp
  length : q.mLength.toNat + socks5UdpHeaderSize = p.mLength.toNat
  ipHl : q.ipHl = p.ipHl
  totalLength : q.totalLength + socks5UdpHeaderSize = p.totalLength
  udpLength : q.udpLength + socks5UdpHeaderSize = p.udpLength
  source : q.source = ⟨address, port, none⟩
  destination : q.destination = ⟨p.ipSrc, p.thDport, none⟩
  payload : q.payload = rest

theorem Encapsulated.of_same {port : UInt16} {p q q' : IntermediateBuffer}
    (h : Encapsulated port p q) (hsame : SameDatagram q q') : Encapsulated port p q' where
  isUdp hp := hsame.isUdp (h.isUdp hp)
  length := by rw [hsame.length, h.length]
  ipHl := hsame.ipHl.trans h.ipHl
  totalLength := hsame.totalLength.trans h.totalLength
  udpLength := hsame.udpLength.trans h.udpLength
  source := hsame.source.trans h.source
  destination := hsame.destination.trans h.destination
  payload := hsame.payload.trans h.payload

theorem Stripped.of_same {address : IpAddressV4} {port : UInt16} {rest : List UInt8}
    {p q q' : IntermediateBuffer} (h : Stripped address port rest p q) (hsame : SameDatagram q q') :
    Stripped address port rest p q' where
  isUdp hp := hsame.isUdp (h.isUdp hp)
  length := by rw [hsame.length, h.length]
  ipHl := hsame.ipHl.trans h.ipHl
  totalLength := by rw [hsame.totalLength, h.totalLength]
  udpLength := by rw [hsame.udpLength, h.udpLength]
  source := hsame.source.trans h.source
  destination := hsame.destination.trans h.destination
  payload := hsame.payload.trans h.payload

/-- The lengths stay consistent. -/
theorem Encapsulated.consistent {port : UInt16} {p q : IntermediateBuffer}
    (h : Encapsulated port p q) (hp : p.Consistent) : q.Consistent where
  frame := by rw [h.length, h.totalLength, hp.frame, Nat.add_assoc]
  packet := by rw [h.totalLength, h.udpLength, h.ipHl, hp.packet, Nat.add_assoc]
  datagram := by
    rw [h.udpLength]
    exact Nat.le_add_right_of_le hp.datagram

/-- The lengths stay consistent. -/
theorem Stripped.consistent {address : IpAddressV4} {port : UInt16} {rest : List UInt8}
    {p q : IntermediateBuffer} (h : Stripped address port rest p q) (hp : p.Consistent)
    (hpayload : p.payload = socks5UdpHeader address port ++ rest) : q.Consistent := by
  have hlength := h.length
  have htotal := h.totalLength
  have hudp := h.udpLength
  have hframe := hp.frame
  have hpacket := hp.packet
  have hlen := congrArg List.length hpayload
  rw [List.length_append, IntermediateBuffer.payload, length_slice, udpPayload] at hlen
  have hhead : (socks5UdpHeader address port).length = 10 := rfl
  have hsize : udphdrSize = 8 := rfl
  have hsocks : socks5UdpHeaderSize = 10 := rfl
  refine ⟨?_, ?_, ?_⟩
  · omega
  · rw [h.ipHl]
    omega
  · omega

namespace Socks5UdpLocalRedirect

variable {api : CNdisApi} {now : TimePoint} {port : UInt16} {t : Nat} {p q : IntermediateBuffer}
  {r : Socks5UdpLocalRedirect}

/-! ## The checksums -/

/-- A byte that is in no checksum is left as it was. -/
theorem recalculate_byte (hapi : api.Recalculates) {i : Nat}
    (hend : i < q.transport + q.udpLength) (hudp : i < q.transport + 6 ∨ q.transport + 8 ≤ i)
    (hip : i < 24 ∨ 26 ≤ i) :
    (api.recalculateIPChecksum (api.recalculateUDPChecksum q)).mIBuffer i = q.mIBuffer i := by
  rw [hapi.ip.byte _ _ fun h : 24 ≤ i ∧ i < 26 => by omega, hapi.udp.byte]
  rintro (h | h) <;> omega

/-- Two frames with the same first bytes and the same length hold the same datagram. -/
theorem sameDatagram_of_bytes (hheader : 5 ≤ p.ipHl) (hlength : q.mLength = p.mLength)
    (h : ∀ i, 12 ≤ i → i < p.transport + p.udpLength ∨ i < p.transport + 6 → i < 24 ∨ 26 ≤ i →
      i < p.transport + 6 ∨ p.transport + 8 ≤ i → q.mIBuffer i = p.mIBuffer i) :
    SameDatagram p q := by
  have hoff : etherHeaderLength = 14 := rfl
  have htransport : p.transport = 14 + 4 * p.ipHl := rfl
  have hipHl : q.ipHl = p.ipHl := by
    rw [ipHl, ipHl, h _ (by omega) (by omega) (by omega) (by omega)]
  have hsame : q.transport = p.transport := by rw [transport, transport, hipHl]
  have hword : ∀ i, 12 ≤ i → i + 2 ≤ 24 ∨ (26 ≤ i ∧ i + 2 ≤ p.transport + 6) →
      q.read16 i = p.read16 i := by
    intro i hle hi
    exact read16_congr (h _ (by omega) (by omega) (by omega) (by omega))
      (h _ (by omega) (by omega) (by omega) (by omega))
  have haddress : ∀ i, 26 ≤ i → i + 4 ≤ 34 → q.readAddress i = p.readAddress i := by
    intro i hle hi
    exact readAddress_congr fun j hj => h _ (by omega) (by omega) (by omega) (by omega)
  have hudp : q.udpLength = p.udpLength := by
    rw [udpLength, udpLength, hsame, hword _ (by omega) (by omega)]
  refine ⟨?_, hlength, hipHl, ?_, hudp, ?_, ?_, ?_⟩
  · exact IsUdp.of_bytes (fun i hle hlt => h i hle (by omega) (by omega) (by omega))
      (h 23 (by omega) (by omega) (by omega) (by omega))
  · rw [totalLength, totalLength, ipLen, ipLen, hword _ (by omega) (by omega)]
  · rw [source, source, ipSrc, ipSrc, thSport, thSport, hsame, hword _ (by omega) (by omega),
      haddress _ (by omega) (by omega)]
  · rw [destination, destination, ipDst, ipDst, thDport, thDport, hsame,
      hword _ (by omega) (by omega), haddress _ (by omega) (by omega)]
  · rw [payload, payload, udpPayload, udpPayload, hsame, hudp, hlength]
    exact slice_congr fun i hstart hstop => h i (by omega) (by omega) (by omega) (by omega)

/-- Recalculating the checksums leaves the datagram. -/
theorem sameDatagram_recalculate (hapi : api.Recalculates) (hheader : 5 ≤ q.ipHl)
    (hudp : udphdrSize ≤ q.udpLength) :
    SameDatagram q (api.recalculateIPChecksum (api.recalculateUDPChecksum q)) := by
  have hsize : udphdrSize = 8 := rfl
  refine sameDatagram_of_bytes hheader ?_ fun i _ hend hip hsum => ?_
  · rw [hapi.ip.length, hapi.udp.length]
  · exact recalculate_byte hapi (by omega) hsum hip

/-! ## The length fields -/

/-- The two length fields of a datagram, with `n` added. -/
def setLengths (t : Nat) (n : UInt16) (packet : IntermediateBuffer) : IntermediateBuffer :=
  let packet := packet.write16 (etherHeaderLength + 2) (addToLength packet.ipLen n)
  packet.write16 (t + 4) (addToLength (packet.read16 (t + 4)) n)

theorem setLengths_apart {n : UInt16} {i : Nat} (hlen : i < 16 ∨ 18 ≤ i)
    (hports : i < t + 4 ∨ t + 6 ≤ i) : (setLengths t n p).mIBuffer i = p.mIBuffer i := by
  rw [setLengths, write16_apart hports]
  exact write16_apart hlen

theorem setLengths_ipLen {n : UInt16} (ht : 34 ≤ t) :
    (setLengths t n p).ipLen = addToLength p.ipLen n := by
  have hoff : etherHeaderLength = 14 := rfl
  have hfirst : (p.write16 (etherHeaderLength + 2) (addToLength p.ipLen n)).ipLen =
      addToLength p.ipLen n := read16_write16 _
  rw [← hfirst]
  exact read16_congr (write16_apart (by omega)) (write16_apart (by omega))

theorem setLengths_udpLength {n : UInt16} (ht : 34 ≤ t) :
    (setLengths t n p).read16 (t + 4) = addToLength (p.read16 (t + 4)) n := by
  have hoff : etherHeaderLength = 14 := rfl
  have hfirst : (p.write16 (etherHeaderLength + 2) (addToLength p.ipLen n)).read16 (t + 4) =
      p.read16 (t + 4) :=
    read16_congr (write16_apart (by omega)) (write16_apart (by omega))
  rw [← hfirst]
  exact read16_write16 _

/-! ## To the local proxy -/

/-- The payload of a datagram in a frame that holds its headers. -/
theorem payloadSize_of_le {frame : UInt32} (h : p.transport + udphdrSize ≤ frame.toNat)
    (hlt : frame.toNat < 2 ^ 16) :
    payloadSize p frame = frame.toNat - (p.transport + udphdrSize) := by
  have hoff : etherHeaderLength = 14 := rfl
  have hsize : udphdrSize = 8 := rfl
  have htransport : p.transport = 14 + 4 * p.ipHl := rfl
  unfold payloadSize
  omega

/-- The length of a field to which `n` was added, without overflow. -/
theorem toNat_addToLength {field n : UInt16} (h : (ntohs field).toNat + n.toNat < 2 ^ 16) :
    (ntohs (addToLength field n)).toNat = (ntohs field).toNat + n.toNat := toNat_ntohs_htons_add h

/-- The first part of `redirectPacket`: ten bytes of room in front of the payload. -/
def makeRoom (t size : Nat) (packet : IntermediateBuffer) : IntermediateBuffer :=
  let payload := t + udphdrSize
  let packet := packet.memmove (payload + socks5UdpHeaderSize) payload size
  setLengths t 10 { packet with mLength := packet.mLength + 10 }

/-- The second part: the SOCKS5 UDP header. -/
def writeHeader (t : Nat) (packet : IntermediateBuffer) : IntermediateBuffer :=
  let payload := t + udphdrSize
  let packet := packet.write payload [0, 0, 0, 1]
  let packet := packet.write (payload + 4) packet.ipDst.toBytes
  packet.write16 (payload + 8) (packet.read16 (t + 2))

/-- The last part: the datagram goes back, to another port. -/
def turnAround (t : Nat) (port : UInt16) (packet : IntermediateBuffer) : IntermediateBuffer :=
  packet.swapEthernetAddresses.swapIpAddresses.write16 (t + 2) port

/-- The bytes `redirectPacket` moves. -/
def redirectSize (api : CNdisApi) (packet : IntermediateBuffer) : Nat :=
  min (payloadSize packet packet.mLength) (payloadSize packet api.maxEtherFrame)

theorem redirectPacket_eq :
    redirectPacket api port p =
      api.recalculateIPChecksum (api.recalculateUDPChecksum
        (turnAround p.transport port
          (writeHeader p.transport (makeRoom p.transport (redirectSize api p) p)))) := rfl

theorem makeRoom_apart {size i : Nat} (hend : i < t + 18) (hlen : i < 16 ∨ 18 ≤ i)
    (hports : i < t + 4 ∨ t + 6 ≤ i) : (makeRoom t size p).mIBuffer i = p.mIBuffer i := by
  refine (setLengths_apart hlen hports).trans ?_
  exact memmove_apart (.inl hend)

theorem makeRoom_payload {size i : Nat} (ht : 34 ≤ t) (h : i < size) :
    (makeRoom t size p).mIBuffer (t + 18 + i) = p.mIBuffer (t + 8 + i) := by
  refine (setLengths_apart (by omega) (by omega)).trans ?_
  exact memmove_at h

theorem makeRoom_ipLen {size : Nat} (ht : 34 ≤ t) :
    (makeRoom t size p).ipLen = addToLength p.ipLen 10 := by
  have hmoved : ∀ i, i < t + 18 → (p.memmove (t + 18) (t + 8) size).mIBuffer i = p.mIBuffer i :=
    fun i hi => memmove_apart (.inl hi)
  refine (setLengths_ipLen ht).trans (congrArg (addToLength · 10) ?_)
  exact read16_congr (hmoved 16 (by omega)) (hmoved 17 (by omega))

theorem makeRoom_udpLength {size : Nat} (ht : 34 ≤ t) :
    (makeRoom t size p).read16 (t + 4) = addToLength (p.read16 (t + 4)) 10 := by
  have hmoved : ∀ i, i < t + 18 → (p.memmove (t + 18) (t + 8) size).mIBuffer i = p.mIBuffer i :=
    fun i hi => memmove_apart (.inl hi)
  refine (setLengths_udpLength ht).trans (congrArg (addToLength · 10) ?_)
  exact read16_congr (hmoved (t + 4) (by omega)) (hmoved (t + 5) (by omega))

theorem writeHeader_apart {i : Nat} (h : i < t + 8 ∨ t + 18 ≤ i) :
    (writeHeader t p).mIBuffer i = p.mIBuffer i := by
  have hsize : udphdrSize = 8 := rfl
  have hbytes : ∀ a : IpAddressV4, a.toBytes.length = 4 := fun _ => rfl
  refine (write16_apart (by omega)).trans ((write_apart ?_).trans (write_apart ?_))
  · rw [hbytes]
    omega
  · exact h.imp_right fun hge => by simpa using by omega

theorem writeHeader_slice (ht : 34 ≤ t) :
    (writeHeader t p).slice (t + 8) (t + 18) = socks5UdpHeader p.ipDst (p.read16 (t + 2)) := by
  have hoff : etherHeaderLength = 14 := rfl
  have hsize : udphdrSize = 8 := rfl
  unfold writeHeader
  extract_lets payload p₁ p₂
  have hpayload : payload = t + 8 := rfl
  have hdst : p₁.ipDst = p.ipDst := readAddress_congr fun j hj => write_apart (.inl (by omega))
  have hport : p₂.read16 (t + 2) = p.read16 (t + 2) := by
    refine read16_congr ?_ ?_
    · exact (write_apart (.inl (by omega))).trans (write_apart (.inl (by omega)))
    · exact (write_apart (.inl (by omega))).trans (write_apart (.inl (by omega)))
  have hfour : (p₂.write16 (payload + 8) (p₂.read16 (t + 2))).slice payload (payload + 4) =
      [0, 0, 0, 1] := by
    rw [← slice_write (p := p) (o := payload) [0, 0, 0, 1]]
    refine slice_congr fun i _ hstop => ?_
    exact (write16_apart (.inl (by omega))).trans (write_apart (.inl hstop))
  have hnext : (p₂.write16 (payload + 8) (p₂.read16 (t + 2))).slice (payload + 4) (payload + 8) =
      p.ipDst.toBytes := by
    rw [← hdst, ← slice_write (p := p₁) (o := payload + 4) p₁.ipDst.toBytes]
    exact slice_congr fun i _ hstop => write16_apart (.inl hstop)
  have hlast : (p₂.write16 (payload + 8) (p₂.read16 (t + 2))).slice (payload + 8) (payload + 10) =
      leBytes (p.read16 (t + 2)) := by
    rw [← hport]
    exact slice_write _
  rw [← hpayload, show t + 18 = payload + 10 from rfl,
    slice_append (payload + 8) (by omega) (by omega),
    slice_append (payload + 4) (by omega) (by omega), hfour, hnext, hlast]
  rfl

theorem turnAround_apart {i : Nat} (hi : 12 ≤ i) (hip : i < 26 ∨ 34 ≤ i)
    (hport : i < t + 2 ∨ t + 4 ≤ i) : (turnAround t port p).mIBuffer i = p.mIBuffer i := by
  rw [turnAround, write16_apart hport, swapIpAddresses_apart hip, swapEthernetAddresses_apart hi]

theorem turnAround_ipSrc (ht : 34 ≤ t) : (turnAround t port p).ipSrc = p.ipDst := by
  have hoff : etherHeaderLength = 14 := rfl
  rw [← ipSrc_swapAddresses]
  exact readAddress_congr fun j hj => write16_apart (by omega)

theorem turnAround_ipDst (ht : 34 ≤ t) : (turnAround t port p).ipDst = p.ipSrc := by
  have hoff : etherHeaderLength = 14 := rfl
  rw [← ipDst_swapAddresses]
  exact readAddress_congr fun j hj => write16_apart (by omega)

theorem turnAround_read16 : (turnAround t port p).read16 (t + 2) = port := read16_write16 _

/-- The payload of a datagram in the frame is what is moved. -/
theorem redirectSize_of_consistent (hp : p.Consistent)
    (hroom : p.mLength.toNat + socks5UdpHeaderSize ≤ api.maxEtherFrame.toNat)
    (hmax : api.maxEtherFrame.toNat < 2 ^ 16) : redirectSize api p = p.udpLength - 8 := by
  have hoff : etherHeaderLength = 14 := rfl
  have hudphdr : udphdrSize = 8 := rfl
  have htransport : p.transport = 14 + 4 * p.ipHl := rfl
  have hframe := hp.frame
  have hpacket := hp.packet
  have hdatagram := hp.datagram
  rw [redirectSize, payloadSize_of_le (by omega) (by omega),
    payloadSize_of_le (by omega) (by omega)]
  omega

/-- What the rewriting of a client's datagram does. -/
theorem redirectPacket_encapsulated (hapi : api.Recalculates) (hheader : 5 ≤ p.ipHl)
    (hp : p.Consistent) (hroom : p.mLength.toNat + socks5UdpHeaderSize ≤ api.maxEtherFrame.toNat)
    (hmax : api.maxEtherFrame.toNat < 2 ^ 16) :
    Encapsulated port p (redirectPacket api port p) := by
  have hoff : etherHeaderLength = 14 := rfl
  have hudphdr : udphdrSize = 8 := rfl
  have hsocks : socks5UdpHeaderSize = 10 := rfl
  have htransport : p.transport = 14 + 4 * p.ipHl := rfl
  have hframe := hp.frame
  have hpacket := hp.packet
  have hdatagram := hp.datagram
  have hsize := redirectSize_of_consistent hp hroom hmax
  rw [redirectPacket_eq]
  generalize htdef : p.transport = t at *
  have ht : 34 ≤ t := by omega
  set p₁ := makeRoom t (redirectSize api p) p with hp₁
  set p₂ := writeHeader t p₁ with hp₂
  set q := turnAround t port p₂ with hq
  have hroom₁ : ∀ i, i < t + 8 → i < 16 ∨ 18 ≤ i → i < t + 4 ∨ t + 6 ≤ i →
      p₁.mIBuffer i = p.mIBuffer i := fun i hend hlen hports =>
    makeRoom_apart (by omega) hlen hports
  have hkept : ∀ i, 12 ≤ i → i < t + 8 → i < 16 ∨ 18 ≤ i → i < 26 ∨ 34 ≤ i →
      i < t + 2 ∨ t + 6 ≤ i → q.mIBuffer i = p.mIBuffer i := by
    intro i hi hend hlen hip hports
    rw [hq, turnAround_apart hi hip (by omega), hp₂, writeHeader_apart (.inl hend),
      hroom₁ i hend hlen (by omega)]
  have hipHl : q.ipHl = p.ipHl := by
    rw [ipHl, ipHl, hkept _ (by omega) (by omega) (by omega) (by omega) (by omega)]
  have hsame : q.transport = t := by rw [← htdef, transport, transport, hipHl]
  -- after the header is written the length fields stay
  have hword : ∀ o, 12 ≤ o → o + 2 ≤ 26 ∨ (34 ≤ o ∧ t + 4 ≤ o) → o + 2 ≤ t + 8 →
      q.read16 o = p₁.read16 o := by
    intro o hle hip hend
    refine read16_congr ?_ ?_
    · exact (turnAround_apart (by omega) (by omega) (by omega)).trans (writeHeader_apart (by omega))
    · exact (turnAround_apart (by omega) (by omega) (by omega)).trans (writeHeader_apart (by omega))
  have htotal : q.totalLength = p.totalLength + 10 := by
    rw [totalLength, ipLen, hword _ (by omega) (by omega) (by omega), ← ipLen, makeRoom_ipLen ht]
    refine toNat_addToLength ?_
    show p.totalLength + 10 < _
    omega
  have hudp : q.udpLength = p.udpLength + 10 := by
    have hold : p.udpLength = (ntohs (p.read16 (t + 4))).toNat := by rw [udpLength, htdef]
    rw [udpLength, hsame, hword _ (by omega) (by omega) (by omega), makeRoom_udpLength ht, hold]
    refine toNat_addToLength ?_
    rw [← hold]
    show p.udpLength + 10 < _
    omega
  have hlength : q.mLength.toNat = p.mLength.toNat + 10 := by
    show (p.mLength + 10).toNat = _
    rw [UInt32.toNat_add]
    exact Nat.mod_eq_of_lt (by simpa using by omega)
  have haddress : ∀ o, 26 ≤ o → o + 4 ≤ 34 → p₂.readAddress o = p.readAddress o := by
    intro o hle hend
    refine readAddress_congr fun j hj => ?_
    rw [hp₂, writeHeader_apart (by omega), hroom₁ _ (by omega) (by omega) (by omega)]
  have hsrc : q.ipSrc = p.ipDst :=
    (turnAround_ipSrc ht).trans (haddress _ (by omega) (by omega))
  have hdst : q.ipDst = p.ipSrc :=
    (turnAround_ipDst ht).trans (haddress _ (by omega) (by omega))
  have hsport : q.read16 t = p.read16 t := by
    refine read16_congr ?_ ?_
    · exact hkept _ (by omega) (by omega) (by omega) (by omega) (by omega)
    · exact hkept _ (by omega) (by omega) (by omega) (by omega) (by omega)
  have hport : ∀ o, t ≤ o → o + 2 ≤ t + 4 → p₁.read16 o = p.read16 o := fun o hle hend =>
    read16_congr (hroom₁ _ (by omega) (by omega) (by omega))
      (hroom₁ _ (by omega) (by omega) (by omega))
  have hhead : q.slice (t + 8) (t + 18) = socks5UdpHeader p.ipDst p.thDport := by
    have hdst : p₁.ipDst = p.ipDst :=
      readAddress_congr fun j hj => hroom₁ _ (by omega) (by omega) (by omega)
    rw [thDport, htdef, ← hport _ (by omega) (by omega), ← hdst, ← writeHeader_slice ht]
    exact slice_congr fun i hstart hstop => turnAround_apart (by omega) (by omega) (by omega)
  have htail : q.slice (t + 18) (t + 18 + redirectSize api p) =
      p.slice (t + 8) (t + 8 + redirectSize api p) := by
    refine slice_eq_slice fun i hi => ?_
    rw [hq, turnAround_apart (by omega) (by omega) (by omega), hp₂, writeHeader_apart (by omega)]
    exact makeRoom_payload ht hi
  have hstage : Encapsulated port p q := by
    refine ⟨?_, hlength, hipHl, htotal, hudp, ?_, ?_, ?_⟩
    · exact IsUdp.of_bytes
        (fun i hle hlt => hkept i hle (by omega) (by omega) (by omega) (by omega))
        (hkept 23 (by omega) (by omega) (by omega) (by omega) (by omega))
    · rw [source, hsrc, thSport, thSport, hsame, htdef, hsport]
    · rw [destination, hdst, thDport, hsame, turnAround_read16]
    · have hstop : min (t + (p.udpLength + 10)) (p.mLength.toNat + 10) =
          t + 18 + redirectSize api p := by omega
      have hstop' : min (t + p.udpLength) p.mLength.toNat = t + 8 + redirectSize api p := by omega
      rw [IntermediateBuffer.payload, IntermediateBuffer.payload, udpPayload, udpPayload, hsame,
        htdef, hudp, hlength, hstop, hstop', slice_append (t + 18) (by omega) (by omega), hhead,
        htail]
  exact hstage.of_same (sameDatagram_recalculate hapi (by omega) (by omega))

/-! ## To the client -/

/-- The length of a field from which ten were subtracted. -/
theorem toNat_addToLength_sub {field : UInt16} (h : 10 ≤ (ntohs field).toNat) :
    (ntohs (addToLength field (0 - 10))).toNat + 10 = (ntohs field).toNat := by
  have hlt := (ntohs field).toNat_lt
  rw [addToLength, ntohs_htons, UInt16.toNat_add]
  show ((ntohs field).toNat + 65526) % 2 ^ 16 + 10 = _
  omega

/-- The first part of `restorePacket`: the datagram comes from the endpoint its payload names. -/
def takeSource (t : Nat) (packet : IntermediateBuffer) : IntermediateBuffer :=
  let payload := t + udphdrSize
  let packet := packet.swapEthernetAddresses.swapIpAddresses
  let packet := packet.write (etherHeaderLength + 12) (packet.readAddress (payload + 4)).toBytes
  packet.write16 t (packet.read16 (payload + 8))

/-- The last part: the payload moves over the header. -/
def dropHeader (t : Nat) (packet : IntermediateBuffer) : IntermediateBuffer :=
  let payload := t + udphdrSize
  let size := ((ntohs (packet.read16 (t + 4))).toNat + 2 ^ 64 - udphdrSize) % 2 ^ 16
  let packet := packet.memmove payload (payload + socks5UdpHeaderSize)
    ((size + 2 ^ 64 - socks5UdpHeaderSize) % 2 ^ 64)
  setLengths t (0 - 10) { packet with mLength := packet.mLength - 10 }

theorem restorePacket_eq :
    restorePacket api p =
      api.recalculateIPChecksum (api.recalculateUDPChecksum
        (dropHeader p.transport (takeSource p.transport p))) := rfl

theorem takeSource_apart {i : Nat} (hi : 12 ≤ i) (hip : i < 26 ∨ 34 ≤ i)
    (hport : i < t ∨ t + 2 ≤ i) : (takeSource t p).mIBuffer i = p.mIBuffer i := by
  have hoff : etherHeaderLength = 14 := rfl
  have hbytes : ∀ a : IpAddressV4, a.toBytes.length = 4 := fun _ => rfl
  unfold takeSource
  extract_lets payload p₁
  rw [write16_apart hport, write_apart (by rw [hbytes]; omega)]
  exact (swapIpAddresses_apart hip).trans (swapEthernetAddresses_apart hi)

theorem takeSource_ipSrc (ht : 34 ≤ t) :
    (takeSource t p).ipSrc = p.readAddress (t + 12) := by
  have hoff : etherHeaderLength = 14 := rfl
  unfold takeSource
  extract_lets payload p₁ p₂
  have hwritten : p₂.ipSrc = p₁.readAddress (t + 12) := readAddress_write _
  have hread : p₁.readAddress (t + 12) = p.readAddress (t + 12) := by
    refine readAddress_congr fun j hj => ?_
    exact (swapIpAddresses_apart (.inr (by omega))).trans (swapEthernetAddresses_apart (by omega))
  rw [← hread, ← hwritten]
  exact readAddress_congr fun j hj => write16_apart (by omega)

theorem takeSource_ipDst (ht : 34 ≤ t) : (takeSource t p).ipDst = p.ipSrc := by
  have hoff : etherHeaderLength = 14 := rfl
  unfold takeSource
  extract_lets payload p₁ p₂
  rw [← ipDst_swapAddresses]
  refine readAddress_congr fun j hj => (write16_apart (by omega)).trans ?_
  exact write_apart (.inr (show 26 + 4 ≤ _ by omega))

theorem takeSource_port (ht : 34 ≤ t) : (takeSource t p).read16 t = p.read16 (t + 16) := by
  unfold takeSource
  extract_lets payload p₁ p₂
  have hread : ∀ i, 34 ≤ i → p₂.mIBuffer i = p.mIBuffer i := by
    intro i hi
    refine (write_apart (.inr (show 26 + 4 ≤ i by omega))).trans ?_
    exact (swapIpAddresses_apart (.inr hi)).trans (swapEthernetAddresses_apart (by omega))
  exact (read16_write16 _).trans (read16_congr (hread _ (by omega)) (hread _ (by omega)))

theorem dropHeader_apart {i : Nat} (hend : i < t + 8) (hlen : i < 16 ∨ 18 ≤ i)
    (hports : i < t + 4 ∨ t + 6 ≤ i) : (dropHeader t p).mIBuffer i = p.mIBuffer i := by
  refine (setLengths_apart hlen hports).trans ?_
  exact memmove_apart (.inl hend)

theorem dropHeader_payload {i : Nat} (ht : 34 ≤ t)
    (h : i + 18 < (ntohs (p.read16 (t + 4))).toNat) :
    (dropHeader t p).mIBuffer (t + 8 + i) = p.mIBuffer (t + 18 + i) := by
  have hudphdr : udphdrSize = 8 := rfl
  have hsocks : socks5UdpHeaderSize = 10 := rfl
  have hlt := (ntohs (p.read16 (t + 4))).toNat_lt
  refine (setLengths_apart (by omega) (by omega)).trans ?_
  refine memmove_at ?_
  omega

theorem dropHeader_ipLen (ht : 34 ≤ t) :
    (dropHeader t p).ipLen = addToLength p.ipLen (0 - 10) := by
  have hmoved : ∀ i n, i < t + 8 → (p.memmove (t + 8) (t + 18) n).mIBuffer i = p.mIBuffer i :=
    fun i n hi => memmove_apart (.inl hi)
  refine (setLengths_ipLen ht).trans (congrArg (addToLength · (0 - 10)) ?_)
  exact read16_congr (hmoved 16 _ (by omega)) (hmoved 17 _ (by omega))

theorem dropHeader_udpLength (ht : 34 ≤ t) :
    (dropHeader t p).read16 (t + 4) = addToLength (p.read16 (t + 4)) (0 - 10) := by
  have hmoved : ∀ i n, i < t + 8 → (p.memmove (t + 8) (t + 18) n).mIBuffer i = p.mIBuffer i :=
    fun i n hi => memmove_apart (.inl hi)
  refine (setLengths_udpLength ht).trans (congrArg (addToLength · (0 - 10)) ?_)
  exact read16_congr (hmoved (t + 4) _ (by omega)) (hmoved (t + 5) _ (by omega))

/-- A payload that starts as a header does has its address and its port at their offsets. The four
bytes before them are not looked at. -/
theorem header_of_payload {first : List UInt8} {address : IpAddressV4} {rest : List UInt8}
    (hfirst : first.length = 4) (h : p.payload = first ++ address.toBytes ++ leBytes port ++ rest) :
    p.readAddress (p.transport + 12) = address ∧ p.read16 (p.transport + 16) = port := by
  have hbyte : ∀ j x, (first ++ address.toBytes ++ leBytes port ++ rest)[j]? = some x →
      p.mIBuffer (p.transport + 8 + j) = x := fun j x hx => mIBuffer_of_slice h hx
  match first, hfirst with
  | [_, _, _, _], _ =>
  constructor
  · have hone : p.mIBuffer (p.transport + 12) = address.sB1 := hbyte 4 _ rfl
    have htwo : p.mIBuffer (p.transport + 12 + 1) = address.sB2 := hbyte 5 _ rfl
    have hthree : p.mIBuffer (p.transport + 12 + 2) = address.sB3 := hbyte 6 _ rfl
    have hfour : p.mIBuffer (p.transport + 12 + 3) = address.sB4 := hbyte 7 _ rfl
    rw [readAddress, hone, htwo, hthree, hfour]
  · have hlow : p.mIBuffer (p.transport + 16) = _ := hbyte 8 _ rfl
    have hhigh : p.mIBuffer (p.transport + 16 + 1) = _ := hbyte 9 _ rfl
    rw [read16, hlow, hhigh]
    exact word16_leBytes port

/-- The end of a payload that starts with a header, and what follows the header. -/
theorem rest_of_payload {header rest : List UInt8} (hheader : header.length = 10)
    (h : p.payload = header ++ rest) :
    min (p.transport + p.udpLength) p.mLength.toNat = p.transport + 18 + rest.length ∧
      p.slice (p.transport + 18) (p.transport + 18 + rest.length) = rest := by
  have hlen := congrArg List.length h
  rw [List.length_append, IntermediateBuffer.payload, length_slice, udpPayload] at hlen
  have hstop : min (p.transport + p.udpLength) p.mLength.toNat =
      p.transport + 18 + rest.length := by omega
  have hsplit := h
  rw [IntermediateBuffer.payload, udpPayload, hstop,
    slice_append (p.transport + 18) (by omega) (by omega)] at hsplit
  have hfront : (p.slice (p.transport + 8) (p.transport + 18)).length = header.length := by
    rw [length_slice, hheader]
    omega
  exact ⟨hstop, (List.append_inj hsplit hfront).2⟩

/-- What the rewriting of a datagram of the local proxy does, when its payload has the bytes of a
header. -/
theorem restorePacket_read (hapi : api.Recalculates) (hheader : 5 ≤ p.ipHl)
    (hten : socks5UdpHeaderSize ≤ p.totalLength) {first : List UInt8} {address : IpAddressV4}
    {rest : List UInt8} (hfirst : first.length = 4)
    (h : p.payload = first ++ address.toBytes ++ leBytes port ++ rest) :
    Stripped address port rest p (restorePacket api p) := by
  have hoff : etherHeaderLength = 14 := rfl
  have hudphdr : udphdrSize = 8 := rfl
  have hsocks : socks5UdpHeaderSize = 10 := rfl
  have htransport : p.transport = 14 + 4 * p.ipHl := rfl
  have hsize : (first ++ address.toBytes ++ leBytes port).length = 10 := by
    rw [List.length_append, List.length_append, hfirst]
    rfl
  obtain ⟨haddress, hport⟩ := header_of_payload hfirst h
  obtain ⟨hstop, hrest⟩ := rest_of_payload hsize h
  have hold : p.udpLength = (ntohs (p.read16 (p.transport + 4))).toNat := rfl
  rw [restorePacket_eq]
  generalize htdef : p.transport = t at *
  have ht : 34 ≤ t := by omega
  set p₁ := takeSource t p with hp₁
  set q := dropHeader t p₁ with hq
  have hkept : ∀ i, 12 ≤ i → i < t + 8 → i < 16 ∨ 18 ≤ i → i < 26 ∨ 34 ≤ i →
      i < t ∨ t + 2 ≤ i → i < t + 4 ∨ t + 6 ≤ i → q.mIBuffer i = p.mIBuffer i := by
    intro i hi hend hlen hip hport hports
    rw [hq, dropHeader_apart hend hlen hports, hp₁, takeSource_apart hi hip hport]
  have hipHl : q.ipHl = p.ipHl := by
    rw [ipHl, ipHl, hkept _ (by omega) (by omega) (by omega) (by omega) (by omega) (by omega)]
  have hsame : q.transport = t := by rw [← htdef, transport, transport, hipHl]
  -- the length fields stay as they are while the endpoints are changed
  have hword : ∀ o, 12 ≤ o → o + 2 ≤ 26 ∨ t + 2 ≤ o → p₁.read16 o = p.read16 o := by
    intro o hle ho
    exact read16_congr (takeSource_apart (by omega) (by omega) (by omega))
      (takeSource_apart (by omega) (by omega) (by omega))
  have haddresses : ∀ o, 26 ≤ o → o + 4 ≤ 34 → q.readAddress o = p₁.readAddress o := by
    intro o hle hend
    exact readAddress_congr fun j hj => dropHeader_apart (by omega) (by omega) (by omega)
  have hports : ∀ o, t ≤ o → o + 2 ≤ t + 4 → q.read16 o = p₁.read16 o := by
    intro o hle hend
    exact read16_congr (dropHeader_apart (by omega) (by omega) (by omega))
      (dropHeader_apart (by omega) (by omega) (by omega))
  have hlength : q.mLength.toNat + 10 = p.mLength.toNat := by
    show (p.mLength - 10).toNat + 10 = _
    have hle : (10 : UInt32) ≤ p.mLength := UInt32.le_iff_toNat_le.mpr (show 10 ≤ _ by omega)
    rw [UInt32.toNat_sub_of_le _ _ hle]
    show p.mLength.toNat - 10 + 10 = _
    omega
  have htotal : q.totalLength + 10 = p.totalLength := by
    rw [totalLength, dropHeader_ipLen ht, ipLen, hword _ (by omega) (by omega)]
    exact toNat_addToLength_sub (show 10 ≤ p.totalLength by omega)
  have hudp : q.udpLength + 10 = p.udpLength := by
    rw [udpLength, hsame, dropHeader_udpLength ht, hword _ (by omega) (by omega), hold]
    exact toNat_addToLength_sub (by omega)
  have hsrc : q.ipSrc = address := by
    rw [ipSrc, haddresses _ (by omega) (by omega), ← ipSrc, takeSource_ipSrc ht, haddress]
  have hdst : q.ipDst = p.ipSrc :=
    (haddresses _ (by omega) (by omega)).trans (takeSource_ipDst ht)
  have hsport : q.read16 t = port := by
    rw [hports _ (by omega) (by omega), takeSource_port ht, hport]
  have hdport : q.read16 (t + 2) = p.read16 (t + 2) := by
    rw [hports _ (by omega) (by omega), hword _ (by omega) (by omega)]
  have htail : q.slice (t + 8) (t + 8 + rest.length) = rest := by
    refine Eq.trans (slice_eq_slice fun i hi => ?_) hrest
    rw [hq, dropHeader_payload ht (by rw [hword _ (by omega) (by omega)]; omega), hp₁,
      takeSource_apart (by omega) (by omega) (by omega)]
  have hstage : Stripped address port rest p q := by
    refine ⟨?_, hlength, hipHl, htotal, hudp, ?_, ?_, ?_⟩
    · exact IsUdp.of_bytes
        (fun i hle hlt => hkept i hle (by omega) (by omega) (by omega) (by omega) (by omega))
        (hkept 23 (by omega) (by omega) (by omega) (by omega) (by omega) (by omega))
    · rw [source, hsrc, thSport, hsame, hsport]
    · rw [destination, hdst, thDport, thDport, hsame, htdef, hdport]
    · have hend : min (t + q.udpLength) q.mLength.toNat = t + 8 + rest.length := by omega
      rw [IntermediateBuffer.payload, udpPayload, hsame, hend]
      exact htail
  exact hstage.of_same (sameDatagram_recalculate hapi (by omega) (by omega))

/-- A header that names an IPv4 endpoint. -/
theorem restorePacket_stripped (hapi : api.Recalculates) (hheader : 5 ≤ p.ipHl)
    (hten : socks5UdpHeaderSize ≤ p.totalLength) {address : IpAddressV4} {rest : List UInt8}
    (h : p.payload = socks5UdpHeader address port ++ rest) :
    Stripped address port rest p (restorePacket api p) :=
  restorePacket_read hapi hheader hten (show [0, 0, 0, 1].length = 4 from rfl) h

/-! ## There and back -/

/-- A datagram of the proxy whose payload starts with a header is translated back. -/
theorem processServerToClientPacket_stripped (hapi : api.Recalculates) (hudp : p.IsUdp)
    (hfrag : p.isFragmented = false) (hp : p.Consistent) {a b c : IpAddressV4} {x z pp : UInt16}
    {d : List UInt8} (hsource : p.source = ⟨a, pp, none⟩)
    (hdestination : p.destination = ⟨b, x, none⟩) (hknown : (r.endpoints.find x).isSome = true)
    (hpayload : p.payload = socks5UdpHeader c z ++ d) :
    ∃ out r₂, processServerToClientPacket api now p r = (true, out, r₂) ∧ out.IsUdp ∧
      out.source = ⟨c, z, none⟩ ∧ out.destination = ⟨a, x, none⟩ ∧ out.payload = d ∧
      out.Consistent := by
  rw [source_eq_iff] at hsource
  rw [destination_eq_iff] at hdestination
  obtain ⟨timestamp, hfind⟩ := Option.isSome_iff_exists.mp hknown
  have hpacket := hp.packet
  have hheader := hudp.header
  have hsocks : socks5UdpHeaderSize = 10 := rfl
  have hout := restorePacket_stripped hapi hheader (by omega) hpayload
  rw [← hdestination.2] at hfind
  have hdest := hout.destination
  rw [hsource.1, hdestination.2] at hdest
  exact ⟨_, _, processServerToClientPacket_known hudp.ip hfrag hfind, hout.isUdp hudp, hout.source,
    hdest, hout.payload, hout.consistent hp hpayload⟩

variable (now r) in
/-- For every unfragmented datagram `a:x -> b:y` with consistent lengths and room for ten bytes
more, while `x` is entered: it becomes `b:x -> a:pp`, with a header naming `(b, y)` in front of its
payload. In every state in which `x` is entered every datagram `a:pp -> b:x` whose payload is a
header naming `(c, z)` followed by `d` becomes `c:z -> a:x` with the payload `d`; one that echoes
the payload of the first gives back its original payload, coming from `b:y`. All lengths stay
consistent. -/
theorem round_trip (hapi : api.Recalculates) (hmax : api.maxEtherFrame.toNat < 2 ^ 16)
    (hudp : p.IsUdp) (hfrag : p.isFragmented = false) (hp : p.Consistent)
    (hroom : p.mLength.toNat + socks5UdpHeaderSize ≤ api.maxEtherFrame.toNat)
    {a b : IpAddressV4} {x y pp : UInt16} (hsource : p.source = ⟨a, x, none⟩)
    (hdestination : p.destination = ⟨b, y, none⟩) (hknown : (r.endpoints.find x).isSome = true)
    (hport : pp = if port = 0 then r.proxyPort else port) :
    ∃ q r₁, processClientToServerPacket api now p port r = (true, q, r₁) ∧ q.IsUdp ∧
      q.source = ⟨b, x, none⟩ ∧ q.destination = ⟨a, pp, none⟩ ∧
      q.payload = socks5UdpHeader b y ++ p.payload ∧ q.Consistent ∧
      ∀ (now' : TimePoint) (r' : Socks5UdpLocalRedirect) (reply : IntermediateBuffer),
        reply.IsUdp → reply.isFragmented = false → reply.Consistent →
        reply.source = ⟨a, pp, none⟩ → reply.destination = ⟨b, x, none⟩ →
        (r'.endpoints.find x).isSome = true →
        (∀ c z d, reply.payload = socks5UdpHeader c z ++ d →
          ∃ out r₂, processServerToClientPacket api now' reply r' = (true, out, r₂) ∧ out.IsUdp ∧
            out.source = ⟨c, z, none⟩ ∧ out.destination = ⟨a, x, none⟩ ∧ out.payload = d ∧
            out.Consistent) ∧
        (reply.payload = q.payload →
          ∃ out r₂, processServerToClientPacket api now' reply r' = (true, out, r₂) ∧ out.IsUdp ∧
            out.source = ⟨b, y, none⟩ ∧ out.destination = ⟨a, x, none⟩ ∧
            out.payload = p.payload ∧ out.Consistent) := by
  obtain ⟨hsrc, hsport⟩ : p.ipSrc = a ∧ p.thSport = x := source_eq_iff.mp hsource
  obtain ⟨hdst, hdport⟩ : p.ipDst = b ∧ p.thDport = y := destination_eq_iff.mp hdestination
  obtain ⟨timestamp, hfind⟩ := Option.isSome_iff_exists.mp hknown
  have hq : Encapsulated pp p (redirectPacket api pp p) :=
    redirectPacket_encapsulated hapi hudp.header hp hroom hmax
  have hpayload := hq.payload
  rw [hdst, hdport] at hpayload
  rw [← hsport] at hfind
  have hprocess : processClientToServerPacket api now p port r = (true, redirectPacket api pp p,
      { r with endpoints := r.endpoints.insert p.thSport now }) := by
    rw [processClientToServerPacket_known hudp.ip hfrag hfind, hport]
  refine ⟨_, _, hprocess, hq.isUdp hudp, ?_, ?_, hpayload, hq.consistent hp, ?_⟩
  · rw [hq.source, hdst, hsport]
  · rw [hq.destination, hsrc]
  · intro now' r' reply hreply hreplyFrag hreplyLengths hfrom hto hknown'
    have hback : ∀ c z d, reply.payload = socks5UdpHeader c z ++ d →
        ∃ out r₂, processServerToClientPacket api now' reply r' = (true, out, r₂) ∧ out.IsUdp ∧
          out.source = ⟨c, z, none⟩ ∧ out.destination = ⟨a, x, none⟩ ∧ out.payload = d ∧
          out.Consistent := by
      intro c z d hpayload'
      exact processServerToClientPacket_stripped hapi hreply hreplyFrag hreplyLengths hfrom hto
        hknown' hpayload'
    exact ⟨hback, fun hecho => hback b y p.payload (hecho.trans hpayload)⟩

namespace Dns

/-- A client's query. -/
def query : IntermediateBuffer := udpFrame ⟨10, 0, 0, 1⟩ ⟨10, 0, 0, 2⟩ 5000 53 ipDf [1, 2, 3]

/-- The local proxy's answer, which echoes it. -/
def echo : IntermediateBuffer :=
  udpFrame ⟨10, 0, 0, 1⟩ ⟨10, 0, 0, 2⟩ 1080 5000 0 [0, 0, 0, 1, 10, 0, 0, 2, 0, 53, 1, 2, 3]

/-- The client's port is entered. -/
def entered : Socks5UdpLocalRedirect where
  endpoints := Table.empty.insert (htons 5000) 0
  proxyPort := htons 1080

theorem query_consistent : query.Consistent := ⟨by decide, by decide, by decide⟩

theorem echo_consistent : echo.Consistent := ⟨by decide, by decide, by decide⟩

end Dns

open Dns in
theorem round_trip_dns :
    ∃ out r₂, processServerToClientPacket .internet 0 echo entered = (true, out, r₂) ∧
      out.source = ⟨⟨10, 0, 0, 2⟩, htons 53, none⟩ ∧
      out.destination = ⟨⟨10, 0, 0, 1⟩, htons 5000, none⟩ ∧ out.payload = [1, 2, 3] := by
  have hsource : query.source = ⟨⟨10, 0, 0, 1⟩, htons 5000, none⟩ := by decide
  have hdestination : query.destination = ⟨⟨10, 0, 0, 2⟩, htons 53, none⟩ := by decide
  obtain ⟨q, r₁, -, -, -, -, -, -, hback⟩ := round_trip 0 entered CNdisApi.internet_recalculates
    (by decide) (udpFrame_isUdp ..) (by decide) query_consistent (by decide) hsource hdestination
    (by decide) (if_pos rfl).symm
  obtain ⟨out, r₂, hprocess, -, hfrom, hto, hpayload, -⟩ :=
    (hback 0 entered echo (udpFrame_isUdp ..) (by decide) echo_consistent (by decide) (by decide)
      (by decide)).1 ⟨10, 0, 0, 2⟩ (htons 53) [1, 2, 3] (by decide)
  exact ⟨out, r₂, hprocess, hfrom, hto, hpayload⟩

end Socks5UdpLocalRedirect

end CutieProxy
