import CutieProxy.Lib.Store
import CutieProxy.Net.Inet

/-!
# Packets

An `INTERMEDIATE_BUFFER` of the driver is a length and the memory of a frame. The headers of
`iphlp.h` are read and written at their offsets, as the source does through its header pointers: the
IP header follows the Ethernet header, and the transport header starts where the length field of the
IP header says, so nothing keeps it from overlapping the IP header when that field is too small.
Ports and other 16-bit fields are in network order unless the name says otherwise.

The driver's library, which recalculates checksums, is not part of the repository: `CNdisApi` takes
its functions as they are.
-/

namespace CutieProxy

/-- `net::ip_endpoint`; the scope is only ever set for IPv6. -/
structure IpEndpoint (T : Type) where
  ip : T
  port : UInt16
  scopeId : Option UInt32 := none
  deriving DecidableEq, Repr

/-- `net::ip_session`. -/
structure IpSession (T : Type) where
  localEndpoint : IpEndpoint T
  remoteEndpoint : IpEndpoint T
  deriving DecidableEq, Repr

/-- `INTERMEDIATE_BUFFER`: the length of the frame and its memory. -/
structure IntermediateBuffer where
  mLength : UInt32
  mIBuffer : Nat → UInt8

/-- The functions of the driver's library, and the size it gives a frame. -/
structure CNdisApi where
  recalculateTCPChecksum : IntermediateBuffer → IntermediateBuffer
  recalculateUDPChecksum : IntermediateBuffer → IntermediateBuffer
  recalculateIPChecksum : IntermediateBuffer → IntermediateBuffer
  maxEtherFrame : UInt32

/-- A library that leaves the checksums as they are. -/
def CNdisApi.plain : CNdisApi := ⟨id, id, id, 1514⟩

/-! ## Constants of `iphlp.h` -/

/-- `ETHER_HEADER_LENGTH`, the size of `ether_header`. -/
def etherHeaderLength : Nat := 14

/-- `ETH_P_IP`. -/
def ethPIp : UInt16 := 0x0800

/-- `IPPROTO_TCP`. -/
def ipprotoTcp : UInt8 := 6

/-- `IPPROTO_UDP`. -/
def ipprotoUdp : UInt8 := 17

/-- `IP_DF`. -/
def ipDf : UInt16 := 0x4000

/-- `TH_FIN`. -/
def thFin : UInt8 := 0x01

/-- `TH_SYN`. -/
def thSyn : UInt8 := 0x02

/-- `TH_RST`. -/
def thRst : UInt8 := 0x04

/-- `TH_ACK`. -/
def thAck : UInt8 := 0x10

namespace IntermediateBuffer

/-! ## Reading headers -/

/-- The 16-bit field at an offset. -/
def read16 (p : IntermediateBuffer) (offset : Nat) : UInt16 :=
  word16 (p.mIBuffer offset) (p.mIBuffer (offset + 1))

/-- The address at an offset. -/
def readAddress (p : IntermediateBuffer) (offset : Nat) : IpAddressV4 :=
  ⟨p.mIBuffer offset, p.mIBuffer (offset + 1), p.mIBuffer (offset + 2), p.mIBuffer (offset + 3)⟩

/-- `ether_header::h_proto`. -/
def hProto (p : IntermediateBuffer) : UInt16 := p.read16 12

/-- `mac_address::is_broadcast` of `ether_header::h_dest`. -/
def isBroadcast (p : IntermediateBuffer) : Bool := (List.range 6).all fun i => p.mIBuffer i == 0xFF

/-- `mac_address::is_multicast` of `ether_header::h_dest`. -/
def isMulticast (p : IntermediateBuffer) : Bool := p.mIBuffer 0 &&& 0x01 == 0x01

/-- `iphdr::ip_hl`, in double words. -/
def ipHl (p : IntermediateBuffer) : Nat := (p.mIBuffer etherHeaderLength).toNat % 16

/-- `iphdr::ip_len`. -/
def ipLen (p : IntermediateBuffer) : UInt16 := p.read16 (etherHeaderLength + 2)

/-- `iphdr::ip_off`. -/
def ipOff (p : IntermediateBuffer) : UInt16 := p.read16 (etherHeaderLength + 6)

/-- `iphdr::ip_p`. -/
def ipP (p : IntermediateBuffer) : UInt8 := p.mIBuffer (etherHeaderLength + 9)

/-- `iphdr::ip_src`. -/
def ipSrc (p : IntermediateBuffer) : IpAddressV4 := p.readAddress (etherHeaderLength + 12)

/-- `iphdr::ip_dst`. -/
def ipDst (p : IntermediateBuffer) : IpAddressV4 := p.readAddress (etherHeaderLength + 16)

/-- The offset of the transport header. -/
def transport (p : IntermediateBuffer) : Nat := etherHeaderLength + 4 * p.ipHl

/-- `tcphdr::th_sport` and `udphdr::th_sport`. -/
def thSport (p : IntermediateBuffer) : UInt16 := p.read16 p.transport

/-- `tcphdr::th_dport` and `udphdr::th_dport`. -/
def thDport (p : IntermediateBuffer) : UInt16 := p.read16 (p.transport + 2)

/-- `tcphdr::th_flags`. -/
def thFlags (p : IntermediateBuffer) : UInt8 := p.mIBuffer (p.transport + 13)

/-- `(th_flags & (TH_SYN | TH_ACK)) == TH_SYN`. -/
def isSyn (p : IntermediateBuffer) : Bool := p.thFlags &&& (thSyn ||| thAck) == thSyn

/-- `th_flags & TH_RST || th_flags & TH_FIN`. -/
def isRstOrFin (p : IntermediateBuffer) : Bool :=
  p.thFlags &&& thRst != 0 || p.thFlags &&& thFin != 0

/-- `(ntohs(ip_off) & ~IP_DF) != 0`. -/
def isFragmented (p : IntermediateBuffer) : Bool := ntohs p.ipOff &&& ~~~ipDf != 0

/-- An IPv4 packet of the protocol `protocol`. -/
def IsIpv4 (protocol : UInt8) (p : IntermediateBuffer) : Prop :=
  ntohs p.hProto = ethPIp ∧ p.ipP = protocol

instance {protocol : UInt8} {p : IntermediateBuffer} : Decidable (p.IsIpv4 protocol) :=
  inferInstanceAs (Decidable (_ ∧ _))

/-- The broadcast address is a multicast address. -/
theorem isBroadcast_of_unicast {p : IntermediateBuffer} (h : p.isMulticast = false) :
    p.isBroadcast = false := by
  cases hb : p.isBroadcast with
  | false => rfl
  | true =>
    have hall := List.all_eq_true.mp hb 0 (by decide)
    rw [beq_iff_eq] at hall
    rw [isMulticast, hall] at h
    exact absurd h (by decide)

/-! ## Writing headers -/

/-- Stores bytes at an offset. -/
def write (offset : Nat) (bytes : List UInt8) (p : IntermediateBuffer) : IntermediateBuffer :=
  { p with mIBuffer := Store.write p.mIBuffer offset bytes }

/-- `memmove` inside the frame. -/
def memmove (dst src size : Nat) (p : IntermediateBuffer) : IntermediateBuffer :=
  { p with mIBuffer := Store.copy p.mIBuffer dst src size }

/-- Swaps `h_dest` and `h_source`. -/
def swapEthernetAddresses (p : IntermediateBuffer) : IntermediateBuffer :=
  (p.write 0 ((List.range' 6 6).map p.mIBuffer)).write 6 ((List.range' 0 6).map p.mIBuffer)

/-- Swaps `ip_dst` and `ip_src`. -/
def swapIpAddresses (p : IntermediateBuffer) : IntermediateBuffer :=
  (p.write (etherHeaderLength + 12) p.ipDst.toBytes).write (etherHeaderLength + 16) p.ipSrc.toBytes

/-- Writes a 16-bit field. -/
def write16 (offset : Nat) (value : UInt16) (p : IntermediateBuffer) : IntermediateBuffer :=
  p.write offset (leBytes value)

/-! ## Frames -/

/-- The buffer that holds a frame. -/
def ofBytes (bytes : List UInt8) : IntermediateBuffer :=
  ⟨UInt32.ofNat bytes.length, fun i => bytes.getD i 0⟩

/-- The frame of an IPv4 packet, without options. -/
def ipv4Frame (protocol : UInt8) (src dst : IpAddressV4) (flagsAndOffset : UInt16)
    (body : List UInt8) : IntermediateBuffer :=
  ofBytes ([2, 0, 0, 0, 0, 2, 2, 0, 0, 0, 0, 1] ++ beBytes ethPIp ++ [0x45, 0] ++
    beBytes (UInt16.ofNat (20 + body.length)) ++ [0, 0] ++ beBytes flagsAndOffset ++
    [64, protocol, 0, 0] ++ src.toBytes ++ dst.toBytes ++ body)

/-- The frame of a TCP segment without data; the ports are in host order. -/
def tcpFrame (src dst : IpAddressV4) (sport dport : UInt16) (flags : UInt8) : IntermediateBuffer :=
  ipv4Frame ipprotoTcp src dst ipDf (beBytes sport ++ beBytes dport ++ [0, 0, 0, 0, 0, 0, 0, 0] ++
    [0x50, flags, 0, 0, 0, 0, 0, 0])

/-- The frame of a datagram; the ports are in host order. -/
def udpFrame (src dst : IpAddressV4) (sport dport flagsAndOffset : UInt16) (data : List UInt8) :
    IntermediateBuffer :=
  ipv4Frame ipprotoUdp src dst flagsAndOffset
    (beBytes sport ++ beBytes dport ++ beBytes (UInt16.ofNat (8 + data.length)) ++ [0, 0] ++ data)

end IntermediateBuffer

end CutieProxy
