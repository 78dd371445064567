import Mathlib.Algebra.Group.Nat.Defs
import CutieProxy.Ndisapi.TcpLocalRedirect

/-!
# `socks5_udp_local_redirect`

The UDP redirection, for IPv4. The table holds the source ports of the clients, with the time of
their last datagram. A datagram of a client gets a SOCKS5 UDP header with its destination in front
of its payload and goes back to the local proxy; a datagram of the proxy loses its header, whose
address becomes its source. Entries are erased only by the clean-up thread, when they are idle for
more than fifteen minutes.
-/

namespace CutieProxy

/-- `socks5_udp_local_redirect`; all ports are in network order. -/
structure Socks5UdpLocalRedirect where
  endpoints : Table UInt16 TimePoint := .empty
  proxyPort : UInt16 := 0

/-- The size of `socks5_udp_header<net::ip_address_v4>`. -/
def socks5UdpHeaderSize : Nat := 10

/-- The size of `udphdr`. -/
def udphdrSize : Nat := 8

namespace Socks5UdpLocalRedirect

open IntermediateBuffer

/-- One pass of the clean-up thread at the time `now`. -/
def cleanup (now : TimePoint) (r : Socks5UdpLocalRedirect) : Socks5UdpLocalRedirect :=
  { r with endpoints := r.endpoints.sweep fun _ timestamp => minutes 15 < now - timestamp }

/-- `is_new_endpoint`: enters the source port of a client when it is not in the table. -/
def isNewEndpoint (now : TimePoint) (packet : IntermediateBuffer) (r : Socks5UdpLocalRedirect) :
    Bool × Socks5UdpLocalRedirect :=
  if ntohs packet.hProto ≠ ethPIp then (false, r)
  else if packet.ipP ≠ ipprotoUdp then (false, r)
  else
    match r.endpoints.find packet.thSport with
    | none => (true, { r with endpoints := r.endpoints.insert packet.thSport now })
    | some _ => (false, r)

/-- `static_cast<uint16_t>` of the difference between a frame length and the headers before the
payload of a datagram. -/
def payloadSize (packet : IntermediateBuffer) (frame : UInt32) : Nat :=
  (frame.toNat + 2 ^ 64 - etherHeaderLength - 4 * packet.ipHl - udphdrSize) % 2 ^ 16

/-- A 16-bit length field in network order, with `n` added modulo 2^16. -/
def addToLength (field : UInt16) (n : UInt16) : UInt16 := htons (ntohs field + n)

/-- The rewriting of a client's datagram. -/
def redirectPacket (api : CNdisApi) (port : UInt16) (packet : IntermediateBuffer) :
    IntermediateBuffer :=
  let udpHeader := packet.transport
  let payload := udpHeader + udphdrSize
  let size := min (payloadSize packet packet.mLength) (payloadSize packet api.maxEtherFrame)
  let packet := packet.memmove (payload + socks5UdpHeaderSize) payload size
  let packet := { packet with mLength := packet.mLength + 10 }
  let packet := packet.write16 (etherHeaderLength + 2) (addToLength packet.ipLen 10)
  let packet := packet.write16 (udpHeader + 4) (addToLength (packet.read16 (udpHeader + 4)) 10)
  let packet := packet.write payload [0, 0, 0, 1]
  let packet := packet.write (payload + 4) packet.ipDst.toBytes
  let packet := packet.write16 (payload + 8) (packet.read16 (udpHeader + 2))
  let packet := packet.swapEthernetAddresses.swapIpAddresses.write16 (udpHeader + 2) port
  api.recalculateIPChecksum (api.recalculateUDPChecksum packet)

/-- The rewriting of a datagram of the local proxy. The length of its last move is computed in
`size_t`, below zero for a datagram shorter than the header it should hold. -/
def restorePacket (api : CNdisApi) (packet : IntermediateBuffer) : IntermediateBuffer :=
  let udpHeader := packet.transport
  let payload := udpHeader + udphdrSize
  let packet := packet.swapEthernetAddresses.swapIpAddresses
  let packet := packet.write (etherHeaderLength + 12) (packet.readAddress (payload + 4)).toBytes
  let packet := packet.write16 udpHeader (packet.read16 (payload + 8))
  let size := ((ntohs (packet.read16 (udpHeader + 4))).toNat + 2 ^ 64 - udphdrSize) % 2 ^ 16
  let packet := packet.memmove payload (payload + socks5UdpHeaderSize)
    ((size + 2 ^ 64 - socks5UdpHeaderSize) % 2 ^ 64)
  let packet := { packet with mLength := packet.mLength - 10 }
  let packet := packet.write16 (etherHeaderLength + 2) (addToLength packet.ipLen (0 - 10))
  let packet := packet.write16 (udpHeader + 4) (addToLength (packet.read16 (udpHeader + 4)) (0 - 10))
  api.recalculateIPChecksum (api.recalculateUDPChecksum packet)

/-- `process_client_to_server_packet`. -/
def processClientToServerPacket (api : CNdisApi) (now : TimePoint) (packet : IntermediateBuffer)
    (port : UInt16) (r : Socks5UdpLocalRedirect) :
    Bool × IntermediateBuffer × Socks5UdpLocalRedirect :=
  let port := if port = 0 then r.proxyPort else port
  if ntohs packet.hProto ≠ ethPIp then (false, packet, r)
  else if packet.ipP ≠ ipprotoUdp then (false, packet, r)
  else if packet.isFragmented then (false, packet, r)
  else
    match r.endpoints.find packet.thSport with
    | none => (false, packet, r)
    | some _ =>
      (true, redirectPacket api port packet,
        { r with endpoints := r.endpoints.insert packet.thSport now })

/-- `process_server_to_client_packet`. -/
def processServerToClientPacket (api : CNdisApi) (now : TimePoint) (packet : IntermediateBuffer)
    (r : Socks5UdpLocalRedirect) : Bool × IntermediateBuffer × Socks5UdpLocalRedirect :=
  if ntohs packet.hProto ≠ ethPIp then (false, packet, r)
  else if packet.ipP ≠ ipprotoUdp then (false, packet, r)
  else if packet.isFragmented then (false, packet, r)
  else
    match r.endpoints.find packet.thDport with
    | none => (false, packet, r)
    | some _ =>
      (true, restorePacket api packet,
        { r with endpoints := r.endpoints.insert packet.thDport now })

/-! ## What a datagram does to the table -/

variable {api : CNdisApi} {now timestamp : TimePoint} {packet : IntermediateBuffer} {port : UInt16}
  {r : Socks5UdpLocalRedirect}

/-- The source port of a datagram is new when it is not in the table, and entered then. -/
theorem isNewEndpoint_new (hip : packet.IsIpv4 ipprotoUdp)
    (h : r.endpoints.find packet.thSport = none) :
    isNewEndpoint now packet r =
      (true, { r with endpoints := r.endpoints.insert packet.thSport now }) := by
  simp [isNewEndpoint, hip.1, hip.2, h]

/-- The source port of a datagram is not new when it is in the table. -/
theorem isNewEndpoint_known (h : r.endpoints.find packet.thSport = some timestamp) :
    isNewEndpoint now packet r = (false, r) := by
  simp [isNewEndpoint, h]

/-- A packet that is not UDP over IPv4 is left alone. -/
theorem processClientToServerPacket_other (hip : ¬ packet.IsIpv4 ipprotoUdp) :
    processClientToServerPacket api now packet port r = (false, packet, r) := by
  by_cases heth : ntohs packet.hProto = ethPIp
  · have hproto : packet.ipP ≠ ipprotoUdp := fun hproto => hip ⟨heth, hproto⟩
    simp [processClientToServerPacket, hproto]
  · simp [processClientToServerPacket, heth]

/-- A datagram whose source port is not in the table is left alone. -/
theorem processClientToServerPacket_unknown (h : r.endpoints.find packet.thSport = none) :
    processClientToServerPacket api now packet port r = (false, packet, r) := by
  simp [processClientToServerPacket, h]

/-- A fragment is left alone. -/
theorem processClientToServerPacket_fragment (hfrag : packet.isFragmented = true) :
    processClientToServerPacket api now packet port r = (false, packet, r) := by
  simp [processClientToServerPacket, hfrag]

/-- A datagram of a client that is entered is redirected, unless it is a fragment. -/
theorem processClientToServerPacket_known (hip : packet.IsIpv4 ipprotoUdp)
    (hfrag : packet.isFragmented = false)
    (h : r.endpoints.find packet.thSport = some timestamp) :
    processClientToServerPacket api now packet port r =
      (true, redirectPacket api (if port = 0 then r.proxyPort else port) packet,
        { r with endpoints := r.endpoints.insert packet.thSport now }) := by
  simp [processClientToServerPacket, hip.1, hip.2, hfrag, h]

/-- A packet of a proxy that is not UDP over IPv4 is left alone. -/
theorem processServerToClientPacket_other (hip : ¬ packet.IsIpv4 ipprotoUdp) :
    processServerToClientPacket api now packet r = (false, packet, r) := by
  by_cases heth : ntohs packet.hProto = ethPIp
  · have hproto : packet.ipP ≠ ipprotoUdp := fun hproto => hip ⟨heth, hproto⟩
    simp [processServerToClientPacket, hproto]
  · simp [processServerToClientPacket, heth]

/-- A datagram of a proxy whose destination port is not in the table is left alone. -/
theorem processServerToClientPacket_unknown (h : r.endpoints.find packet.thDport = none) :
    processServerToClientPacket api now packet r = (false, packet, r) := by
  simp [processServerToClientPacket, h]

/-- A fragment of a proxy is left alone. -/
theorem processServerToClientPacket_fragment (hfrag : packet.isFragmented = true) :
    processServerToClientPacket api now packet r = (false, packet, r) := by
  simp [processServerToClientPacket, hfrag]

/-- A datagram of a proxy for a client that is entered is translated back, unless it is a
fragment. -/
theorem processServerToClientPacket_known (hip : packet.IsIpv4 ipprotoUdp)
    (hfrag : packet.isFragmented = false)
    (h : r.endpoints.find packet.thDport = some timestamp) :
    processServerToClientPacket api now packet r =
      (true, restorePacket api packet,
        { r with endpoints := r.endpoints.insert packet.thDport now }) := by
  simp [processServerToClientPacket, hip.1, hip.2, hfrag, h]

variable (api now packet port r) in
/-- Everything a datagram of a client can come to. -/
theorem processClientToServerPacket_cases :
    processClientToServerPacket api now packet port r = (false, packet, r) ∨
    (packet.IsIpv4 ipprotoUdp ∧ packet.isFragmented = false ∧
      ∃ timestamp, r.endpoints.find packet.thSport = some timestamp) := by
  by_cases hip : packet.IsIpv4 ipprotoUdp
  · cases hfrag : packet.isFragmented with
    | true => exact .inl (processClientToServerPacket_fragment hfrag)
    | false =>
      cases hfind : r.endpoints.find packet.thSport with
      | none => exact .inl (processClientToServerPacket_unknown hfind)
      | some timestamp => exact .inr ⟨hip, rfl, timestamp, rfl⟩
  · exact .inl (processClientToServerPacket_other hip)

variable (api now packet r) in
/-- Everything a datagram of a proxy can do to the table: it refreshes an entry at most. -/
theorem processServerToClientPacket_cases :
    (processServerToClientPacket api now packet r).2.2 = r ∨
    ∃ timestamp, r.endpoints.find packet.thDport = some timestamp ∧
      (processServerToClientPacket api now packet r).2.2 =
        { r with endpoints := r.endpoints.insert packet.thDport now } := by
  by_cases hip : packet.IsIpv4 ipprotoUdp
  · cases hfrag : packet.isFragmented with
    | true => exact .inl (by rw [processServerToClientPacket_fragment hfrag])
    | false =>
      cases hfind : r.endpoints.find packet.thDport with
      | none => exact .inl (by rw [processServerToClientPacket_unknown hfind])
      | some timestamp =>
        exact .inr ⟨timestamp, rfl, by rw [processServerToClientPacket_known hip hfrag hfind]⟩
  · exact .inl (by rw [processServerToClientPacket_other hip])

end Socks5UdpLocalRedirect

end CutieProxy
