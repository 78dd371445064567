import CutieProxy.Lib.Table
import CutieProxy.Net.Packet

/-!
# `tcp_local_redirect`

The NAT table of the TCP redirection, for IPv4. A connection of a client is entered by its SYN under
the destination address and the source port, with its destination port. Later packets of the client
are found under the same key and sent back to the local proxy, packets of the proxy under their
destination address and port, and sent back as if from the server. A FIN or RST in either direction
passes through and erases the entry, and a pass of the clean-up thread erases the entries idle for
more than five minutes.
-/

namespace CutieProxy

/-- A reading of `std::chrono::steady_clock`, in nanoseconds. -/
abbrev TimePoint := Nat

/-- A number of minutes. -/
def minutes (n : Nat) : Nat := n * 60 * 1000000000

/-- `tcp_local_redirect`; all ports are in network order. -/
structure TcpLocalRedirect where
  redirectedConnections : Table (IpEndpoint IpAddressV4) (UInt16 × TimePoint) := .empty
  proxyPort : UInt16 := 0

namespace TcpLocalRedirect

open IntermediateBuffer

/-- The key of a packet of the client. -/
def clientKey (packet : IntermediateBuffer) : IpEndpoint IpAddressV4 :=
  ⟨packet.ipDst, packet.thSport, none⟩

/-- The key of a packet of the local proxy. -/
def serverKey (packet : IntermediateBuffer) : IpEndpoint IpAddressV4 :=
  ⟨packet.ipDst, packet.thDport, none⟩

/-- One pass of the clean-up thread at the time `now`. -/
def cleanup (now : TimePoint) (r : TcpLocalRedirect) : TcpLocalRedirect :=
  { r with redirectedConnections :=
      r.redirectedConnections.sweep fun _ entry => minutes 5 < now - entry.2 }

/-- The rewriting of a client packet: back to its sender, at the port of the local proxy. -/
def redirectPacket (api : CNdisApi) (port : UInt16) (packet : IntermediateBuffer) :
    IntermediateBuffer :=
  let tcpHeader := packet.transport
  api.recalculateIPChecksum (api.recalculateTCPChecksum
    (packet.swapEthernetAddresses.swapIpAddresses.write16 (tcpHeader + 2) port))

/-- The rewriting of a packet of the local proxy: back to its sender, from the port of the
server. -/
def restorePacket (api : CNdisApi) (port : UInt16) (packet : IntermediateBuffer) :
    IntermediateBuffer :=
  let tcpHeader := packet.transport
  api.recalculateIPChecksum (api.recalculateTCPChecksum
    ((packet.write16 tcpHeader port).swapEthernetAddresses.swapIpAddresses))

/-- An entry after a packet of its connection: erased by RST or FIN, else refreshed. -/
def touch (now : TimePoint) (packet : IntermediateBuffer) (key : IpEndpoint IpAddressV4)
    (port : UInt16) (r : TcpLocalRedirect) : TcpLocalRedirect :=
  { r with redirectedConnections :=
      if packet.isRstOrFin then r.redirectedConnections.erase key
      else r.redirectedConnections.insert key (port, now) }

/-- `process_client_to_server_packet`. -/
def processClientToServerPacket (api : CNdisApi) (now : TimePoint) (packet : IntermediateBuffer)
    (port : UInt16) (r : TcpLocalRedirect) : Bool × IntermediateBuffer × TcpLocalRedirect :=
  let port := if port = 0 then r.proxyPort else port
  if ntohs packet.hProto ≠ ethPIp then (false, packet, r)
  else if packet.ipP ≠ ipprotoTcp then (false, packet, r)
  else if packet.isSyn then
    match r.redirectedConnections.find (clientKey packet) with
    | some _ => (false, packet, r)
    | none =>
      let connections := r.redirectedConnections.insert (clientKey packet) (packet.thDport, now)
      (true, redirectPacket api port packet, { r with redirectedConnections := connections })
  else
    match r.redirectedConnections.find (clientKey packet) with
    | none => (false, packet, r)
    | some (serverPort, _) =>
      (true, redirectPacket api port packet, r.touch now packet (clientKey packet) serverPort)

/-- `process_server_to_client_packet`. -/
def processServerToClientPacket (api : CNdisApi) (now : TimePoint) (packet : IntermediateBuffer)
    (r : TcpLocalRedirect) : Bool × IntermediateBuffer × TcpLocalRedirect :=
  if ntohs packet.hProto ≠ ethPIp then (false, packet, r)
  else if packet.ipP ≠ ipprotoTcp then (false, packet, r)
  else
    match r.redirectedConnections.find (serverKey packet) with
    | none => (false, packet, r)
    | some (serverPort, _) =>
      (true, restorePacket api serverPort packet, r.touch now packet (serverKey packet) serverPort)

/-! ## What a packet does to the table -/

variable {api : CNdisApi} {now : TimePoint} {packet : IntermediateBuffer} {port serverPort : UInt16}
  {timestamp : TimePoint} {r : TcpLocalRedirect}

/-- A packet no entry is known for, and that is no SYN, is left alone. -/
theorem processClientToServerPacket_unknown (hsyn : packet.isSyn = false)
    (h : r.redirectedConnections.find (clientKey packet) = none) :
    processClientToServerPacket api now packet port r = (false, packet, r) := by
  simp [processClientToServerPacket, hsyn, h]

/-- A packet that is not TCP over IPv4 is left alone. -/
theorem processClientToServerPacket_other (hip : ¬ packet.IsIpv4 ipprotoTcp) :
    processClientToServerPacket api now packet port r = (false, packet, r) := by
  by_cases heth : ntohs packet.hProto = ethPIp
  · have hproto : packet.ipP ≠ ipprotoTcp := fun hproto => hip ⟨heth, hproto⟩
    simp [processClientToServerPacket, hproto]
  · simp [processClientToServerPacket, heth]

/-- A SYN enters its connection. -/
theorem processClientToServerPacket_syn (hip : packet.IsIpv4 ipprotoTcp)
    (hsyn : packet.isSyn = true) (h : r.redirectedConnections.find (clientKey packet) = none) :
    processClientToServerPacket api now packet port r =
      (true, redirectPacket api (if port = 0 then r.proxyPort else port) packet,
        { r with redirectedConnections :=
            r.redirectedConnections.insert (clientKey packet) (packet.thDport, now) }) := by
  simp [processClientToServerPacket, hip.1, hip.2, hsyn, h]

/-- A SYN of a connection that is already entered is left alone. -/
theorem processClientToServerPacket_syn_known (hsyn : packet.isSyn = true)
    (h : r.redirectedConnections.find (clientKey packet) = some (serverPort, timestamp)) :
    processClientToServerPacket api now packet port r = (false, packet, r) := by
  simp [processClientToServerPacket, hsyn, h]

/-- Any other packet of a connection that is entered is redirected. -/
theorem processClientToServerPacket_known (hip : packet.IsIpv4 ipprotoTcp)
    (hsyn : packet.isSyn = false)
    (h : r.redirectedConnections.find (clientKey packet) = some (serverPort, timestamp)) :
    processClientToServerPacket api now packet port r =
      (true, redirectPacket api (if port = 0 then r.proxyPort else port) packet,
        r.touch now packet (clientKey packet) serverPort) := by
  simp [processClientToServerPacket, hip.1, hip.2, hsyn, h]

/-- A packet of a proxy no entry is known for is left alone. -/
theorem processServerToClientPacket_unknown
    (h : r.redirectedConnections.find (serverKey packet) = none) :
    processServerToClientPacket api now packet r = (false, packet, r) := by
  simp [processServerToClientPacket, h]

/-- A packet of a proxy that is not TCP over IPv4 is left alone. -/
theorem processServerToClientPacket_other (hip : ¬ packet.IsIpv4 ipprotoTcp) :
    processServerToClientPacket api now packet r = (false, packet, r) := by
  by_cases heth : ntohs packet.hProto = ethPIp
  · have hproto : packet.ipP ≠ ipprotoTcp := fun hproto => hip ⟨heth, hproto⟩
    simp [processServerToClientPacket, hproto]
  · simp [processServerToClientPacket, heth]

/-- A packet of a proxy for a connection that is entered is translated back. -/
theorem processServerToClientPacket_known (hip : packet.IsIpv4 ipprotoTcp)
    (h : r.redirectedConnections.find (serverKey packet) = some (serverPort, timestamp)) :
    processServerToClientPacket api now packet r =
      (true, restorePacket api serverPort packet,
        r.touch now packet (serverKey packet) serverPort) := by
  simp [processServerToClientPacket, hip.1, hip.2, h]

variable (api now packet port r) in
/-- Everything a packet of a client can do to the table. -/
theorem processClientToServerPacket_cases :
    (processClientToServerPacket api now packet port r).2.2 = r ∨
    (packet.isSyn = true ∧ r.redirectedConnections.find (clientKey packet) = none ∧
      (processClientToServerPacket api now packet port r).2.2 =
        { r with redirectedConnections :=
            r.redirectedConnections.insert (clientKey packet) (packet.thDport, now) }) ∨
    (packet.isSyn = false ∧ ∃ serverPort timestamp,
      r.redirectedConnections.find (clientKey packet) = some (serverPort, timestamp) ∧
      (processClientToServerPacket api now packet port r).2.2 =
        r.touch now packet (clientKey packet) serverPort) := by
  by_cases hip : packet.IsIpv4 ipprotoTcp
  · cases hsyn : packet.isSyn with
    | true =>
      cases hfind : r.redirectedConnections.find (clientKey packet) with
      | none =>
        rw [processClientToServerPacket_syn hip hsyn hfind]
        exact .inr (.inl ⟨rfl, rfl, rfl⟩)
      | some entry =>
        rw [processClientToServerPacket_syn_known hsyn hfind]
        exact .inl rfl
    | false =>
      cases hfind : r.redirectedConnections.find (clientKey packet) with
      | none =>
        rw [processClientToServerPacket_unknown hsyn hfind]
        exact .inl rfl
      | some entry =>
        rw [processClientToServerPacket_known hip hsyn hfind]
        exact .inr (.inr ⟨rfl, entry.1, entry.2, rfl, rfl⟩)
  · rw [processClientToServerPacket_other hip]
    exact .inl rfl

variable (api now packet r) in
/-- Everything a packet of a proxy can do to the table. -/
theorem processServerToClientPacket_cases :
    (processServerToClientPacket api now packet r).2.2 = r ∨
    ∃ serverPort timestamp,
      r.redirectedConnections.find (serverKey packet) = some (serverPort, timestamp) ∧
      (processServerToClientPacket api now packet r).2.2 =
        r.touch now packet (serverKey packet) serverPort := by
  by_cases hip : packet.IsIpv4 ipprotoTcp
  · cases hfind : r.redirectedConnections.find (serverKey packet) with
    | none =>
      rw [processServerToClientPacket_unknown hfind]
      exact .inl rfl
    | some entry =>
      rw [processServerToClientPacket_known hip hfind]
      exact .inr ⟨entry.1, entry.2, rfl, rfl⟩
  · rw [processServerToClientPacket_other hip]
    exact .inl rfl

/-! ## How long an entry stays -/

/-- The server port held for a key. -/
def serverPortOf (key : IpEndpoint IpAddressV4) (r : TcpLocalRedirect) : Option UInt16 :=
  (r.redirectedConnections.find key).map Prod.fst

variable {key : IpEndpoint IpAddressV4}

/-- A packet keeps the entry of a connection unless it is its FIN or RST. -/
theorem serverPortOf_touch {key' : IpEndpoint IpAddressV4}
    (hopen : packet.isRstOrFin = true → key' ≠ key) (hentry : r.serverPortOf key' = some port)
    (h : r.serverPortOf key = some serverPort) :
    (r.touch now packet key' port).serverPortOf key = some serverPort := by
  by_cases hkey : key' = key
  · subst hkey
    cases hflags : packet.isRstOrFin with
    | true => exact absurd rfl (hopen hflags)
    | false =>
      rw [← h, hentry, serverPortOf, touch, hflags]
      simp
  · have hne : key ≠ key' := fun h => hkey h.symm
    cases hflags : packet.isRstOrFin <;> simpa [touch, serverPortOf, hflags, hne] using h

/-- A packet of a client keeps the entry of a connection unless it is its FIN or RST. -/
theorem serverPortOf_clientToServer (hopen : packet.isRstOrFin = true → clientKey packet ≠ key)
    (h : r.serverPortOf key = some serverPort) :
    (processClientToServerPacket api now packet port r).2.2.serverPortOf key = some serverPort := by
  rcases processClientToServerPacket_cases api now packet port r with
    hsame | ⟨-, hnew, hsyn⟩ | ⟨-, entryPort, timestamp, hfind, hknown⟩
  · rw [hsame]
    exact h
  · have hne : key ≠ clientKey packet := by
      rintro rfl
      simp [serverPortOf, hnew] at h
    rw [hsyn]
    simpa [serverPortOf, hne] using h
  · rw [hknown]
    exact serverPortOf_touch hopen (by simp [serverPortOf, hfind]) h

/-- A packet of a proxy keeps the entry of a connection unless it is its FIN or RST. -/
theorem serverPortOf_serverToClient (hopen : packet.isRstOrFin = true → serverKey packet ≠ key)
    (h : r.serverPortOf key = some serverPort) :
    (processServerToClientPacket api now packet r).2.2.serverPortOf key = some serverPort := by
  rcases processServerToClientPacket_cases api now packet r with
    hsame | ⟨entryPort, timestamp, hfind, hknown⟩
  · rw [hsame]
    exact h
  · rw [hknown]
    exact serverPortOf_touch hopen (by simp [serverPortOf, hfind]) h

/-- A clean-up pass keeps the entries that are not idle for more than five minutes. -/
theorem serverPortOf_cleanup
    (hfresh : ∀ entry, r.redirectedConnections.find key = some entry → now - entry.2 ≤ minutes 5)
    (h : r.serverPortOf key = some serverPort) :
    (r.cleanup now).serverPortOf key = some serverPort := by
  obtain ⟨entry, hentry, hport⟩ := Option.map_eq_some_iff.mp h
  have hkept : (r.cleanup now).redirectedConnections.find key = some entry := by
    refine Table.find_sweep.mpr ⟨hentry, ?_⟩
    have := hfresh entry hentry
    simpa using this
  rw [serverPortOf, hkept, Option.map_some, hport]

end TcpLocalRedirect

end CutieProxy
