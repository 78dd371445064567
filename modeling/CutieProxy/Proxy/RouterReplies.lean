import CutieProxy.Ndisapi.TcpTranslation
import CutieProxy.Ndisapi.UdpTranslation
import CutieProxy.Proxy.SocksLocalRouter

/-!
# The way back from a local proxy

A reply is a packet of a local proxy server to a client that has an entry in the redirect table. The
callback decides the direction of a packet from its process first, and asks whether its source port
is the port of a proxy server only when no filter matches the process.
`replies_are_translated_back` is what becomes of a reply whose process is not matched, fragments of
datagrams apart, which the redirection refuses. A reply whose process is matched goes the way of a
client, as every reply does when the first proxy has an `AllFilter` (`tcpPortFor_allFilter`), and is
not translated back (`tcpTranslatesBack_iff`, `udpTranslatesBack_iff`).
-/

namespace CutieProxy

namespace SocksLocalRouter

open IntermediateBuffer Transition

section Replies

variable {api : CNdisApi} {o : Observation} {packet : IntermediateBuffer} {s : SocksLocalRouter}

/-- A TCP packet of a local proxy server to a client that has an entry. -/
structure IsTcpReply (packet : IntermediateBuffer) (s : SocksLocalRouter) : Prop where
  ip : packet.IsIpv4 ipprotoTcp
  proxyPort : s.isTcpProxyPort (ntohs packet.thSport) = true
  entry : (s.tcpRedirect.redirectedConnections.find
    (TcpLocalRedirect.serverKey packet)).isSome = true

/-- A datagram of a local proxy server to a client that has an entry. -/
structure IsUdpReply (packet : IntermediateBuffer) (s : SocksLocalRouter) : Prop where
  ip : packet.IsIpv4 ipprotoUdp
  unicast : packet.isMulticast = false
  proxyPort : s.isUdpProxyPort (ntohs packet.thSport) = true
  entry : (s.udpRedirect.endpoints.find packet.thDport).isSome = true

/-- The callback applies `process_server_to_client_packet` of the TCP redirection, to nothing else
than the redirect table, and answers revert. -/
def TcpTranslatesBack (api : CNdisApi) (o : Observation) (packet : IntermediateBuffer)
    (s : SocksLocalRouter) : Prop :=
  ∃ packet' redirect lookup,
    s.tcpRedirect.processServerToClientPacket api o.now packet = (true, packet', redirect) ∧
    s.callback api o packet =
      (.revert, packet', { s with tcpRedirect := redirect, processLookup := lookup })

/-- The callback applies `process_server_to_client_packet` of the UDP redirection, to nothing else
than the redirect table, and answers revert. -/
def UdpTranslatesBack (api : CNdisApi) (o : Observation) (packet : IntermediateBuffer)
    (s : SocksLocalRouter) : Prop :=
  ∃ packet' redirect lookup,
    s.udpRedirect.processServerToClientPacket api o.now packet = (true, packet', redirect) ∧
    s.callback api o packet =
      (.revert, packet', { s with udpRedirect := redirect, processLookup := lookup })

/-- A TCP reply of an unmatched process is translated back. -/
theorem tcpTranslatesBack (hreply : s.IsTcpReply packet) (hport : s.tcpPortFor o packet = none) :
    s.TcpTranslatesBack api o packet := by
  obtain ⟨⟨serverPort, timestamp⟩, hentry⟩ := Option.isSome_iff_exists.mp hreply.entry
  exact ⟨_, _, (s.lookUpTcp o packet).processLookup,
    TcpLocalRedirect.processServerToClientPacket_known hreply.ip hentry,
    callback_tcp_proxy_known hreply.ip hport hreply.proxyPort hentry⟩

/-- A UDP reply of an unmatched process is translated back, unless it is a fragment. -/
theorem udpTranslatesBack (hreply : s.IsUdpReply packet) (hfrag : packet.isFragmented = false)
    (hport : s.udpPortFor o packet = none) : s.UdpTranslatesBack api o packet := by
  obtain ⟨timestamp, hentry⟩ := Option.isSome_iff_exists.mp hreply.entry
  have hback : s.udpRedirect.processServerToClientPacket api o.now packet = _ :=
    Socks5UdpLocalRedirect.processServerToClientPacket_known hreply.ip hfrag hentry
  refine ⟨_, _, (s.lookUpUdp o packet).processLookup, hback, ?_⟩
  rw [callback_udp_proxy hreply.ip hreply.unicast hport hreply.proxyPort]
  exact udpServerToClient_eq (s := s.lookUpUdp o packet) hback

/-- Every reply whose process is not matched, and that is no fragment of a datagram, is translated
back and reverted. -/
theorem replies_are_translated_back :
    (s.IsTcpReply packet → s.tcpPortFor o packet = none → s.TcpTranslatesBack api o packet) ∧
    (s.IsUdpReply packet → packet.isFragmented = false → s.udpPortFor o packet = none →
      s.UdpTranslatesBack api o packet) :=
  ⟨tcpTranslatesBack, udpTranslatesBack⟩

/-- A fragment of a datagram of a local proxy passes untranslated. -/
theorem udpReply_fragment (hreply : s.IsUdpReply packet) (hfrag : packet.isFragmented = true)
    (hport : s.udpPortFor o packet = none) :
    s.callback api o packet = (.pass, packet, s.lookUpUdp o packet) := by
  rw [callback_udp_proxy hreply.ip hreply.unicast hport hreply.proxyPort]
  exact udpServerToClient_eq (s := s.lookUpUdp o packet)
    (Socks5UdpLocalRedirect.processServerToClientPacket_fragment hfrag)

/-- A segment that is redirected leaves for the local proxy. -/
theorem packet_of_redirected {now : TimePoint} {port : UInt16} {packet' : IntermediateBuffer}
    {r redirect : TcpLocalRedirect}
    (h : r.processClientToServerPacket api now packet port = (true, packet', redirect)) :
    ∃ proxyPort, packet' = TcpLocalRedirect.redirectPacket api proxyPort packet := by
  unfold TcpLocalRedirect.processClientToServerPacket at h
  dsimp only at h
  split at h
  · cases h
  split at h
  · cases h
  split at h
  · split at h
    · cases h
    · cases h
      exact ⟨_, rfl⟩
  · split at h
    · cases h
    · cases h
      exact ⟨_, rfl⟩

/-- A reply of a matched process is tried as a segment of a client, and what comes of it has the
port of the proxy, where the client expects that of the server. -/
theorem not_tcpTranslatesBack (hapi : api.Recalculates) (hreply : s.IsTcpReply packet)
    (hp : packet.IsTcp) (hother : ∀ entry ∈ s.tcpRedirect.redirectedConnections.find
      (TcpLocalRedirect.serverKey packet), entry.1 ≠ packet.thSport)
    {port : UInt16} (hport : s.tcpPortFor o packet = some port) :
    ¬ s.TcpTranslatesBack api o packet := by
  rintro ⟨packet', redirect, lookup, hback, hcallback⟩
  obtain ⟨⟨serverPort, timestamp⟩, hentry⟩ := Option.isSome_iff_exists.mp hreply.entry
  rw [TcpLocalRedirect.processServerToClientPacket_known hreply.ip hentry] at hback
  cases hback
  rw [callback_tcp_matched hreply.ip hport] at hcallback
  generalize hway : ((s.lookUpTcp o packet).recordSyn packet).tcpRedirect.processClientToServerPacket
    api o.now packet (htons port) = way at hcallback
  obtain ⟨translated, p', redirect'⟩ := way
  rw [tcpClientToServer_eq hway] at hcallback
  cases translated with
  | false => cases hcallback
  | true =>
    obtain ⟨proxyPort, rfl⟩ := packet_of_redirected hway
    have hsame := congrArg (fun result => result.2.1.source) hcallback
    have hforth := @TcpLocalRedirect.redirectPacket_swapped _ proxyPort _ hapi hp
    have hbackward := @TcpLocalRedirect.restorePacket_swapped _ serverPort _ hapi hp
    dsimp only at hsame
    rw [(hforth.endpoints_of_dport hp).1, (hbackward.endpoints_of_sport hp).1] at hsame
    exact hother _ hentry (congrArg IpEndpoint.port hsame).symm

/-- A datagram of a matched process is tried as one of a client, and gets longer, or is left. -/
theorem not_udpTranslatesBack (hapi : api.Recalculates) (hreply : s.IsUdpReply packet)
    {port : UInt16} (hport : s.udpPortFor o packet = some port) :
    ¬ s.UdpTranslatesBack api o packet := by
  rintro ⟨packet', redirect, lookup, hback, hcallback⟩
  obtain ⟨timestamp, hentry⟩ := Option.isSome_iff_exists.mp hreply.entry
  cases hfrag : packet.isFragmented with
  | true =>
    rw [Socks5UdpLocalRedirect.processServerToClientPacket_fragment hfrag] at hback
    cases hback
  | false =>
    rw [Socks5UdpLocalRedirect.processServerToClientPacket_known hreply.ip hfrag hentry] at hback
    cases hback
    rw [callback_udp_matched hreply.ip hreply.unicast hport] at hcallback
    generalize hway :
      ((s.lookUpUdp o packet).recordEndpoint o.now packet).udpRedirect.processClientToServerPacket
        api o.now packet (htons port) = way at hcallback
    obtain ⟨translated, p', redirect'⟩ := way
    rw [udpClientToServer_eq hway] at hcallback
    have hknown := Socks5UdpLocalRedirect.processClientToServerPacket_cases api o.now packet
      (htons port) ((s.lookUpUdp o packet).recordEndpoint o.now packet).udpRedirect
    rcases hknown with hleft | ⟨hip, -, time, hfind⟩
    · rw [hway] at hleft
      cases hleft
      cases hcallback
    · rw [Socks5UdpLocalRedirect.processClientToServerPacket_known hip hfrag hfind] at hway
      cases hway
      have hsame := congrArg (fun result => result.2.1.mLength) hcallback
      dsimp only at hsame
      rw [Socks5UdpLocalRedirect.redirectPacket_eq, Socks5UdpLocalRedirect.restorePacket_eq,
        hapi.ip.length, hapi.ip.length, hapi.udp.length, hapi.udp.length] at hsame
      change packet.mLength + 10 = packet.mLength - 10 at hsame
      grind

/-- A reply is translated back just when its process is not matched, unless the server's port is
that of the proxy. -/
theorem tcpTranslatesBack_iff (hapi : api.Recalculates) (hreply : s.IsTcpReply packet)
    (hp : packet.IsTcp) (hother : ∀ entry ∈ s.tcpRedirect.redirectedConnections.find
      (TcpLocalRedirect.serverKey packet), entry.1 ≠ packet.thSport) :
    s.TcpTranslatesBack api o packet ↔ s.tcpPortFor o packet = none := by
  refine ⟨fun hback => ?_, tcpTranslatesBack hreply⟩
  cases hport : s.tcpPortFor o packet with
  | none => rfl
  | some port => exact absurd hback (not_tcpTranslatesBack hapi hreply hp hother hport)

/-- A datagram that is no fragment is translated back just when its process is not matched. -/
theorem udpTranslatesBack_iff (hapi : api.Recalculates) (hreply : s.IsUdpReply packet)
    (hfrag : packet.isFragmented = false) :
    s.UdpTranslatesBack api o packet ↔ s.udpPortFor o packet = none := by
  refine ⟨fun hback => ?_, udpTranslatesBack hreply hfrag⟩
  cases hport : s.udpPortFor o packet with
  | none => rfl
  | some port => exact absurd hback (not_udpTranslatesBack hapi hreply hport)

/-- With an `AllFilter` first, every TCP packet is one of a client. -/
theorem tcpPortFor_allFilter {proxyId : Nat} {filters : List FilterInterface}
    {rest : List (Nat × List FilterInterface)}
    (h : s.proxyToFilters = (proxyId, allFilter :: filters) :: rest) :
    s.tcpPortFor o packet = s.proxyServers[proxyId]?.bind Prod.fst :=
  getProxyPort_allFilter h

end Replies

/-! ## A run -/

namespace ReplyRun

/-- The application, at `10.0.0.1`. -/
def application : NetworkProcess := ⟨7, wstring "app", wstring "app"⟩

/-- The system knows the application's TCP connection and its UDP endpoint. -/
def observation : Observation where
  now := 0
  tcpTable := Table.empty.insert ⟨⟨⟨10, 0, 0, 1⟩, 5000, none⟩, ⟨⟨10, 0, 0, 2⟩, 80, none⟩⟩ application
  udpTable := Table.empty.insert ⟨⟨10, 0, 0, 1⟩, 5000, none⟩ application

/-- One proxy with the ports 1080 and 1081 and the given filter. -/
def configured (filter : FilterInterface) : SocksLocalRouter :=
  SocksLocalRouter.after .plain {} (.configure [(some 1080, some 1081)] [(0, [filter])])

/-- The application's SYN. -/
def syn : IntermediateBuffer := tcpFrame ⟨10, 0, 0, 1⟩ ⟨10, 0, 0, 2⟩ 5000 80 thSyn

/-- The SYN-ACK of the local proxy. -/
def synAck : IntermediateBuffer :=
  tcpFrame ⟨10, 0, 0, 1⟩ ⟨10, 0, 0, 2⟩ 1080 5000 (thSyn ||| thAck)

/-- The application's datagram. -/
def datagram : IntermediateBuffer := udpFrame ⟨10, 0, 0, 1⟩ ⟨10, 0, 0, 2⟩ 5000 53 0 [1]

/-- The local proxy's answer. -/
def answer : IntermediateBuffer :=
  udpFrame ⟨10, 0, 0, 1⟩ ⟨10, 0, 0, 2⟩ 1081 5000 0 [0, 0, 0, 1, 10, 0, 0, 2, 0, 53, 1]

/-- The first fragment of a longer answer. -/
def fragment : IntermediateBuffer :=
  udpFrame ⟨10, 0, 0, 1⟩ ⟨10, 0, 0, 2⟩ 1081 5000 0x2000 [0, 0, 0, 1, 10, 0, 0, 2, 0, 53, 1]

/-- The filter of the application alone. -/
def onlyApplication : FilterInterface := fun process => process.id == 7

/-- After the application's SYN. -/
def afterSyn (filter : FilterInterface) : SocksLocalRouter :=
  { configured filter with
    tcpMapper := Table.empty.insert 5000 ⟨⟨10, 0, 0, 2⟩, 80, none⟩
    tcpRedirect.redirectedConnections :=
      Table.empty.insert ⟨⟨10, 0, 0, 2⟩, htons 5000, none⟩ (htons 80, 0)
    processLookup.tcpToApp := observation.tcpTable }

/-- After the application's datagram. -/
def afterDatagram : SocksLocalRouter :=
  { configured onlyApplication with
    udpMapper := Table.empty.insert 5000 ()
    udpRedirect.endpoints := (Table.empty.insert (htons 5000) 0).insert (htons 5000) 0
    processLookup.udpToApp := observation.udpTable }

theorem configured_reachable (filter : FilterInterface) :
    (system .plain).Reachable (configured filter) :=
  (System.Reachable.init rfl).snoc (M := system .plain) (e := .configure _ _) rfl

/-- The application's SYN is redirected. -/
theorem callback_application_syn {filter : FilterInterface}
    (h : (configured filter).tcpPortFor observation syn = some 1080) :
    (configured filter).callback .plain observation syn =
      (.revert, TcpLocalRedirect.redirectPacket .plain (htons 1080) syn, afterSyn filter) := by
  have howner : (configured filter).processLookup.ownerOfTcp observation.tcpTable (tcpSession syn) =
      (application, _) := ProcessLookup.ownerOfTcp_reported rfl (by decide)
  have hkey : TcpLocalRedirect.clientKey syn = ⟨⟨10, 0, 0, 2⟩, htons 5000, none⟩ := by decide
  have hsport : ntohs syn.thSport = 5000 := by decide
  have hdport : ntohs syn.thDport = 80 := by decide
  have hport : syn.thDport = htons 80 := by decide
  have hdst : syn.ipDst = ⟨10, 0, 0, 2⟩ := by decide
  rw [callback_syn (by decide) (by decide) h rfl, if_neg (by decide), lookUpTcp, howner, hkey, hsport,
    hdport, hport, hdst]
  rfl

theorem afterSyn_reachable {filter : FilterInterface}
    (h : (configured filter).tcpPortFor observation syn = some 1080) :
    (system .plain).Reachable (afterSyn filter) := by
  refine (configured_reachable filter).snoc (M := system .plain) (e := .packet observation syn) ?_
  show afterSyn filter = ((configured filter).callback .plain observation syn).2.2
  rw [callback_application_syn h]

/-- The application's datagram is redirected. -/
theorem callback_application_datagram :
    (configured onlyApplication).callback .plain observation datagram =
      (.revert, Socks5UdpLocalRedirect.redirectPacket .plain (htons 1081) datagram,
        afterDatagram) := by
  have howner : (configured onlyApplication).processLookup.ownerOfUdp observation.udpTable
      (udpEndpoint datagram) = (application, _) := ProcessLookup.ownerOfUdp_reported rfl (by decide)
  have hport : (configured onlyApplication).udpPortFor observation datagram = some 1081 := by decide
  have hsport : datagram.thSport = htons 5000 := by decide
  rw [callback_datagram (by decide) (by decide) (by decide) hport rfl, if_neg (by decide), lookUpUdp,
    howner, hsport]
  rfl

theorem afterDatagram_reachable : (system .plain).Reachable afterDatagram := by
  refine (configured_reachable onlyApplication).snoc (M := system .plain)
    (e := .packet observation datagram) ?_
  show afterDatagram = ((configured onlyApplication).callback .plain observation datagram).2.2
  rw [callback_application_datagram]

end ReplyRun

open ReplyRun in
/-- With an `AllFilter` the SYN-ACK of the local proxy is not translated back; without one, a
fragment of its answer to a datagram is not. -/
theorem replies_not_all_translated_back :
    ((system .plain).Reachable (afterSyn allFilter) ∧ (afterSyn allFilter).IsTcpReply synAck ∧
      synAck.isMulticast = false ∧ ¬ (afterSyn allFilter).TcpTranslatesBack .plain observation synAck) ∧
    ((system .plain).Reachable afterDatagram ∧ afterDatagram.IsUdpReply fragment ∧
      ¬ afterDatagram.UdpTranslatesBack .plain observation fragment) := by
  have hmatched : (configured allFilter).tcpPortFor observation syn = some 1080 :=
    tcpPortFor_allFilter (s := configured allFilter) rfl
  refine ⟨⟨afterSyn_reachable hmatched, ⟨by decide, by decide, by decide⟩,
    by decide, ?_⟩, ⟨afterDatagram_reachable, ⟨by decide, by decide, by decide, by decide⟩, ?_⟩⟩
  · rintro ⟨packet', redirect, lookup, -, hback⟩
    have hport : (afterSyn allFilter).tcpPortFor observation synAck = some 1080 :=
      tcpPortFor_allFilter (s := afterSyn allFilter) rfl
    rw [callback_tcp_unknown (by decide) hport (by decide) (by decide)] at hback
    cases hback
  · rintro ⟨packet', redirect, lookup, -, hback⟩
    rw [udpReply_fragment ⟨by decide, by decide, by decide, by decide⟩ (by decide) (by decide)]
      at hback
    cases hback

open ReplyRun in
theorem replies_are_translated_back_of_application :
    (afterSyn onlyApplication).TcpTranslatesBack .plain observation synAck ∧
      afterDatagram.UdpTranslatesBack .plain observation answer :=
  ⟨replies_are_translated_back.1 ⟨by decide, by decide, by decide⟩ (by decide),
    replies_are_translated_back.2 ⟨by decide, by decide, by decide, by decide⟩ (by decide)
      (by decide)⟩

end SocksLocalRouter

end CutieProxy
