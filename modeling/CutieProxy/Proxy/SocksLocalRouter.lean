import CutieProxy.Iphelper.ProcessLookup
import CutieProxy.Lib.Transition
import CutieProxy.Ndisapi.QueuedPacketFilter
import CutieProxy.Ndisapi.Socks5UdpLocalRedirect
import CutieProxy.Proxy.Socks5Common

/-!
# `socks_local_router`

The callback that the packet filter runs on every outgoing packet, with the tables it shares with
the local proxy servers. A packet of a process that some filter matches goes the way of a client to
its proxy; only when no filter matches its process, and its source port is the port of a local proxy
server, does it go the way of a proxy to a client. `tcpMapper` and `udpMapper` hand over to the
servers where a redirected client wanted to go: `queryRemotePeerTcp` and `queryRemotePeerUdp` are
the lambdas the servers call, which consume an entry.

The clock and what the IP Helper API reports while a packet is handled are an `Observation`. The
containers whose order the library chooses are lists in that order.
-/

namespace CutieProxy

/-- What the callback reads from the system while it handles a packet. -/
structure Observation where
  now : TimePoint
  tcpTable : Table (IpSession IpAddressV4) NetworkProcess := .empty
  udpTable : Table (IpEndpoint IpAddressV4) NetworkProcess := .empty

/-- The configuration and the tables of `socks_local_router`. A proxy server is its listening port;
`proxyToFilters` is in the order of its traversal. -/
structure SocksLocalRouter where
  proxyServers : List (Option UInt16 × Option UInt16) := []
  proxyToFilters : List (Nat × List FilterInterface) := []
  tcpMapper : Table UInt16 (IpEndpoint IpAddressV4) := .empty
  udpMapper : Table UInt16 Unit := .empty
  tcpRedirect : TcpLocalRedirect := {}
  udpRedirect : Socks5UdpLocalRedirect := {}
  processLookup : ProcessLookup IpAddressV4 := {}

namespace SocksLocalRouter

/-! ## Ports of the local proxy servers -/

/-- The server, TCP or UDP as `server` selects, of the first proxy one of whose filters matches. -/
def getProxyPort (server : Option UInt16 × Option UInt16 → Option UInt16) (process : NetworkProcess)
    (s : SocksLocalRouter) : Option UInt16 :=
  match s.proxyToFilters.find? fun proxy => proxy.2.any fun filter => filter process with
  | none => none
  | some (proxyId, _) => s.proxyServers[proxyId]?.bind server

/-- `get_proxy_port_tcp`. -/
def getProxyPortTcp (process : NetworkProcess) (s : SocksLocalRouter) : Option UInt16 :=
  s.getProxyPort Prod.fst process

/-- `get_proxy_port_udp`. -/
def getProxyPortUdp (process : NetworkProcess) (s : SocksLocalRouter) : Option UInt16 :=
  s.getProxyPort Prod.snd process

/-- `is_tcp_proxy_port`. -/
def isTcpProxyPort (port : UInt16) (s : SocksLocalRouter) : Bool :=
  s.proxyServers.any fun proxy => proxy.1 == some port

/-- `is_udp_proxy_port`. -/
def isUdpProxyPort (port : UInt16) (s : SocksLocalRouter) : Bool :=
  s.proxyServers.any fun proxy => proxy.2 == some port

/-! ## The packet filter's callback -/

open IntermediateBuffer

/-- The session of a TCP packet, in host order. -/
def tcpSession (packet : IntermediateBuffer) : IpSession IpAddressV4 :=
  ⟨⟨packet.ipSrc, ntohs packet.thSport, none⟩, ⟨packet.ipDst, ntohs packet.thDport, none⟩⟩

/-- The local endpoint of a UDP packet, in host order. -/
def udpEndpoint (packet : IntermediateBuffer) : IpEndpoint IpAddressV4 :=
  ⟨packet.ipSrc, ntohs packet.thSport, none⟩

/-- Enters the source port of a UDP packet whose process is matched, when it is new. -/
def recordEndpoint (now : TimePoint) (packet : IntermediateBuffer) (s : SocksLocalRouter) :
    SocksLocalRouter :=
  let (isNew, redirect) := s.udpRedirect.isNewEndpoint now packet
  let mapper := if isNew then s.udpMapper.insert (ntohs packet.thSport) () else s.udpMapper
  { s with udpMapper := mapper, udpRedirect := redirect }

/-- The way to the local proxy of a UDP packet. -/
def udpClientToServer (api : CNdisApi) (now : TimePoint) (port : UInt16)
    (packet : IntermediateBuffer) (s : SocksLocalRouter) :
    PacketAction × IntermediateBuffer × SocksLocalRouter :=
  let (translated, packet, redirect) :=
    s.udpRedirect.processClientToServerPacket api now packet (htons port)
  (if translated then .revert else .pass, packet, { s with udpRedirect := redirect })

/-- The way back to the client of a UDP packet of a local proxy. -/
def udpServerToClient (api : CNdisApi) (now : TimePoint) (packet : IntermediateBuffer)
    (s : SocksLocalRouter) : PacketAction × IntermediateBuffer × SocksLocalRouter :=
  let (translated, packet, redirect) := s.udpRedirect.processServerToClientPacket api now packet
  (if translated then .revert else .pass, packet, { s with udpRedirect := redirect })

/-- Enters the destination of a TCP packet whose process is matched, when it is a SYN. -/
def recordSyn (packet : IntermediateBuffer) (s : SocksLocalRouter) : SocksLocalRouter :=
  if packet.isSyn then
    { s with tcpMapper :=
        s.tcpMapper.insert (ntohs packet.thSport) ⟨packet.ipDst, ntohs packet.thDport, none⟩ }
  else s

/-- The way to the local proxy of a TCP packet. -/
def tcpClientToServer (api : CNdisApi) (now : TimePoint) (port : UInt16)
    (packet : IntermediateBuffer) (s : SocksLocalRouter) :
    PacketAction × IntermediateBuffer × SocksLocalRouter :=
  let (translated, packet, redirect) :=
    s.tcpRedirect.processClientToServerPacket api now packet (htons port)
  (if translated then .revert else .pass, packet, { s with tcpRedirect := redirect })

/-- The way back to the client of a TCP packet of a local proxy. -/
def tcpServerToClient (api : CNdisApi) (now : TimePoint) (packet : IntermediateBuffer)
    (s : SocksLocalRouter) : PacketAction × IntermediateBuffer × SocksLocalRouter :=
  let (translated, packet, redirect) := s.tcpRedirect.processServerToClientPacket api now packet
  (if translated then .revert else .pass, packet, { s with tcpRedirect := redirect })

/-- The router after it has looked up the owner of a UDP packet. -/
def lookUpUdp (o : Observation) (packet : IntermediateBuffer) (s : SocksLocalRouter) :
    SocksLocalRouter :=
  { s with processLookup := (s.processLookup.ownerOfUdp o.udpTable (udpEndpoint packet)).2 }

/-- The proxy port for the owner of a UDP packet. -/
def udpPortFor (o : Observation) (packet : IntermediateBuffer) (s : SocksLocalRouter) :
    Option UInt16 :=
  s.getProxyPortUdp (s.processLookup.ownerOfUdp o.udpTable (udpEndpoint packet)).1

/-- The router after it has looked up the owner of a TCP packet. -/
def lookUpTcp (o : Observation) (packet : IntermediateBuffer) (s : SocksLocalRouter) :
    SocksLocalRouter :=
  { s with processLookup := (s.processLookup.ownerOfTcp o.tcpTable (tcpSession packet)).2 }

/-- The proxy port for the owner of a TCP packet. -/
def tcpPortFor (o : Observation) (packet : IntermediateBuffer) (s : SocksLocalRouter) :
    Option UInt16 :=
  s.getProxyPortTcp (s.processLookup.ownerOfTcp o.tcpTable (tcpSession packet)).1

/-- The callback on a UDP packet. -/
def udpCallback (api : CNdisApi) (o : Observation) (packet : IntermediateBuffer)
    (s : SocksLocalRouter) : PacketAction × IntermediateBuffer × SocksLocalRouter :=
  if packet.isBroadcast || packet.isMulticast then (.pass, packet, s)
  else
    match s.udpPortFor o packet with
    | some port =>
      ((s.lookUpUdp o packet).recordEndpoint o.now packet).udpClientToServer api o.now port packet
    | none =>
      if s.isUdpProxyPort (ntohs packet.thSport) then
        (s.lookUpUdp o packet).udpServerToClient api o.now packet
      else (.pass, packet, s.lookUpUdp o packet)

/-- The callback on a TCP packet. -/
def tcpCallback (api : CNdisApi) (o : Observation) (packet : IntermediateBuffer)
    (s : SocksLocalRouter) : PacketAction × IntermediateBuffer × SocksLocalRouter :=
  match s.tcpPortFor o packet with
  | some port =>
    ((s.lookUpTcp o packet).recordSyn packet).tcpClientToServer api o.now port packet
  | none =>
    if s.isTcpProxyPort (ntohs packet.thSport) then
      (s.lookUpTcp o packet).tcpServerToClient api o.now packet
    else (.pass, packet, s.lookUpTcp o packet)

/-- The callback `filter_` runs on an outgoing packet. -/
def callback (api : CNdisApi) (o : Observation) (packet : IntermediateBuffer)
    (s : SocksLocalRouter) : PacketAction × IntermediateBuffer × SocksLocalRouter :=
  if ntohs packet.hProto ≠ ethPIp then (.pass, packet, s)
  else if packet.ipP = ipprotoUdp then s.udpCallback api o packet
  else if packet.ipP = ipprotoTcp then s.tcpCallback api o packet
  else (.pass, packet, s)

section Directions

variable {api : CNdisApi} {o : Observation} {packet : IntermediateBuffer} {port : UInt16}
  {s : SocksLocalRouter}

theorem tcpClientToServer_eq {now : TimePoint} {translated : Bool} {packet' : IntermediateBuffer}
    {redirect : TcpLocalRedirect}
    (h : s.tcpRedirect.processClientToServerPacket api now packet (htons port) =
      (translated, packet', redirect)) :
    s.tcpClientToServer api now port packet =
      (if translated then .revert else .pass, packet', { s with tcpRedirect := redirect }) := by
  rw [tcpClientToServer, h]

theorem tcpServerToClient_eq {now : TimePoint} {translated : Bool} {packet' : IntermediateBuffer}
    {redirect : TcpLocalRedirect}
    (h : s.tcpRedirect.processServerToClientPacket api now packet =
      (translated, packet', redirect)) :
    s.tcpServerToClient api now packet =
      (if translated then .revert else .pass, packet', { s with tcpRedirect := redirect }) := by
  rw [tcpServerToClient, h]

theorem udpServerToClient_eq {now : TimePoint} {translated : Bool} {packet' : IntermediateBuffer}
    {redirect : Socks5UdpLocalRedirect}
    (h : s.udpRedirect.processServerToClientPacket api now packet =
      (translated, packet', redirect)) :
    s.udpServerToClient api now packet =
      (if translated then .revert else .pass, packet', { s with udpRedirect := redirect }) := by
  rw [udpServerToClient, h]

@[simp] theorem recordSyn_tcpRedirect : (s.recordSyn packet).tcpRedirect = s.tcpRedirect := by
  unfold recordSyn
  split <;> rfl

@[simp] theorem recordSyn_udpMapper : (s.recordSyn packet).udpMapper = s.udpMapper := by
  unfold recordSyn
  split <;> rfl

@[simp] theorem recordSyn_udpRedirect : (s.recordSyn packet).udpRedirect = s.udpRedirect := by
  unfold recordSyn
  split <;> rfl

theorem udpClientToServer_eq {now : TimePoint} {translated : Bool} {packet' : IntermediateBuffer}
    {redirect : Socks5UdpLocalRedirect}
    (h : s.udpRedirect.processClientToServerPacket api now packet (htons port) =
      (translated, packet', redirect)) :
    s.udpClientToServer api now port packet =
      (if translated then .revert else .pass, packet', { s with udpRedirect := redirect }) := by
  rw [udpClientToServer, h]

/-- A TCP packet of a matched process goes the way of a client. -/
theorem callback_tcp_matched (hip : packet.IsIpv4 ipprotoTcp)
    (hport : s.tcpPortFor o packet = some port) :
    s.callback api o packet =
      ((s.lookUpTcp o packet).recordSyn packet).tcpClientToServer api o.now port packet := by
  simp [callback, hip.1, hip.2, ipprotoTcp, ipprotoUdp, tcpCallback, hport]

/-- A TCP packet of a local proxy whose process is not matched goes the way of a proxy. -/
theorem callback_tcp_proxy (hip : packet.IsIpv4 ipprotoTcp)
    (hport : s.tcpPortFor o packet = none)
    (hproxy : s.isTcpProxyPort (ntohs packet.thSport) = true) :
    s.callback api o packet = (s.lookUpTcp o packet).tcpServerToClient api o.now packet := by
  simp [callback, hip.1, hip.2, ipprotoTcp, ipprotoUdp, tcpCallback, hport, hproxy]

/-- Any other TCP packet passes. -/
theorem callback_tcp_other (hip : packet.IsIpv4 ipprotoTcp)
    (hport : s.tcpPortFor o packet = none)
    (hproxy : s.isTcpProxyPort (ntohs packet.thSport) = false) :
    s.callback api o packet = (.pass, packet, s.lookUpTcp o packet) := by
  simp [callback, hip.1, hip.2, ipprotoTcp, ipprotoUdp, tcpCallback, hport, hproxy]

/-- A TCP packet of a matched process that is no SYN passes when its key has no entry. -/
theorem callback_tcp_unknown (hip : packet.IsIpv4 ipprotoTcp)
    (hport : s.tcpPortFor o packet = some port) (hsyn : packet.isSyn = false)
    (hkey : s.tcpRedirect.redirectedConnections.find (TcpLocalRedirect.clientKey packet) = none) :
    s.callback api o packet = (.pass, packet, s.lookUpTcp o packet) := by
  rw [callback_tcp_matched hip hport, recordSyn, hsyn]
  exact tcpClientToServer_eq (s := s.lookUpTcp o packet)
    (TcpLocalRedirect.processClientToServerPacket_unknown hsyn hkey)

/-- A TCP packet of a matched process that is no SYN is redirected when its key has an entry. -/
theorem callback_tcp_known {serverPort : UInt16} {timestamp : TimePoint}
    (hip : packet.IsIpv4 ipprotoTcp) (hport : s.tcpPortFor o packet = some port)
    (hsyn : packet.isSyn = false)
    (hkey : s.tcpRedirect.redirectedConnections.find (TcpLocalRedirect.clientKey packet) =
      some (serverPort, timestamp)) :
    s.callback api o packet =
      (.revert, TcpLocalRedirect.redirectPacket api
          (if htons port = 0 then s.tcpRedirect.proxyPort else htons port) packet,
        { s.lookUpTcp o packet with
          tcpRedirect :=
            s.tcpRedirect.touch o.now packet (TcpLocalRedirect.clientKey packet) serverPort }) := by
  rw [callback_tcp_matched hip hport, recordSyn, hsyn]
  exact tcpClientToServer_eq (s := s.lookUpTcp o packet)
    (TcpLocalRedirect.processClientToServerPacket_known hip hsyn hkey)

/-- A TCP packet of a local proxy whose process is not matched is translated back when its key has
an entry. -/
theorem callback_tcp_proxy_known {serverPort : UInt16} {timestamp : TimePoint}
    (hip : packet.IsIpv4 ipprotoTcp) (hport : s.tcpPortFor o packet = none)
    (hproxy : s.isTcpProxyPort (ntohs packet.thSport) = true)
    (hkey : s.tcpRedirect.redirectedConnections.find (TcpLocalRedirect.serverKey packet) =
      some (serverPort, timestamp)) :
    s.callback api o packet =
      (.revert, TcpLocalRedirect.restorePacket api serverPort packet,
        { s.lookUpTcp o packet with
          tcpRedirect :=
            s.tcpRedirect.touch o.now packet (TcpLocalRedirect.serverKey packet) serverPort }) := by
  rw [callback_tcp_proxy hip hport hproxy]
  exact tcpServerToClient_eq (s := s.lookUpTcp o packet)
    (TcpLocalRedirect.processServerToClientPacket_known hip hkey)

/-- The SYN of a matched process is entered in both tables and redirected, when it is new. -/
theorem callback_syn (hip : packet.IsIpv4 ipprotoTcp) (hsyn : packet.isSyn = true)
    (hport : s.tcpPortFor o packet = some port)
    (hnew : s.tcpRedirect.redirectedConnections.find (TcpLocalRedirect.clientKey packet) = none) :
    s.callback api o packet =
      (.revert, TcpLocalRedirect.redirectPacket api
          (if htons port = 0 then s.tcpRedirect.proxyPort else htons port) packet,
        { s.lookUpTcp o packet with
          tcpMapper :=
            s.tcpMapper.insert (ntohs packet.thSport) ⟨packet.ipDst, ntohs packet.thDport, none⟩
          tcpRedirect := { s.tcpRedirect with
            redirectedConnections := s.tcpRedirect.redirectedConnections.insert
              (TcpLocalRedirect.clientKey packet) (packet.thDport, o.now) } }) := by
  rw [callback_tcp_matched hip hport, recordSyn, if_pos hsyn]
  exact tcpClientToServer_eq (s := { s.lookUpTcp o packet with
    tcpMapper :=
      s.tcpMapper.insert (ntohs packet.thSport) ⟨packet.ipDst, ntohs packet.thDport, none⟩ })
    (TcpLocalRedirect.processClientToServerPacket_syn hip hsyn hnew)

/-- A SYN of a matched process whose connection is entered already passes, but its destination is
recorded again. -/
theorem callback_syn_known {entry : UInt16 × TimePoint} (hip : packet.IsIpv4 ipprotoTcp)
    (hsyn : packet.isSyn = true) (hport : s.tcpPortFor o packet = some port)
    (hknown : s.tcpRedirect.redirectedConnections.find (TcpLocalRedirect.clientKey packet) =
      some entry) :
    s.callback api o packet = (.pass, packet, (s.lookUpTcp o packet).recordSyn packet) := by
  have hsame : (s.lookUpTcp o packet).recordSyn packet =
      { (s.lookUpTcp o packet).recordSyn packet with tcpRedirect := s.tcpRedirect } := by
    rw [recordSyn, if_pos hsyn]
    rfl
  rw [callback_tcp_matched hip hport, hsame]
  exact tcpClientToServer_eq (s := { (s.lookUpTcp o packet).recordSyn packet with
    tcpRedirect := s.tcpRedirect })
    (TcpLocalRedirect.processClientToServerPacket_syn_known hsyn hknown)

/-- A UDP packet of a matched process goes the way of a client. -/
theorem callback_udp_matched (hip : packet.IsIpv4 ipprotoUdp) (hmulti : packet.isMulticast = false)
    (hport : s.udpPortFor o packet = some port) :
    s.callback api o packet =
      ((s.lookUpUdp o packet).recordEndpoint o.now packet).udpClientToServer api o.now port
        packet := by
  simp [callback, hip.1, hip.2, udpCallback, isBroadcast_of_unicast hmulti, hmulti, hport]

/-- A UDP packet of a local proxy whose process is not matched goes the way of a proxy. -/
theorem callback_udp_proxy (hip : packet.IsIpv4 ipprotoUdp) (hmulti : packet.isMulticast = false)
    (hport : s.udpPortFor o packet = none)
    (hproxy : s.isUdpProxyPort (ntohs packet.thSport) = true) :
    s.callback api o packet = (s.lookUpUdp o packet).udpServerToClient api o.now packet := by
  simp [callback, hip.1, hip.2, udpCallback, isBroadcast_of_unicast hmulti, hmulti, hport, hproxy]

/-- Any other UDP packet passes. -/
theorem callback_udp_other (hip : packet.IsIpv4 ipprotoUdp) (hmulti : packet.isMulticast = false)
    (hport : s.udpPortFor o packet = none)
    (hproxy : s.isUdpProxyPort (ntohs packet.thSport) = false) :
    s.callback api o packet = (.pass, packet, s.lookUpUdp o packet) := by
  simp [callback, hip.1, hip.2, udpCallback, isBroadcast_of_unicast hmulti, hmulti, hport, hproxy]

/-- A broadcast or multicast datagram passes. -/
theorem callback_udp_multicast (hip : packet.IsIpv4 ipprotoUdp) (hmulti : packet.isMulticast = true) :
    s.callback api o packet = (.pass, packet, s) := by
  simp [callback, hip.1, hip.2, udpCallback, hmulti]

/-- A new source port is entered in both tables. -/
theorem recordEndpoint_new {now : TimePoint} (hip : packet.IsIpv4 ipprotoUdp)
    (hnew : s.udpRedirect.endpoints.find packet.thSport = none) :
    s.recordEndpoint now packet =
      { s with
        udpMapper := s.udpMapper.insert (ntohs packet.thSport) ()
        udpRedirect := { s.udpRedirect with
          endpoints := s.udpRedirect.endpoints.insert packet.thSport now } } := by
  rw [recordEndpoint, Socks5UdpLocalRedirect.isNewEndpoint_new hip hnew]
  rfl

/-- A source port that is in the table changes nothing. -/
theorem recordEndpoint_known {now timestamp : TimePoint}
    (hknown : s.udpRedirect.endpoints.find packet.thSport = some timestamp) :
    s.recordEndpoint now packet = s := by
  rw [recordEndpoint, Socks5UdpLocalRedirect.isNewEndpoint_known hknown]
  rfl

/-- The first datagram of a local port of a matched process is entered in both tables and
redirected. -/
theorem callback_datagram (hip : packet.IsIpv4 ipprotoUdp) (hmulti : packet.isMulticast = false)
    (hfrag : packet.isFragmented = false) (hport : s.udpPortFor o packet = some port)
    (hnew : s.udpRedirect.endpoints.find packet.thSport = none) :
    s.callback api o packet =
      (.revert, Socks5UdpLocalRedirect.redirectPacket api
          (if htons port = 0 then s.udpRedirect.proxyPort else htons port) packet,
        { s.lookUpUdp o packet with
          udpMapper := s.udpMapper.insert (ntohs packet.thSport) ()
          udpRedirect := { s.udpRedirect with
            endpoints := (s.udpRedirect.endpoints.insert packet.thSport o.now).insert
              packet.thSport o.now } }) := by
  rw [callback_udp_matched hip hmulti hport, recordEndpoint_new (s := s.lookUpUdp o packet) hip hnew]
  exact udpClientToServer_eq (s := { s.lookUpUdp o packet with
    udpMapper := s.udpMapper.insert (ntohs packet.thSport) ()
    udpRedirect := { s.udpRedirect with
      endpoints := s.udpRedirect.endpoints.insert packet.thSport o.now } })
    (Socks5UdpLocalRedirect.processClientToServerPacket_known hip hfrag Table.find_insert_self)

/-- A packet that is neither TCP nor UDP over IPv4 passes. -/
theorem callback_other (htcp : ¬ packet.IsIpv4 ipprotoTcp) (hudp : ¬ packet.IsIpv4 ipprotoUdp) :
    s.callback api o packet = (.pass, packet, s) := by
  by_cases heth : ntohs packet.hProto = ethPIp
  · have htcp : packet.ipP ≠ ipprotoTcp := fun h => htcp ⟨heth, h⟩
    have hudp : packet.ipP ≠ ipprotoUdp := fun h => hudp ⟨heth, h⟩
    simp [callback, htcp, hudp]
  · simp [callback, heth]

/-- The ways a packet can go. -/
theorem callback_cases {motive : PacketAction × IntermediateBuffer × SocksLocalRouter → Prop}
    (tcpMatched : ∀ port, packet.IsIpv4 ipprotoTcp → s.tcpPortFor o packet = some port → motive
      (((s.lookUpTcp o packet).recordSyn packet).tcpClientToServer api o.now port packet))
    (tcpProxy : packet.IsIpv4 ipprotoTcp → s.tcpPortFor o packet = none →
      s.isTcpProxyPort (ntohs packet.thSport) = true → motive
        ((s.lookUpTcp o packet).tcpServerToClient api o.now packet))
    (tcpOther : motive (.pass, packet, s.lookUpTcp o packet))
    (udpMatched : ∀ port, packet.IsIpv4 ipprotoUdp → packet.isMulticast = false →
      s.udpPortFor o packet = some port → motive
        (((s.lookUpUdp o packet).recordEndpoint o.now packet).udpClientToServer api o.now port
          packet))
    (udpProxy : packet.IsIpv4 ipprotoUdp → s.udpPortFor o packet = none →
      motive ((s.lookUpUdp o packet).udpServerToClient api o.now packet))
    (udpOther : motive (.pass, packet, s.lookUpUdp o packet))
    (other : motive (.pass, packet, s)) : motive (s.callback api o packet) := by
  by_cases htcp : packet.IsIpv4 ipprotoTcp
  · cases hport : s.tcpPortFor o packet with
    | some port =>
      rw [callback_tcp_matched htcp hport]
      exact tcpMatched port htcp hport
    | none =>
      cases hproxy : s.isTcpProxyPort (ntohs packet.thSport) with
      | true =>
        rw [callback_tcp_proxy htcp hport hproxy]
        exact tcpProxy htcp hport hproxy
      | false =>
        rw [callback_tcp_other htcp hport hproxy]
        exact tcpOther
  by_cases hudp : packet.IsIpv4 ipprotoUdp
  · cases hmulti : packet.isMulticast with
    | true =>
      rw [callback_udp_multicast hudp hmulti]
      exact other
    | false =>
      cases hport : s.udpPortFor o packet with
      | some port =>
        rw [callback_udp_matched hudp hmulti hport]
        exact udpMatched port hudp hmulti hport
      | none =>
        cases hproxy : s.isUdpProxyPort (ntohs packet.thSport) with
        | true =>
          rw [callback_udp_proxy hudp hmulti hport hproxy]
          exact udpProxy hudp hport
        | false =>
          rw [callback_udp_other hudp hmulti hport hproxy]
          exact udpOther
  rw [callback_other htcp hudp]
  exact other

/-- Every process is matched by an `AllFilter` that comes first. -/
theorem getProxyPort_allFilter {server : Option UInt16 × Option UInt16 → Option UInt16}
    {process : NetworkProcess} {proxyId : Nat} {filters : List FilterInterface}
    {rest : List (Nat × List FilterInterface)}
    (h : s.proxyToFilters = (proxyId, allFilter :: filters) :: rest) :
    s.getProxyPort server process = s.proxyServers[proxyId]?.bind server := by
  simp [getProxyPort, h, allFilter]

end Directions

/-! ## The lambdas of `add_socks5_proxy` -/

/-- What a `query_remote_peer` lambda captures and answers of the upstream proxy. -/
structure Upstream where
  endpoint : IpEndpoint IpAddressV4
  credPair : Option (List UInt8 × List UInt8) := none

/-- The negotiate context for an address and a port, with the configured credentials. -/
def Upstream.negotiateContext (u : Upstream) (ip : IpAddressV4) (port : UInt16) :
    NegotiateContext :=
  ⟨ip, port, u.credPair.map Prod.fst, u.credPair.map Prod.snd⟩

/-- The `query_remote_peer` lambda of a TCP proxy server. -/
def queryRemotePeerTcp (u : Upstream) (_address : IpAddressV4) (port : UInt16)
    (s : SocksLocalRouter) :
    (IpAddressV4 × UInt16 × Option NegotiateContext) × SocksLocalRouter :=
  match s.tcpMapper.find port with
  | some remote =>
    ((u.endpoint.ip, u.endpoint.port, some (u.negotiateContext remote.ip remote.port)),
      { s with tcpMapper := s.tcpMapper.erase port })
  | none => ((default, 0, none), s)

/-- The `query_remote_peer` lambda of a UDP proxy server. -/
def queryRemotePeerUdp (u : Upstream) (_address : IpAddressV4) (port : UInt16)
    (s : SocksLocalRouter) :
    (IpAddressV4 × UInt16 × Option NegotiateContext) × SocksLocalRouter :=
  match s.udpMapper.find port with
  | some _ =>
    ((u.endpoint.ip, u.endpoint.port, some (u.negotiateContext default 0)),
      { s with udpMapper := s.udpMapper.erase port })
  | none => ((default, 0, none), s)

section Lambdas

variable {u : Upstream} {address : IpAddressV4} {port : UInt16} {s : SocksLocalRouter}

/-- What is recorded for a local port is handed over, once. -/
theorem queryRemotePeerTcp_known {remote : IpEndpoint IpAddressV4}
    (h : s.tcpMapper.find port = some remote) :
    s.queryRemotePeerTcp u address port =
      ((u.endpoint.ip, u.endpoint.port, some (u.negotiateContext remote.ip remote.port)),
        { s with tcpMapper := s.tcpMapper.erase port }) := by
  rw [queryRemotePeerTcp, h]

/-- For a local port nothing is recorded for there is no context. -/
theorem queryRemotePeerTcp_unknown (h : s.tcpMapper.find port = none) :
    s.queryRemotePeerTcp u address port = ((default, 0, none), s) := by
  rw [queryRemotePeerTcp, h]

/-- The record of a local port is answered with the upstream proxy, once. -/
theorem queryRemotePeerUdp_known (h : (s.udpMapper.find port).isSome = true) :
    s.queryRemotePeerUdp u address port =
      ((u.endpoint.ip, u.endpoint.port, some (u.negotiateContext default 0)),
        { s with udpMapper := s.udpMapper.erase port }) := by
  obtain ⟨record, hrecord⟩ := Option.isSome_iff_exists.mp h
  rw [queryRemotePeerUdp, hrecord]

/-- For a local port that is not recorded there is no context. -/
theorem queryRemotePeerUdp_unknown (h : s.udpMapper.find port = none) :
    s.queryRemotePeerUdp u address port = ((default, 0, none), s) := by
  rw [queryRemotePeerUdp, h]

@[simp] theorem queryRemotePeerTcp_tcpRedirect :
    (s.queryRemotePeerTcp u address port).2.tcpRedirect = s.tcpRedirect := by
  unfold queryRemotePeerTcp
  split <;> rfl

@[simp] theorem queryRemotePeerUdp_tcpRedirect :
    (s.queryRemotePeerUdp u address port).2.tcpRedirect = s.tcpRedirect := by
  unfold queryRemotePeerUdp
  split <;> rfl

end Lambdas

/-! ## Runs -/

/-- What happens to a router. -/
inductive Event where
  /-- The packet filter runs its callback on an outgoing packet. -/
  | packet (o : Observation) (packet : IntermediateBuffer)
  /-- A TCP proxy server asks where the peer of an accepted connection wanted to go. -/
  | queryTcp (u : Upstream) (address : IpAddressV4) (port : UInt16)
  /-- A UDP proxy server asks for the upstream proxy of a datagram's source. -/
  | queryUdp (u : Upstream) (address : IpAddressV4) (port : UInt16)
  /-- A pass of the clean-up thread of the TCP redirection. -/
  | cleanupTcp (now : TimePoint)
  /-- A pass of the clean-up thread of the UDP redirection. -/
  | cleanupUdp (now : TimePoint)
  /-- Proxies and filters are added, or proxies stopped. -/
  | configure (proxyServers : List (Option UInt16 × Option UInt16))
      (proxyToFilters : List (Nat × List FilterInterface))

/-- The router after an event. -/
def after (api : CNdisApi) (s : SocksLocalRouter) : Event → SocksLocalRouter
  | .packet o packet => (s.callback api o packet).2.2
  | .queryTcp u address port => (s.queryRemotePeerTcp u address port).2
  | .queryUdp u address port => (s.queryRemotePeerUdp u address port).2
  | .cleanupTcp now => { s with tcpRedirect := s.tcpRedirect.cleanup now }
  | .cleanupUdp now => { s with udpRedirect := s.udpRedirect.cleanup now }
  | .configure proxyServers proxyToFilters =>
    { s with proxyServers := proxyServers, proxyToFilters := proxyToFilters }

/-- The runs of a router from its construction on. -/
def system (api : CNdisApi) : Transition.System SocksLocalRouter Event where
  init s := s = {}
  step s e t := t = s.after api e

end SocksLocalRouter

end CutieProxy
