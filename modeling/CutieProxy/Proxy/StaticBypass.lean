import CutieProxy.Net.IpSubnet
import CutieProxy.Proxy.ProxyRegistration

/-!
# The static filters of the router

The driver runs the router's callback on the outgoing packets that match no static pass filter.
`add_socks5_proxy` hands it, for every endpoint it could parse, filters for TCP and, when the proxy
serves UDP, for UDP to the port of that endpoint, and does not look at whether the driver took them.
The connections to an upstream server therefore pass where their filter was taken, but the datagrams
go to the relay port of a later UDP ASSOCIATE: one that no filter covers is handled like a datagram
of any application, and sent to a local proxy when a process filter matches the process that hosts
the proxies (`upstream_packets`).
-/

namespace CutieProxy

open Transition IntermediateBuffer

open ProxyRegistration (createFilter filtersFor icmpFilter)

/-! ## The driver's test -/

/-- The driver's test, on the fields the router sets: the packet has everything the filter names. -/
def Filter.covers (direction : Direction) (packet : IntermediateBuffer) (f : Filter .v4) : Bool :=
  (f.direction == .both || f.direction == direction) &&
    f.protocol.all (fun protocol => decide (packet.IsIpv4 protocol)) &&
    f.destAddress.all (fun n => n.addressInSubnet packet.ipDst) &&
    f.destPort.all (fun range =>
      decide (range.1 ≤ ntohs packet.thDport) && decide (ntohs packet.thDport ≤ range.2))

/-! ## The router and its filters -/

/-- A call of `add_socks5_proxy` that parsed its endpoint. -/
structure AddedProxy where
  endpoint : IpEndpoint IpAddressV4
  protocols : SupportedProtocols
  /-- Whether the driver added a filter, by the number of filters handed to it before. -/
  driver : Nat → Bool

namespace AddedProxy

/-- The driver added the filter, one of the call. -/
def Took (p : AddedProxy) (f : Filter .v4) : Prop :=
  ∃ i, (filtersFor p.endpoint p.protocols)[i]? = some f ∧ p.driver i = true

/-- The driver added `tcp_out_filter`, the first of the call. -/
def TookTcpOut (p : AddedProxy) : Prop := p.driver 0 = true

/-- `udp_out_filter` was handed to the driver, the third of the call, and added. -/
def TookUdpOut (p : AddedProxy) : Prop := p.protocols ≠ .tcp ∧ p.driver 2 = true

end AddedProxy

/-- The router below the driver, with its static filters. -/
structure FilteredRouter extends ProxyRegistration where
  /-- The calls of `add_socks5_proxy` that parsed their endpoint. -/
  added : List AddedProxy := []

namespace FilteredRouter

/-- `add_socks5_proxy`. -/
def addSocks5Proxy (w : NameService) (endpoint : List UInt8) (protocols : SupportedProtocols)
    (credPair : Option (List UInt8 × List UInt8)) (start : Bool) (o : AddCalls)
    (s : FilteredRouter) : FilteredRouter where
  toProxyRegistration :=
    (ProxyRegistration.addSocks5Proxy w endpoint protocols credPair start o
      s.toProxyRegistration).2
  added :=
    match w.parseEndpoint endpoint with
    | none => s.added
    | some proxyEndpoint => s.added ++ [⟨proxyEndpoint, protocols, o.driver⟩]

/-- What becomes of an outgoing packet. -/
def outgoing (api : CNdisApi) (o : Observation) (packet : IntermediateBuffer) (s : FilteredRouter) :
    PacketAction × IntermediateBuffer × FilteredRouter :=
  if s.staticFilters.filters.any (FilterVariant.satisfies fun f : Filter .v4 =>
      f.action == .pass && f.covers .outgoing packet) then
    (.pass, packet, s)
  else
    let (action, packet, router) := s.router.callback api o packet
    (action, packet, { s with router := router })

/-- What happens to the router below the driver. -/
inductive Event where
  | addSocks5Proxy (w : NameService) (endpoint : List UInt8) (protocols : SupportedProtocols)
      (credPair : Option (List UInt8 × List UInt8)) (start : Bool) (o : AddCalls)
  /-- An event of the router, a packet first passing the static filters. -/
  | router (e : SocksLocalRouter.Event)

/-- The router after an event. -/
def after (api : CNdisApi) (s : FilteredRouter) : Event → FilteredRouter
  | .addSocks5Proxy w endpoint protocols credPair start o =>
    s.addSocks5Proxy w endpoint protocols credPair start o
  | .router (.packet o packet) => (s.outgoing api o packet).2.2
  | .router e => { s with router := s.router.after api e }

/-- The runs of a router below the driver. -/
def system (api : CNdisApi) : System FilteredRouter Event where
  init s := ∃ driver, s = { toProxyRegistration := .construct driver }
  step s e t := t = s.after api e

/-- An outgoing packet passes as it is. -/
def Untouched (api : CNdisApi) (o : Observation) (packet : IntermediateBuffer)
    (s : FilteredRouter) :
    Prop :=
  (s.outgoing api o packet).1 = .pass ∧ (s.outgoing api o packet).2.1 = packet

/-- The packet is of the connection to an endpoint. -/
def IsControl (endpoint : IpEndpoint IpAddressV4) (packet : IntermediateBuffer) : Prop :=
  packet.IsIpv4 ipprotoTcp ∧ packet.ipDst = endpoint.ip ∧ ntohs packet.thDport = endpoint.port

/-- The packet is a datagram to a relay port of the server at an endpoint. -/
def IsRelayed (endpoint : IpEndpoint IpAddressV4) (relayPort : UInt16)
    (packet : IntermediateBuffer) : Prop :=
  packet.IsIpv4 ipprotoUdp ∧ packet.ipDst = endpoint.ip ∧ ntohs packet.thDport = relayPort

end FilteredRouter

/-- The callback leaves a segment alone: its process is matched by a filter of a TCP proxy, and it is
a SYN of a connection that is entered already or a later segment of one that is not; or it is
matched by none, and it is no segment of a local proxy for a connection that is entered. -/
def SocksLocalRouter.LeavesSegmentAlone (o : Observation) (packet : IntermediateBuffer)
    (s : SocksLocalRouter) : Prop :=
  (s.tcpPortFor o packet).isSome = true ∧
      ((s.tcpRedirect.redirectedConnections.find (TcpLocalRedirect.clientKey packet)).isSome = true ↔
        packet.isSyn = true) ∨
    s.tcpPortFor o packet = none ∧
      (s.isTcpProxyPort (ntohs packet.thSport) = true →
        s.tcpRedirect.redirectedConnections.find (TcpLocalRedirect.serverKey packet) = none)

/-- The callback leaves a datagram alone: it is no unicast datagram or a fragment, or its process is
matched by no filter of a UDP proxy and it is no answer of a local proxy to a client that is
known. -/
def SocksLocalRouter.LeavesAlone (o : Observation) (packet : IntermediateBuffer)
    (s : SocksLocalRouter) : Prop :=
  packet.isMulticast = true ∨ packet.isFragmented = true ∨
    s.udpPortFor o packet = none ∧
      (s.isUdpProxyPort (ntohs packet.thSport) = true →
        s.udpRedirect.endpoints.find packet.thDport = none)

namespace SocksLocalRouter

variable {api : CNdisApi} {o : Observation} {packet : IntermediateBuffer} {port : UInt16}
  {s : SocksLocalRouter}

/-- The source port of a matched process is known when its datagram is redirected. -/
theorem recordEndpoint_find {now : TimePoint} (hip : packet.IsIpv4 ipprotoUdp) :
    ∃ timestamp, (s.recordEndpoint now packet).udpRedirect.endpoints.find packet.thSport =
      some timestamp := by
  cases hfind : s.udpRedirect.endpoints.find packet.thSport with
  | none =>
    rw [recordEndpoint_new hip hfind]
    exact ⟨now, Table.find_insert_self⟩
  | some timestamp =>
    rw [recordEndpoint_known hfind]
    exact ⟨timestamp, hfind⟩

/-- A datagram passes the callback as it is exactly when the callback leaves it alone. -/
theorem callback_udp_iff (hip : packet.IsIpv4 ipprotoUdp) :
    (s.callback api o packet).1 = .pass ∧ (s.callback api o packet).2.1 = packet ↔
      s.LeavesAlone o packet := by
  unfold LeavesAlone
  cases hmulti : packet.isMulticast with
  | true =>
    rw [callback_udp_multicast hip hmulti]
    exact ⟨fun _ => Or.inl rfl, fun _ => ⟨rfl, rfl⟩⟩
  | false =>
  cases hport : s.udpPortFor o packet with
  | some port =>
    rw [callback_udp_matched hip hmulti hport]
    cases hfrag : packet.isFragmented with
    | true =>
      rw [udpClientToServer_eq (Socks5UdpLocalRedirect.processClientToServerPacket_fragment hfrag)]
      exact ⟨fun _ => Or.inr (Or.inl rfl), fun _ => ⟨rfl, rfl⟩⟩
    | false =>
      obtain ⟨timestamp, hfind⟩ := recordEndpoint_find (s := s.lookUpUdp o packet) hip
      rw [udpClientToServer_eq
        (Socks5UdpLocalRedirect.processClientToServerPacket_known hip hfrag hfind)]
      exact ⟨nofun, nofun⟩
  | none =>
  cases hproxy : s.isUdpProxyPort (ntohs packet.thSport) with
  | false =>
    rw [callback_udp_other hip hmulti hport hproxy]
    exact ⟨fun _ => Or.inr (Or.inr ⟨rfl, nofun⟩), fun _ => ⟨rfl, rfl⟩⟩
  | true =>
    rw [callback_udp_proxy hip hmulti hport hproxy]
    cases hfrag : packet.isFragmented with
    | true =>
      rw [udpServerToClient_eq (Socks5UdpLocalRedirect.processServerToClientPacket_fragment hfrag)]
      exact ⟨fun _ => Or.inr (Or.inl rfl), fun _ => ⟨rfl, rfl⟩⟩
    | false =>
      cases hfind : s.udpRedirect.endpoints.find packet.thDport with
      | none =>
        rw [udpServerToClient_eq (s := s.lookUpUdp o packet)
          (Socks5UdpLocalRedirect.processServerToClientPacket_unknown hfind)]
        exact ⟨fun _ => Or.inr (Or.inr ⟨rfl, fun _ => rfl⟩), fun _ => ⟨rfl, rfl⟩⟩
      | some timestamp =>
        rw [udpServerToClient_eq (s := s.lookUpUdp o packet)
          (Socks5UdpLocalRedirect.processServerToClientPacket_known hip hfrag hfind)]
        refine ⟨nofun, fun h => ?_⟩
        rcases h with h | h | ⟨-, h⟩
        · cases h
        · cases h
        · cases h rfl

/-- A segment passes the callback as it is exactly when the callback leaves it alone. -/
theorem callback_tcp_iff (hip : packet.IsIpv4 ipprotoTcp) :
    (s.callback api o packet).1 = .pass ∧ (s.callback api o packet).2.1 = packet ↔
      s.LeavesSegmentAlone o packet := by
  unfold LeavesSegmentAlone
  cases hport : s.tcpPortFor o packet with
  | some port =>
    cases hsyn : packet.isSyn <;>
      cases hkey : s.tcpRedirect.redirectedConnections.find (TcpLocalRedirect.clientKey packet)
    · rw [callback_tcp_unknown hip hport hsyn hkey]
      simp
    · rw [callback_tcp_known hip hport hsyn hkey]
      simp
    · rw [callback_syn hip hsyn hport hkey]
      simp
    · rw [callback_syn_known hip hsyn hport hkey]
      simp
  | none =>
    cases hproxy : s.isTcpProxyPort (ntohs packet.thSport) with
    | false =>
      rw [callback_tcp_other hip hport hproxy]
      simp
    | true =>
      cases hkey : s.tcpRedirect.redirectedConnections.find (TcpLocalRedirect.serverKey packet) with
      | none =>
        rw [callback_tcp_proxy hip hport hproxy,
          tcpServerToClient_eq (s := s.lookUpTcp o packet)
            (TcpLocalRedirect.processServerToClientPacket_unknown hkey)]
        simp
      | some entry =>
        rw [callback_tcp_proxy_known hip hport hproxy hkey]
        simp

end SocksLocalRouter

/-! ## What the static filters cover -/

/-- A subnet with a full mask has one address. -/
theorem Subnet.addressInSubnet_host {ip address : IpAddressV4} :
    Subnet.addressInSubnet (T := .v4) ⟨address, ⟨255, 255, 255, 255⟩⟩ ip = true ↔
      ip = address := by
  have hmask : Subnet.bits (T := .v4) ⟨255, 255, 255, 255⟩ =
      List.replicate 32 true ++ List.replicate 0 false := by decide
  have hall (a : IpAddressV4) : (Subnet.bits (T := .v4) a).take 32 = Subnet.bits (T := .v4) a :=
    List.take_of_length_le (Nat.le_of_eq (Subnet.length_bits (T := .v4) a))
  rw [Subnet.addressInSubnet_of_mask hmask, hall, hall]
  refine Memory.networkBits_inj.trans ?_
  obtain ⟨a, b, c, d⟩ := ip
  obtain ⟨a', b', c', d'⟩ := address
  simp [Subnet.memory, IpAddressV4.toBytes]

/-- A filter of `create_filter` covers the packets of its protocol to its endpoint. -/
theorem createFilter_covers {protocol : UInt8} {direction : Direction} {address : IpAddressV4}
    {port : UInt16} {packet : IntermediateBuffer} :
    (createFilter protocol direction address port).covers .outgoing packet =
        true ↔
      (direction = .both ∨ direction = .outgoing) ∧ packet.IsIpv4 protocol ∧
        packet.ipDst = address ∧ ntohs packet.thDport = port := by
  unfold Filter.covers createFilter
  have hport : port ≤ ntohs packet.thDport ∧ ntohs packet.thDport ≤ port ↔
      ntohs packet.thDport = port :=
    ⟨fun h => UInt16.le_antisymm h.2 h.1, fun h => ⟨h ▸ UInt16.le_refl _, h ▸ UInt16.le_refl _⟩⟩
  simp [Subnet.addressInSubnet_host, hport, and_assoc]

namespace FilteredRouter

variable {api : CNdisApi} {o : Observation} {packet : IntermediateBuffer} {s : FilteredRouter}
  {e : Event}

/-- The filters in the table are that of the constructor, at most, and those that were taken from a
call. -/
structure Configured (s : FilteredRouter) : Prop where
  only : ∀ g ∈ s.staticFilters.filters,
    g = ⟨.v4, icmpFilter⟩ ∨ ∃ p ∈ s.added, ∃ f, p.Took f ∧ g = ⟨.v4, f⟩
  taken : ∀ p ∈ s.added, ∀ f, p.Took f → ⟨.v4, f⟩ ∈ s.staticFilters.filters

theorem Configured.construct (driver : Bool) :
    Configured { toProxyRegistration := .construct driver } := by
  refine ⟨fun g hg => ?_, nofun⟩
  cases driver with
  | false => cases hg
  | true => exact Or.inl (List.mem_singleton.mp hg)

theorem Configured.addSocks5Proxy (h : s.Configured) (w : NameService) (endpoint : List UInt8)
    (protocols : SupportedProtocols) (credPair : Option (List UInt8 × List UInt8)) (start : Bool)
    (calls : AddCalls) :
    (s.addSocks5Proxy w endpoint protocols credPair start calls).Configured := by
  cases hparse : w.parseEndpoint endpoint with
  | none =>
    have hsame : s.addSocks5Proxy w endpoint protocols credPair start calls = s := by
      simp [FilteredRouter.addSocks5Proxy, ProxyRegistration.addSocks5Proxy, hparse]
    rwa [hsame]
  | some proxyEndpoint =>
    have hadded : (s.addSocks5Proxy w endpoint protocols credPair start calls).added =
        s.added ++ [⟨proxyEndpoint, protocols, calls.driver⟩] := by
      simp [FilteredRouter.addSocks5Proxy, hparse]
    have hfilters : (s.addSocks5Proxy w endpoint protocols credPair start calls).staticFilters =
        ProxyRegistration.addFilters calls.driver
          (filtersFor proxyEndpoint protocols) 0 s.staticFilters := by
      unfold FilteredRouter.addSocks5Proxy ProxyRegistration.addSocks5Proxy
      rw [hparse]
      dsimp only
      split <;> rfl
    constructor
    · intro g hg
      rw [hfilters, ProxyRegistration.mem_addFilters] at hg
      rw [hadded]
      rcases hg with hg | ⟨i, f, hi, hdriver, rfl⟩
      · refine (h.only g hg).imp_right ?_
        rintro ⟨p, hp, htook⟩
        exact ⟨p, List.mem_append_left _ hp, htook⟩
      · rw [Nat.zero_add] at hdriver
        exact Or.inr ⟨_, List.mem_append_right _ List.mem_cons_self, f, ⟨i, hi, hdriver⟩, rfl⟩
    · intro p hp f htook
      rw [hfilters, ProxyRegistration.mem_addFilters]
      rw [hadded] at hp
      rcases List.mem_append.mp hp with hp | hp
      · exact Or.inl (h.taken p hp f htook)
      · cases List.mem_singleton.mp hp
        obtain ⟨i, hi, hdriver⟩ := htook
        exact Or.inr ⟨i, f, hi, by rwa [Nat.zero_add], rfl⟩

theorem Configured.step (h : s.Configured) : (s.after api e).Configured := by
  cases e with
  | addSocks5Proxy w endpoint protocols credPair start calls =>
    exact h.addSocks5Proxy w endpoint protocols credPair start calls
  | router e =>
    cases e with
    | packet o packet =>
      show (s.outgoing api o packet).2.2.Configured
      unfold outgoing
      split
      · exact h
      · exact ⟨h.only, h.taken⟩
    | queryTcp | queryUdp | cleanupTcp | cleanupUdp | configure => exact ⟨h.only, h.taken⟩

/-- The filters always are those that were taken. -/
theorem Configured.of_reachable (h : (system api).Reachable s) : s.Configured := by
  refine h.invariant (fun s hs => ?_) fun s e t hs ht => ?_
  · obtain ⟨driver, rfl⟩ := hs
    exact .construct driver
  · cases ht
    exact hs.step

/-- A packet some static filter covers. -/
def Bypassed (packet : IntermediateBuffer) (s : FilteredRouter) : Prop :=
  ∃ f : Filter .v4, ⟨.v4, f⟩ ∈ s.staticFilters.filters ∧ f.action = .pass ∧
    f.covers .outgoing packet = true

/-- A packet passes as it is when a static filter covers it, or when the callback leaves it so. -/
theorem untouched_iff :
    s.Untouched api o packet ↔ s.Bypassed packet ∨
      (s.router.callback api o packet).1 = .pass ∧
        (s.router.callback api o packet).2.1 = packet := by
  have hbypassed : (s.staticFilters.filters.any (FilterVariant.satisfies fun f : Filter .v4 =>
      f.action == .pass && f.covers .outgoing packet)) = true ↔ s.Bypassed packet := by
    simp only [List.any_eq_true, FilterVariant.satisfies_iff, Bool.and_eq_true, beq_iff_eq]
    constructor
    · rintro ⟨_, hmem, f, rfl, haction, hcovers⟩
      exact ⟨f, hmem, haction, hcovers⟩
    · rintro ⟨f, hmem, haction, hcovers⟩
      exact ⟨_, hmem, f, rfl, haction, hcovers⟩
  unfold Untouched outgoing
  split
  · next hany => exact ⟨fun _ => Or.inl (hbypassed.mp hany), fun _ => ⟨rfl, rfl⟩⟩
  · next hany => exact ⟨Or.inr, fun h => h.resolve_left (mt hbypassed.mpr hany)⟩

/-- The filter of the constructor covers neither segments nor datagrams. -/
theorem icmpFilter_covers {protocol : UInt8} (hip : packet.IsIpv4 protocol)
    (hprotocol : protocol ≠ ipprotoIcmp) : icmpFilter.covers .outgoing packet = false := by
  have hicmp : ¬ packet.IsIpv4 ipprotoIcmp := fun hicmp => hprotocol (hip.2.symm.trans hicmp.2)
  simp [icmpFilter, Filter.covers, hicmp]

/-- The filters of a call are for one of the two directions. -/
theorem eq_createFilter_of_mem {endpoint : IpEndpoint IpAddressV4} {protocols : SupportedProtocols}
    {f : Filter .v4} (h : f ∈ filtersFor endpoint protocols) :
    ∃ protocol direction, direction ≠ .both ∧
      f = createFilter protocol direction endpoint.ip endpoint.port := by
  cases protocols with
  | tcp =>
    simp only [filtersFor, List.mem_cons, List.not_mem_nil, or_false] at h
    rcases h with rfl | rfl
    all_goals exact ⟨_, _, by decide, rfl⟩
  | udp | both =>
    simp only [filtersFor, List.mem_cons, List.not_mem_nil, or_false] at h
    rcases h with rfl | rfl | rfl | rfl
    all_goals exact ⟨_, _, by decide, rfl⟩

/-- Which packets of a protocol are bypassed: those to the endpoint of a call whose filter for them
was taken. -/
theorem Configured.bypassed_iff (h : s.Configured) {protocol : UInt8}
    (hip : packet.IsIpv4 protocol) (hprotocol : protocol ≠ ipprotoIcmp) :
    s.Bypassed packet ↔ ∃ p ∈ s.added,
      p.Took (createFilter protocol .outgoing p.endpoint.ip p.endpoint.port) ∧
        packet.ipDst = p.endpoint.ip ∧ ntohs packet.thDport = p.endpoint.port := by
  constructor
  · rintro ⟨f, hmem, -, hcovers⟩
    rcases h.only _ hmem with hicmp | ⟨p, hp, f', htook, heq⟩
    · cases hicmp
      rw [icmpFilter_covers hip hprotocol] at hcovers
      cases hcovers
    · cases heq
      obtain ⟨i, hi, -⟩ := id htook
      obtain ⟨protocol', direction, hone, rfl⟩ :=
        eq_createFilter_of_mem (List.mem_of_getElem? hi)
      obtain ⟨hdirection, hip', hdst, hport⟩ := createFilter_covers.mp hcovers
      rw [hdirection.resolve_left hone, ← hip'.2, hip.2] at htook
      exact ⟨p, hp, htook, hdst, hport⟩
  · rintro ⟨p, hp, htook, hdst, hport⟩
    exact ⟨_, h.taken p hp _ htook, rfl, createFilter_covers.mpr ⟨Or.inr rfl, hip, hdst, hport⟩⟩

end FilteredRouter

namespace AddedProxy

variable {p : AddedProxy}

/-- The filter for outgoing segments is the first of a call. -/
theorem took_tcpOut_iff :
    p.Took (createFilter ipprotoTcp .outgoing p.endpoint.ip p.endpoint.port) ↔ p.TookTcpOut := by
  constructor
  · rintro ⟨i, hi, hdriver⟩
    cases i with
    | zero => exact hdriver
    | succ i =>
      obtain ⟨endpoint, protocols, driver⟩ := p
      cases protocols <;> rcases i with _ | _ | _ | i <;> cases hi
  · intro hdriver
    obtain ⟨endpoint, protocols, driver⟩ := p
    exact ⟨0, by cases protocols <;> rfl, hdriver⟩

/-- The filter for outgoing datagrams is the third, unless the call is for TCP only. -/
theorem took_udpOut_iff :
    p.Took (createFilter ipprotoUdp .outgoing p.endpoint.ip p.endpoint.port) ↔ p.TookUdpOut := by
  obtain ⟨endpoint, protocols, driver⟩ := p
  constructor
  · rintro ⟨i, hi, hdriver⟩
    cases protocols with
    | tcp => rcases i with _ | _ | i <;> cases hi
    | udp | both =>
      rcases i with _ | _ | _ | _ | i <;> first | exact ⟨nofun, hdriver⟩ | cases hi
  · rintro ⟨hprotocols, hdriver⟩
    cases protocols with
    | tcp => exact absurd rfl hprotocols
    | udp | both => exact ⟨2, rfl, hdriver⟩

end AddedProxy

namespace FilteredRouter

variable {api : CNdisApi} {o : Observation} {packet : IntermediateBuffer} {s : FilteredRouter}
  {endpoint : IpEndpoint IpAddressV4}

/-- In every reachable state, for every upstream server: a packet of the connection to it passes as
it is exactly when the driver took the TCP filter of a call for that endpoint or the callback leaves
the segment alone; a datagram to a relay port of it passes as it is exactly when the driver took the
UDP filter of a call for that port at the same address or the callback leaves the datagram alone. -/
theorem upstream_packets (h : (system api).Reachable s) :
    (IsControl endpoint packet → (s.Untouched api o packet ↔
      (∃ p ∈ s.added, p.TookTcpOut ∧ endpoint.ip = p.endpoint.ip ∧
        endpoint.port = p.endpoint.port) ∨ s.router.LeavesSegmentAlone o packet)) ∧
    ∀ relayPort, IsRelayed endpoint relayPort packet → (s.Untouched api o packet ↔
      (∃ p ∈ s.added, p.TookUdpOut ∧ endpoint.ip = p.endpoint.ip ∧
        relayPort = p.endpoint.port) ∨ s.router.LeavesAlone o packet) := by
  have hconf := Configured.of_reachable h
  constructor
  · rintro ⟨hip, hdst, hport⟩
    rw [untouched_iff, hconf.bypassed_iff hip (by decide), SocksLocalRouter.callback_tcp_iff hip,
      hdst, hport]
    simp only [AddedProxy.took_tcpOut_iff]
  · rintro relayPort ⟨hip, hdst, hport⟩
    rw [untouched_iff, hconf.bypassed_iff hip (by decide), SocksLocalRouter.callback_udp_iff hip,
      hdst, hport]
    simp only [AddedProxy.took_udpOut_iff]

/-- The upstream server. -/
def upstream : IpEndpoint IpAddressV4 := ⟨⟨10, 0, 0, 1⟩, 1080, none⟩

/-- The servers of the proxy come, on the ports 2080 and 2081; the driver adds the filters as told. -/
def served (driver : Nat → Bool) : AddCalls where
  driver := driver
  tcpServer := some 2080
  udpServer := some 2081
  tcpStarts := true
  udpStarts := true
  emplaced := true

/-- One proxy for both protocols, with the given filters for processes. -/
def proxied (driver : Nat → Bool) (filters : List FilterInterface) : FilteredRouter where
  router := { proxyServers := [(some 2080, some 2081)], proxyToFilters := [(0, filters)] }
  staticFilters := ProxyRegistration.addFilters driver (filtersFor upstream .both) 0
    (ProxyRegistration.construct true).staticFilters
  added := [⟨upstream, .both, driver⟩]

theorem proxied_reachable (driver : Nat → Bool) (filters : List FilterInterface) :
    (system .plain).Reachable (proxied driver filters) := by
  have hinit : (system .plain).Reachable { toProxyRegistration := .construct true } :=
    System.Reachable.init ⟨true, rfl⟩
  have hadd := hinit.snoc (M := system .plain) (e := .addSocks5Proxy NameService.literalOnly
    ProxyRegistration.endpointText .both none true (served driver)) rfl
  have hproxied : proxied driver filters = FilteredRouter.after .plain
      (FilteredRouter.after .plain { toProxyRegistration := .construct true }
        (.addSocks5Proxy NameService.literalOnly ProxyRegistration.endpointText .both none true
          (served driver)))
      (.router (.configure [(some 2080, some 2081)] [(0, filters)])) := by
    simp only [FilteredRouter.after, addSocks5Proxy, ProxyRegistration.addSocks5Proxy,
      ProxyRegistration.parseEndpoint_endpointText]
    rfl
  exact hproxied ▸ hadd.snoc (M := system .plain) rfl

/-- A segment of the connection to the upstream server. -/
def controlSegment : IntermediateBuffer := tcpFrame ⟨10, 0, 0, 5⟩ ⟨10, 0, 0, 1⟩ 50001 1080 0x02

/-- A datagram of the proxy to the relay port. -/
def relayed (relayPort : UInt16) : IntermediateBuffer :=
  udpFrame ⟨10, 0, 0, 5⟩ ⟨10, 0, 0, 1⟩ 50000 relayPort 0 [1]

/-- The process that hosts the proxies owns the sockets of both. -/
def hostObservation : Observation where
  now := 0
  tcpTable := Table.empty.insert (SocksLocalRouter.tcpSession controlSegment)
    ⟨4, wstring "cutieproxy", wstring "cutieproxy"⟩
  udpTable := Table.empty.insert ⟨⟨10, 0, 0, 5⟩, 50000, none⟩
    ⟨4, wstring "cutieproxy", wstring "cutieproxy"⟩

/-- Every process is matched. With every filter in the table the connection passes, and so does a
datagram to a relay port that is the port of the endpoint; without the first filter the proxy
connects to itself. -/
theorem upstream_packets_same_port :
    (proxied (fun _ => true) [allFilter]).Untouched .plain hostObservation controlSegment ∧
      (proxied (fun _ => true) [allFilter]).Untouched .plain hostObservation (relayed 1080) ∧
      ¬ (proxied (fun i => i != 0) [allFilter]).Untouched .plain hostObservation
        controlSegment := by
  have hcontrol : IsControl upstream controlSegment := ⟨by decide, by decide, by decide⟩
  have hrelayed : IsRelayed upstream 1080 (relayed 1080) := ⟨by decide, by decide, by decide⟩
  refine ⟨((upstream_packets (proxied_reachable _ _)).1 hcontrol).mpr ?_,
    ((upstream_packets (proxied_reachable _ _)).2 1080 hrelayed).mpr ?_,
    fun h => ?_⟩
  · exact Or.inl ⟨_, List.mem_cons_self, rfl, rfl, rfl⟩
  · exact Or.inl ⟨_, List.mem_cons_self, ⟨nofun, rfl⟩, rfl, rfl⟩
  · have hport : (proxied (fun i => i != 0) [allFilter]).router.tcpPortFor hostObservation
        controlSegment = some 2080 := by
      unfold SocksLocalRouter.tcpPortFor SocksLocalRouter.getProxyPortTcp
      rw [SocksLocalRouter.getProxyPort_allFilter
        (s := (proxied (fun i => i != 0) [allFilter]).router) rfl]
      rfl
    rcases ((upstream_packets (proxied_reachable _ _)).1 hcontrol).mp h with
      ⟨p, hp, htook, -, -⟩ | ⟨-, hsyn⟩ | ⟨hnone, -⟩
    · cases List.mem_singleton.mp hp
      cases htook
    · cases hsyn.mpr (by decide)
    · cases hport.symm.trans hnone

/-- The relay port is another one, and a filter matches the process that hosts the proxies: a
datagram of the proxy does not pass as it is. -/
theorem relayed_datagram_redirected :
    (system .plain).Reachable (proxied (fun _ => true) [allFilter]) ∧
      ⟨upstream, .both, fun _ => true⟩ ∈ (proxied (fun _ => true) [allFilter]).added ∧
      IsRelayed upstream 40000 (relayed 40000) ∧
      ¬ (proxied (fun _ => true) [allFilter]).Untouched .plain hostObservation
        (relayed 40000) := by
  have hip : (relayed 40000).IsIpv4 ipprotoUdp := by decide
  have hreach := proxied_reachable (fun _ => true) [allFilter]
  have hport : (proxied (fun _ => true) [allFilter]).router.udpPortFor hostObservation
      (relayed 40000) = some 2081 := by
    unfold SocksLocalRouter.udpPortFor SocksLocalRouter.getProxyPortUdp
    rw [SocksLocalRouter.getProxyPort_allFilter
      (s := (proxied (fun _ => true) [allFilter]).router) rfl]
    rfl
  refine ⟨hreach, List.mem_cons_self, ⟨hip, by decide, by decide⟩, fun h => ?_⟩
  rw [untouched_iff, (Configured.of_reachable hreach).bypassed_iff hip (by decide),
    SocksLocalRouter.callback_udp_iff hip] at h
  rcases h with ⟨p, hp, -, -, hdport⟩ | hmulti | hfrag | ⟨hnone, -⟩
  · rw [List.mem_singleton.mp hp] at hdport
    exact absurd hdport (by decide)
  · exact absurd hmulti (by decide)
  · exact absurd hfrag (by decide)
  · cases hport.symm.trans hnone

end FilteredRouter

end CutieProxy
