import CutieProxy.Lib.SnapshotCache
import CutieProxy.Proxy.RouterReplies
import CutieProxy.Proxy.SocksLocalRouter

/-!
# What the router knows of the owners

The callback looks a packet's owner up in the tables of `process_lookup`, rebuilds a table that does
not have it, and enters the default process when that does not help. Over a run a table is the
report it was rebuilt from last, and at most one session or endpoint that report does not have
(`OwnerView`): `owners_of_run` says that a packet goes to the proxy port of the owner which that
report gives it. For datagrams of two endpoints that no report has the table is rebuilt every time
(`unreported_datagrams_rebuild`).
-/

namespace CutieProxy

open SnapshotCache

/-- A session is looked up as it is. -/
def sessionKeys : Keys (IpSession IpAddressV4) := .plain

/-- An endpoint is looked up as it is, and then with the address zero. -/
def endpointKeys : Keys (IpEndpoint IpAddressV4) := .orElse fun e => { e with ip := default }

/-- The tables of `process_lookup` as snapshots of what the system reported. -/
structure OwnerView where
  tcp : Snapshot sessionKeys NetworkProcess := { reported := .empty }
  udp : Snapshot endpointKeys NetworkProcess := { reported := .empty }

namespace OwnerView

/-- The tables of the snapshots. -/
def processLookup (v : OwnerView) : ProcessLookup IpAddressV4 where
  tcpToApp := v.tcp.table ProcessLookup.defaultProcess
  udpToApp := v.udp.table ProcessLookup.defaultProcess

/-- The snapshots after the owner of a TCP session is looked up. -/
def lookUpTcp (o : Observation) (session : IpSession IpAddressV4) (v : OwnerView) : OwnerView :=
  { v with tcp := v.tcp.next o.tcpTable session }

/-- The snapshots after the owner of a UDP endpoint is looked up. -/
def lookUpUdp (o : Observation) (endpoint : IpEndpoint IpAddressV4) (v : OwnerView) : OwnerView :=
  { v with udp := v.udp.next o.udpTable endpoint }

/-- Tables as they were reported. -/
def ofTables (l : ProcessLookup IpAddressV4) : OwnerView where
  tcp := { reported := l.tcpToApp }
  udp := { reported := l.udpToApp }

/-- The owner of a TCP session as the report names it. -/
def ownerOfTcp (session : IpSession IpAddressV4) (v : OwnerView) : NetworkProcess :=
  (v.tcp.reported.find session).getD ProcessLookup.defaultProcess

/-- The owner of a UDP endpoint as the report names it: its own, or that of its port at every
address. -/
def ownerOfUdp (endpoint : IpEndpoint IpAddressV4) (v : OwnerView) : NetworkProcess :=
  ((v.udp.reported.find endpoint).or (v.udp.reported.find { endpoint with ip := default })).getD
    ProcessLookup.defaultProcess

/-- The snapshots after what happens to a router. -/
def after (v : OwnerView) : SocksLocalRouter.Event → OwnerView
  | .packet o packet =>
    if packet.IsIpv4 ipprotoTcp then v.lookUpTcp o (SocksLocalRouter.tcpSession packet)
    else if packet.IsIpv4 ipprotoUdp ∧ packet.isMulticast = false then
      v.lookUpUdp o (SocksLocalRouter.udpEndpoint packet)
    else v
  | _ => v

variable {v : OwnerView} {o : Observation}

theorem lookup_sessionKeys (t : Table (IpSession IpAddressV4) NetworkProcess)
    (session : IpSession IpAddressV4) : lookup sessionKeys t session = t.find session := by
  cases hfind : t.find session with
  | some process => simp [lookup, sessionKeys, Keys.plain, hfind]
  | none => simp [lookup, sessionKeys, Keys.plain, hfind]

theorem lookup_endpointKeys (t : Table (IpEndpoint IpAddressV4) NetworkProcess)
    (endpoint : IpEndpoint IpAddressV4) :
    lookup endpointKeys t endpoint =
      (t.find endpoint).or (t.find { endpoint with ip := default }) := by
  cases hfind : t.find endpoint with
  | some process => simp [lookup, endpointKeys, Keys.orElse, hfind]
  | none =>
    cases hany : t.find { endpoint with ip := default } with
    | some process => simp [lookup, endpointKeys, Keys.orElse, hfind, hany]
    | none => simp [lookup, endpointKeys, Keys.orElse, hfind, hany]

/-- What the packet filter does about a session is a look-up in the cache. -/
theorem ownerOfTcp_eq (reported : Table (IpSession IpAddressV4) NetworkProcess)
    (session : IpSession IpAddressV4) (l : ProcessLookup IpAddressV4) :
    l.ownerOfTcp reported session =
      let found := SnapshotCache.get sessionKeys ProcessLookup.defaultProcess reported session
        l.tcpToApp
      (found.1, { l with tcpToApp := found.2 }) := by
  dsimp only
  rw [SnapshotCache.get, lookup_sessionKeys, lookup_sessionKeys]
  cases hold : l.tcpToApp.find session with
  | some process => exact ProcessLookup.ownerOfTcp_known hold
  | none =>
    cases hnew : reported.find session with
    | some process => exact ProcessLookup.ownerOfTcp_reported hold hnew
    | none =>
      simp [ProcessLookup.ownerOfTcp, ProcessLookup.lookupProcessForTcp, hold,
        ProcessLookup.initializeTcpTable, ProcessLookup.lookupProcessForTcpOrDefault, hnew]

/-- What the packet filter does about an endpoint is a look-up in the cache. -/
theorem ownerOfUdp_eq (reported : Table (IpEndpoint IpAddressV4) NetworkProcess)
    (endpoint : IpEndpoint IpAddressV4) (l : ProcessLookup IpAddressV4) :
    l.ownerOfUdp reported endpoint =
      let found := SnapshotCache.get endpointKeys ProcessLookup.defaultProcess reported endpoint
        l.udpToApp
      (found.1, { l with udpToApp := found.2 }) := by
  dsimp only
  have hlookup : ∀ l : ProcessLookup IpAddressV4, l.lookupProcessForUdp endpoint =
      lookup endpointKeys l.udpToApp endpoint := by
    intro l
    rw [lookup_endpointKeys, ProcessLookup.lookupProcessForUdp]
    cases l.udpToApp.find endpoint with
    | some process => rfl
    | none => rfl
  have hnewTable : (l.initializeUdpTable reported).udpToApp = reported := rfl
  rw [SnapshotCache.get, ProcessLookup.ownerOfUdp, hlookup]
  cases lookup endpointKeys l.udpToApp endpoint with
  | some process => rfl
  | none =>
    rw [ProcessLookup.lookupProcessForUdpOrDefault, hlookup, hnewTable]
    cases lookup endpointKeys reported endpoint with
    | some process => rfl
    | none => rfl

/-- The snapshots answer a session with its owner. -/
theorem answer_tcp (session : IpSession IpAddressV4) (v : OwnerView) :
    v.tcp.answer ProcessLookup.defaultProcess session = v.ownerOfTcp session := by
  rw [Snapshot.answer, lookup_sessionKeys, ownerOfTcp]

/-- The snapshots answer an endpoint with its owner. -/
theorem answer_udp (endpoint : IpEndpoint IpAddressV4) (v : OwnerView) :
    v.udp.answer ProcessLookup.defaultProcess endpoint = v.ownerOfUdp endpoint := by
  rw [Snapshot.answer, lookup_endpointKeys, ownerOfUdp]

/-- A look-up of a session in the tables is one in the snapshots. -/
theorem ownerOfTcp_processLookup (o : Observation) (session : IpSession IpAddressV4)
    (v : OwnerView) : v.processLookup.ownerOfTcp o.tcpTable session =
      ((v.lookUpTcp o session).ownerOfTcp session, (v.lookUpTcp o session).processLookup) := by
  rw [ownerOfTcp_eq, processLookup, get_table, ← answer_tcp]
  rfl

/-- A look-up of an endpoint in the tables is one in the snapshots. -/
theorem ownerOfUdp_processLookup (o : Observation) (endpoint : IpEndpoint IpAddressV4)
    (v : OwnerView) : v.processLookup.ownerOfUdp o.udpTable endpoint =
      ((v.lookUpUdp o endpoint).ownerOfUdp endpoint, (v.lookUpUdp o endpoint).processLookup) := by
  rw [ownerOfUdp_eq, processLookup, get_table, ← answer_udp]
  rfl

theorem processLookup_ofTables (l : ProcessLookup IpAddressV4) :
    (ofTables l).processLookup = l := rfl

end OwnerView

namespace SocksLocalRouter

variable {api : CNdisApi} {s : SocksLocalRouter} {v : OwnerView}

/-! ## One event -/

theorem processLookup_recordSyn (packet : IntermediateBuffer) (s : SocksLocalRouter) :
    (s.recordSyn packet).processLookup = s.processLookup := by
  unfold recordSyn
  split <;> rfl

theorem processLookup_tcpClientToServer (now : TimePoint) (port : UInt16)
    (packet : IntermediateBuffer) (s : SocksLocalRouter) :
    (s.tcpClientToServer api now port packet).2.2.processLookup = s.processLookup := by
  rw [tcpClientToServer_eq rfl]

theorem processLookup_tcpServerToClient (now : TimePoint) (packet : IntermediateBuffer)
    (s : SocksLocalRouter) :
    (s.tcpServerToClient api now packet).2.2.processLookup = s.processLookup := by
  rw [tcpServerToClient_eq rfl]

theorem processLookup_udpClientToServer (now : TimePoint) (port : UInt16)
    (packet : IntermediateBuffer) (s : SocksLocalRouter) :
    (s.udpClientToServer api now port packet).2.2.processLookup = s.processLookup := by
  rw [udpClientToServer_eq rfl]

theorem processLookup_udpServerToClient (now : TimePoint) (packet : IntermediateBuffer)
    (s : SocksLocalRouter) :
    (s.udpServerToClient api now packet).2.2.processLookup = s.processLookup := by
  rw [udpServerToClient_eq rfl]

/-- The callback looks up the owner of a TCP packet, and touches the tables of owners nowhere
else. -/
theorem processLookup_callback_tcp {packet : IntermediateBuffer} (o : Observation)
    (hip : packet.IsIpv4 ipprotoTcp) : (s.callback api o packet).2.2.processLookup =
      (s.processLookup.ownerOfTcp o.tcpTable (tcpSession packet)).2 := by
  cases hport : s.tcpPortFor o packet with
  | some port =>
    rw [callback_tcp_matched hip hport, processLookup_tcpClientToServer, processLookup_recordSyn]
    rfl
  | none =>
    cases hproxy : s.isTcpProxyPort (ntohs packet.thSport) with
    | true =>
      rw [callback_tcp_proxy hip hport hproxy, processLookup_tcpServerToClient]
      rfl
    | false =>
      rw [callback_tcp_other hip hport hproxy]
      rfl

/-- The callback looks up the owner of a UDP packet, and touches the tables of owners nowhere
else. -/
theorem processLookup_callback_udp {packet : IntermediateBuffer} (o : Observation)
    (hip : packet.IsIpv4 ipprotoUdp) (hmulti : packet.isMulticast = false) :
    (s.callback api o packet).2.2.processLookup =
      (s.processLookup.ownerOfUdp o.udpTable (udpEndpoint packet)).2 := by
  cases hport : s.udpPortFor o packet with
  | some port =>
    rw [callback_udp_matched hip hmulti hport, processLookup_udpClientToServer]
    rfl
  | none =>
    cases hproxy : s.isUdpProxyPort (ntohs packet.thSport) with
    | true =>
      rw [callback_udp_proxy hip hmulti hport hproxy, processLookup_udpServerToClient]
      rfl
    | false =>
      rw [callback_udp_other hip hmulti hport hproxy]
      rfl

/-- An event does to the tables what it does to the snapshots. -/
theorem processLookup_after (h : s.processLookup = v.processLookup) (e : Event) :
    (s.after api e).processLookup = (v.after e).processLookup := by
  cases e with
  | packet o packet =>
    change (s.callback api o packet).2.2.processLookup = _
    by_cases htcp : packet.IsIpv4 ipprotoTcp
    · rw [processLookup_callback_tcp o htcp, h, OwnerView.ownerOfTcp_processLookup]
      simp only [OwnerView.after, if_pos htcp]
    by_cases hudp : packet.IsIpv4 ipprotoUdp
    · cases hmulti : packet.isMulticast with
      | true =>
        rw [callback_udp_multicast hudp hmulti, h]
        simp only [OwnerView.after, if_neg htcp, hmulti, Bool.true_eq_false, and_false, if_false]
      | false =>
        rw [processLookup_callback_udp o hudp hmulti, h, OwnerView.ownerOfUdp_processLookup]
        simp only [OwnerView.after, if_neg htcp, if_pos (And.intro hudp hmulti)]
    · rw [callback_other htcp hudp, h]
      simp only [OwnerView.after, if_neg htcp, hudp, false_and, if_false]
  | queryTcp u address port =>
    refine Eq.trans ?_ h
    change (s.queryRemotePeerTcp u address port).2.processLookup = _
    unfold queryRemotePeerTcp
    split <;> rfl
  | queryUdp u address port =>
    refine Eq.trans ?_ h
    change (s.queryRemotePeerUdp u address port).2.processLookup = _
    unfold queryRemotePeerUdp
    split <;> rfl
  | cleanupTcp now => exact h
  | cleanupUdp now => exact h
  | configure proxyServers proxyToFilters => exact h

/-! ## Runs -/

/-- An event keeps the reports, or takes one that its packet's handling observed. -/
theorem reported_after (v : OwnerView) (e : Event) :
    ((v.after e).tcp.reported = v.tcp.reported ∨
      ∃ o packet, e = .packet o packet ∧ (v.after e).tcp.reported = o.tcpTable) ∧
    ((v.after e).udp.reported = v.udp.reported ∨
      ∃ o packet, e = .packet o packet ∧ (v.after e).udp.reported = o.udpTable) := by
  cases e with
  | packet o packet =>
    unfold OwnerView.after
    dsimp only
    split
    · refine ⟨?_, Or.inl rfl⟩
      rcases reported_next o.tcpTable (tcpSession packet) v.tcp with h | h
      · exact Or.inl h
      · exact Or.inr ⟨o, packet, rfl, h⟩
    · split
      · refine ⟨Or.inl rfl, ?_⟩
        rcases reported_next o.udpTable (udpEndpoint packet) v.udp with h | h
        · exact Or.inl h
        · exact Or.inr ⟨o, packet, rfl, h⟩
      · exact ⟨Or.inl rfl, Or.inl rfl⟩
  | _ => exact ⟨Or.inl rfl, Or.inl rfl⟩

/-- A run does to the tables what it does to the snapshots. -/
theorem processLookup_run (api : CNdisApi) (events : List Event) {s : SocksLocalRouter}
    {v : OwnerView} (h : s.processLookup = v.processLookup) :
    (events.foldl (after api) s).processLookup =
      (events.foldl OwnerView.after v).processLookup := by
  induction events generalizing s v with
  | nil => exact h
  | cons e rest ih => exact ih (processLookup_after h e)

/-- The reports of the snapshots are the first ones or were observed in the run. -/
theorem reported_run (events : List Event) (v : OwnerView) :
    ((events.foldl OwnerView.after v).tcp.reported = v.tcp.reported ∨
      ∃ o packet, .packet o packet ∈ events ∧
        (events.foldl OwnerView.after v).tcp.reported = o.tcpTable) ∧
    ((events.foldl OwnerView.after v).udp.reported = v.udp.reported ∨
      ∃ o packet, .packet o packet ∈ events ∧
        (events.foldl OwnerView.after v).udp.reported = o.udpTable) := by
  induction events using List.reverseRecOn with
  | nil => exact ⟨Or.inl rfl, Or.inl rfl⟩
  | append_singleton events e ih =>
    rw [List.foldl_append, List.foldl_cons, List.foldl_nil]
    obtain ⟨htcp, hudp⟩ := reported_after (events.foldl OwnerView.after v) e
    refine ⟨?_, ?_⟩
    · rcases htcp with hsame | ⟨o, packet, rfl, hnew⟩
      · rw [hsame]
        refine ih.1.imp_right ?_
        rintro ⟨o, packet, hmem, h⟩
        exact ⟨o, packet, List.mem_append_left _ hmem, h⟩
      · exact Or.inr ⟨o, packet, List.mem_concat_self, hnew⟩
    · rcases hudp with hsame | ⟨o, packet, rfl, hnew⟩
      · rw [hsame]
        refine ih.2.imp_right ?_
        rintro ⟨o, packet, hmem, h⟩
        exact ⟨o, packet, List.mem_append_left _ hmem, h⟩
      · exact Or.inr ⟨o, packet, List.mem_concat_self, hnew⟩

/-- After every run, the proxy port of a packet is that of the owner which one report names: the one
there was before the run, or one read while a packet of the run was handled. It is read anew for a
packet whose owner the last one does not name, unless that was found out since. -/
theorem owners_of_run (events : List Event) (s : SocksLocalRouter) :
    ∃ v : OwnerView, (events.foldl (after api) s).processLookup = v.processLookup ∧
      (v.tcp.reported = s.processLookup.tcpToApp ∨ ∃ o packet, .packet o packet ∈ events ∧
        v.tcp.reported = o.tcpTable) ∧
      (v.udp.reported = s.processLookup.udpToApp ∨ ∃ o packet, .packet o packet ∈ events ∧
        v.udp.reported = o.udpTable) ∧
      ∀ o packet,
        (events.foldl (after api) s).tcpPortFor o packet =
            (events.foldl (after api) s).getProxyPortTcp
              ((v.lookUpTcp o (tcpSession packet)).ownerOfTcp (tcpSession packet)) ∧
          (events.foldl (after api) s).udpPortFor o packet =
            (events.foldl (after api) s).getProxyPortUdp
              ((v.lookUpUdp o (udpEndpoint packet)).ownerOfUdp (udpEndpoint packet)) ∧
          (¬ v.tcp.Knows (tcpSession packet) →
            (v.lookUpTcp o (tcpSession packet)).tcp.reported = o.tcpTable) ∧
          (¬ v.udp.Knows (udpEndpoint packet) →
            (v.lookUpUdp o (udpEndpoint packet)).udp.reported = o.udpTable) := by
  have hrun := processLookup_run api events (OwnerView.processLookup_ofTables s.processLookup).symm
  obtain ⟨htcp, hudp⟩ := reported_run events (OwnerView.ofTables s.processLookup)
  refine ⟨_, hrun, htcp, hudp, fun o packet => ⟨?_, ?_, fun hnot => ?_, fun hnot => ?_⟩⟩
  · rw [tcpPortFor, hrun, OwnerView.ownerOfTcp_processLookup]
  · rw [udpPortFor, hrun, OwnerView.ownerOfUdp_processLookup]
  · rw [OwnerView.lookUpTcp, Snapshot.next, if_neg hnot, reported_refill]
  · rw [OwnerView.lookUpUdp, Snapshot.next, if_neg hnot, reported_refill]

end SocksLocalRouter

end CutieProxy
