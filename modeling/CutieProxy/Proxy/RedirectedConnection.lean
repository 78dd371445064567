import CutieProxy.Proxy.RouterReplies

/-!
# How long a connection stays redirected

A connection whose SYN was redirected has an entry under its destination address and its local port.
`connection_stays_redirected` says what the entry is good for: until a FIN or RST of the connection
in either direction, or a clean-up pass that finds the entry idle for more than five minutes, the
client's packets go to the local proxy and the proxy's packets come back as the server's. The SYN
itself is redirected once only. After the first FIN of either side the entry is gone, whatever the
other side still has to say (`connection_splits`).
-/

namespace CutieProxy

namespace SocksLocalRouter

open IntermediateBuffer Transition

section Entry

variable {api : CNdisApi} {o : Observation} {packet syn : IntermediateBuffer} {port : UInt16}
  {s t : SocksLocalRouter} {key : IpEndpoint IpAddressV4} {serverPort : UInt16}

/-- A FIN or RST the callback handles for the entry `key`: of a matched process to its server, or of
a local proxy to its client. -/
def Closes (o : Observation) (packet : IntermediateBuffer) (key : IpEndpoint IpAddressV4)
    (s : SocksLocalRouter) : Prop :=
  packet.IsIpv4 ipprotoTcp ∧ packet.isRstOrFin = true ∧
    (((s.tcpPortFor o packet).isSome = true ∧ TcpLocalRedirect.clientKey packet = key) ∨
      (s.tcpPortFor o packet = none ∧ s.isTcpProxyPort (ntohs packet.thSport) = true ∧
        TcpLocalRedirect.serverKey packet = key))

/-- The event closes the connection under `key` in neither direction, and is no clean-up pass that
finds its entry idle for more than five minutes. -/
def StaysOpen (key : IpEndpoint IpAddressV4) (s : SocksLocalRouter) : Event → Prop
  | .packet o packet => ¬ s.Closes o packet key
  | .cleanupTcp now =>
    ∀ entry, s.tcpRedirect.redirectedConnections.find key = some entry → now - entry.2 ≤ minutes 5
  | _ => True

/-- A packet that does not close a connection keeps its entry. -/
theorem serverPortOf_callback (hopen : ¬ s.Closes o packet key)
    (h : s.tcpRedirect.serverPortOf key = some serverPort) :
    (s.callback api o packet).2.2.tcpRedirect.serverPortOf key = some serverPort := by
  refine callback_cases (motive := fun result =>
    result.2.2.tcpRedirect.serverPortOf key = some serverPort) ?_ ?_ h ?_ ?_ h h
  · intro port hip hport
    have hentry : (((s.lookUpTcp o packet).recordSyn packet)).tcpRedirect.serverPortOf key =
        some serverPort := by
      rw [recordSyn_tcpRedirect]
      exact h
    exact TcpLocalRedirect.serverPortOf_clientToServer
      (fun hflags hkey => hopen ⟨hip, hflags, .inl ⟨by rw [hport]; rfl, hkey⟩⟩) hentry
  · intro hip hport hproxy
    exact TcpLocalRedirect.serverPortOf_serverToClient
      (fun hflags hkey => hopen ⟨hip, hflags, .inr ⟨hport, hproxy, hkey⟩⟩) h
  · intro port hip hmulti hport
    show ((s.lookUpUdp o packet).recordEndpoint o.now packet).tcpRedirect.serverPortOf key = _
    exact h
  · intro hip hport
    exact h

/-- An event under which a connection stays open keeps its entry. -/
theorem serverPortOf_after {e : Event} (hopen : s.StaysOpen key e)
    (h : s.tcpRedirect.serverPortOf key = some serverPort) :
    (s.after api e).tcpRedirect.serverPortOf key = some serverPort := by
  cases e with
  | packet o packet => exact serverPortOf_callback hopen h
  | queryTcp u address port =>
    show (s.queryRemotePeerTcp u address port).2.tcpRedirect.serverPortOf key = _
    rw [queryRemotePeerTcp_tcpRedirect]
    exact h
  | queryUdp u address port =>
    show (s.queryRemotePeerUdp u address port).2.tcpRedirect.serverPortOf key = _
    rw [queryRemotePeerUdp_tcpRedirect]
    exact h
  | cleanupTcp now => exact TcpLocalRedirect.serverPortOf_cleanup hopen h
  | cleanupUdp now => exact h
  | configure proxyServers proxyToFilters => exact h

/-- A redirected SYN enters its connection. -/
theorem serverPortOf_syn (hip : syn.IsIpv4 ipprotoTcp) (hsyn : syn.isSyn = true)
    (hport : s.tcpPortFor o syn = some port) (hredirected : (s.callback api o syn).1 = .revert) :
    (s.callback api o syn).2.2.tcpRedirect.serverPortOf (TcpLocalRedirect.clientKey syn) =
      some syn.thDport := by
  cases hfind : s.tcpRedirect.redirectedConnections.find (TcpLocalRedirect.clientKey syn) with
  | none =>
    rw [callback_syn hip hsyn hport hfind]
    simp [TcpLocalRedirect.serverPortOf]
  | some entry =>
    -- a second SYN is refused, so this one was not redirected
    rw [callback_syn_known hip hsyn hport hfind] at hredirected
    cases hredirected

/-- The entry of a connection stays for as long as the connection stays open. -/
theorem serverPortOf_run
    (hrun : ((system api).restrict (StaysOpen key)).Steps s t)
    (h : s.tcpRedirect.serverPortOf key = some serverPort) :
    t.tcpRedirect.serverPortOf key = some serverPort := by
  refine hrun.invariant (I := fun s => s.tcpRedirect.serverPortOf key = some serverPort) ?_ h
  rintro s e t hs ⟨hopen, rfl⟩
  exact serverPortOf_after hopen hs

/-- A later packet of the client, while there is an entry: to the local proxy. -/
theorem callback_client (hip : packet.IsIpv4 ipprotoTcp) (hsyn : packet.isSyn = false)
    (hport : s.tcpPortFor o packet = some port)
    (h : s.tcpRedirect.serverPortOf (TcpLocalRedirect.clientKey packet) = some serverPort) :
    ∃ s', s.callback api o packet =
      (.revert, TcpLocalRedirect.redirectPacket api
        (if htons port = 0 then s.tcpRedirect.proxyPort else htons port) packet, s') := by
  obtain ⟨⟨entryPort, timestamp⟩, hentry, rfl⟩ := Option.map_eq_some_iff.mp h
  exact ⟨_, callback_tcp_known hip hport hsyn hentry⟩

/-- A packet of the local proxy, while there is an entry: to the client, as the server's. -/
theorem callback_server (hip : packet.IsIpv4 ipprotoTcp) (hport : s.tcpPortFor o packet = none)
    (hproxy : s.isTcpProxyPort (ntohs packet.thSport) = true)
    (h : s.tcpRedirect.serverPortOf (TcpLocalRedirect.serverKey packet) = some serverPort) :
    ∃ s', s.callback api o packet =
      (.revert, TcpLocalRedirect.restorePacket api serverPort packet, s') := by
  obtain ⟨⟨entryPort, timestamp⟩, hentry, rfl⟩ := Option.map_eq_some_iff.mp h
  exact ⟨_, callback_tcp_proxy_known hip hport hproxy hentry⟩

/-- In every state of every run after its SYN was redirected, for as long as the connection stays
open: every packet of the client but a repeated SYN is redirected to the local proxy, and every
packet of the local proxy for the connection is translated back. -/
theorem connection_stays_redirected (hip : syn.IsIpv4 ipprotoTcp) (hsyn : syn.isSyn = true)
    (hport : s.tcpPortFor o syn = some port) (hredirected : (s.callback api o syn).1 = .revert)
    (hrun : ((system api).restrict (StaysOpen (TcpLocalRedirect.clientKey syn))).Steps
      (s.callback api o syn).2.2 t) :
    (∀ o packet port, packet.IsIpv4 ipprotoTcp →
      TcpLocalRedirect.clientKey packet = TcpLocalRedirect.clientKey syn → packet.isSyn = false →
      t.tcpPortFor o packet = some port →
      ∃ t', t.callback api o packet =
        (.revert, TcpLocalRedirect.redirectPacket api
          (if htons port = 0 then t.tcpRedirect.proxyPort else htons port) packet, t')) ∧
    (∀ o packet, packet.IsIpv4 ipprotoTcp →
      TcpLocalRedirect.serverKey packet = TcpLocalRedirect.clientKey syn →
      t.tcpPortFor o packet = none → t.isTcpProxyPort (ntohs packet.thSport) = true →
      ∃ t', t.callback api o packet =
        (.revert, TcpLocalRedirect.restorePacket api syn.thDport packet, t')) := by
  have hentry := serverPortOf_run hrun (serverPortOf_syn hip hsyn hport hredirected)
  constructor
  · intro o packet port hip hkey hsyn hport
    exact callback_client hip hsyn hport (by rw [hkey]; exact hentry)
  · intro o packet hip hkey hport hproxy
    exact callback_server hip hport hproxy (by rw [hkey]; exact hentry)

end Entry

/-! ## A run -/

namespace ReplyRun

/-- The application's last segment. -/
def fin : IntermediateBuffer := tcpFrame ⟨10, 0, 0, 1⟩ ⟨10, 0, 0, 2⟩ 5000 80 (thFin ||| thAck)

/-- The last segment of the local proxy. -/
def proxyFin : IntermediateBuffer :=
  tcpFrame ⟨10, 0, 0, 1⟩ ⟨10, 0, 0, 2⟩ 1080 5000 (thFin ||| thAck)

/-- The application's acknowledgement of what the server still sends. -/
def acknowledgement : IntermediateBuffer := tcpFrame ⟨10, 0, 0, 1⟩ ⟨10, 0, 0, 2⟩ 5000 80 thAck

/-- After the application's FIN. -/
def afterFin : SocksLocalRouter :=
  { afterSyn onlyApplication with
    tcpRedirect := (afterSyn onlyApplication).tcpRedirect.touch 0 fin ⟨⟨10, 0, 0, 2⟩, htons 5000, none⟩
      (htons 80) }

/-- After the local proxy's FIN. -/
def afterProxyFin : SocksLocalRouter :=
  { (afterSyn onlyApplication).lookUpTcp observation proxyFin with
    tcpRedirect := (afterSyn onlyApplication).tcpRedirect.touch 0 proxyFin
      ⟨⟨10, 0, 0, 2⟩, htons 5000, none⟩ (htons 80) }

/-- The table of processes knows the application's connection. -/
theorem lookUpTcp_afterSyn {packet : IntermediateBuffer}
    (h : tcpSession packet = tcpSession syn) :
    (afterSyn onlyApplication).lookUpTcp observation packet = afterSyn onlyApplication := by
  have howner : (afterSyn onlyApplication).processLookup.ownerOfTcp observation.tcpTable
      (tcpSession syn) = (application, _) := ProcessLookup.ownerOfTcp_known (by decide)
  rw [lookUpTcp, h, howner]

/-- The application's FIN is redirected and erases the entry. -/
theorem callback_application_fin :
    (afterSyn onlyApplication).callback .plain observation fin =
      (.revert, TcpLocalRedirect.redirectPacket .plain (htons 1080) fin, afterFin) := by
  have hentry : (afterSyn onlyApplication).tcpRedirect.redirectedConnections.find
      (TcpLocalRedirect.clientKey fin) = some (htons 80, 0) := by decide
  have hkey : TcpLocalRedirect.clientKey fin = ⟨⟨10, 0, 0, 2⟩, htons 5000, none⟩ := by decide
  have hport : (afterSyn onlyApplication).tcpPortFor observation fin = some 1080 := by decide
  rw [callback_tcp_known (by decide) hport (by decide) hentry, if_neg (by decide),
    lookUpTcp_afterSyn (by decide), hkey]
  rfl

/-- The local proxy's FIN is translated back and erases the entry. -/
theorem callback_proxy_fin :
    (afterSyn onlyApplication).callback .plain observation proxyFin =
      (.revert, TcpLocalRedirect.restorePacket .plain (htons 80) proxyFin, afterProxyFin) := by
  have hentry : (afterSyn onlyApplication).tcpRedirect.redirectedConnections.find
      (TcpLocalRedirect.serverKey proxyFin) = some (htons 80, 0) := by decide
  have hkey : TcpLocalRedirect.serverKey proxyFin = ⟨⟨10, 0, 0, 2⟩, htons 5000, none⟩ := by decide
  rw [callback_tcp_proxy_known (by decide) (by decide) (by decide) hentry, hkey]
  rfl

end ReplyRun

open ReplyRun in
theorem connection_stays_redirected_application :
    ∃ s, (afterSyn onlyApplication).callback .plain observation acknowledgement =
      (.revert, TcpLocalRedirect.redirectPacket .plain (htons 1080) acknowledgement, s) := by
  have hport : (configured onlyApplication).tcpPortFor observation syn = some 1080 := by decide
  have hsyn := callback_application_syn hport
  have hredirected : ((configured onlyApplication).callback .plain observation syn).1 = .revert := by
    rw [hsyn]
  have hstays := connection_stays_redirected (t := afterSyn onlyApplication) (by decide) (by decide)
    hport hredirected (by rw [hsyn]; exact System.Steps.refl _)
  exact hstays.1 observation acknowledgement 1080 (by decide) (by decide) (by decide) (by decide)

open ReplyRun in
/-- The application's SYN is redirected. Its repetition is not; nor is an acknowledgement after the
application's FIN, while the server may still send; nor one after the FIN of the local proxy, while
the application may; nor one after six idle minutes. -/
theorem connection_splits :
    (system .plain).Reachable (configured onlyApplication) ∧
    (configured onlyApplication).callback .plain observation syn =
      (.revert, TcpLocalRedirect.redirectPacket .plain (htons 1080) syn, afterSyn onlyApplication) ∧
    (∃ s, (afterSyn onlyApplication).callback .plain observation syn = (.pass, syn, s)) ∧
    (∃ s, ((afterSyn onlyApplication).after .plain (.packet observation fin)).callback .plain
      observation acknowledgement = (.pass, acknowledgement, s)) ∧
    (∃ s, ((afterSyn onlyApplication).after .plain (.packet observation proxyFin)).callback .plain
      observation acknowledgement = (.pass, acknowledgement, s)) ∧
    (∃ s, ((afterSyn onlyApplication).after .plain (.cleanupTcp (minutes 6))).callback .plain
      observation acknowledgement = (.pass, acknowledgement, s)) := by
  have hentry : (afterSyn onlyApplication).tcpRedirect.redirectedConnections.find
      (TcpLocalRedirect.clientKey syn) = some (htons 80, 0) := by decide
  have hfin : (afterSyn onlyApplication).after .plain (.packet observation fin) = afterFin :=
    congrArg (fun result => result.2.2) callback_application_fin
  have hproxyFin : (afterSyn onlyApplication).after .plain (.packet observation proxyFin) =
      afterProxyFin := congrArg (fun result => result.2.2) callback_proxy_fin
  have hport : (afterSyn onlyApplication).tcpPortFor observation syn = some 1080 := by decide
  have hfinPort : afterFin.tcpPortFor observation acknowledgement = some 1080 := by decide
  have hproxyFinPort : afterProxyFin.tcpPortFor observation acknowledgement = some 1080 := by decide
  have hidlePort : ((afterSyn onlyApplication).after .plain (.cleanupTcp (minutes 6))).tcpPortFor
      observation acknowledgement = some 1080 := by decide
  rw [hfin, hproxyFin]
  exact ⟨configured_reachable _, callback_application_syn (by decide),
    ⟨_, callback_syn_known (by decide) (by decide) hport hentry⟩,
    ⟨_, callback_tcp_unknown (by decide) hfinPort (by decide) (by decide)⟩,
    ⟨_, callback_tcp_unknown (by decide) hproxyFinPort (by decide) (by decide)⟩,
    ⟨_, callback_tcp_unknown (by decide) hidlePort (by decide) (by decide)⟩⟩

end SocksLocalRouter

end CutieProxy
