import CutieProxy.Ndisapi.UdpTranslation
import CutieProxy.Proxy.UdpRelayBytes

/-!
# From a client to the upstream server and back

A datagram of a client is redirected to the socket of the local server
(`socks5_udp_local_redirect`), which forwards it through a proxy socket to the upstream server; what
the upstream server sends to a proxy socket goes out to the client as a frame of the local server,
and is translated back on its way. `UdpTunnel` composes the two: the system delivers what it is
given at some time, in any order, or never, and others may send to the socket of the local server.

What the upstream server gets are the clients' datagrams, each once at most, with a header that
names their destination; what a client gets comes from the source that the header named
(`UdpTunnel.tunnels`).
-/

namespace CutieProxy

open Transition Socks5UdpLocalRedirect

/-- A frame that was translated back. -/
structure RestoredFrame where
  /-- The proxy socket whose datagram it was. -/
  proxySocket : Nat
  /-- The datagram of the upstream server that the frame of the local server carried. -/
  datagram : List UInt8
  /-- What the client gets. -/
  frame : IntermediateBuffer

/-- The UDP path through the redirection and the local server. -/
structure UdpTunnel where
  redirect : Socks5UdpLocalRedirect
  relay : UdpRelay
  /-- The datagrams on their way to the socket of the local server. -/
  waiting : Multiset UdpMessage := 0
  /-- The clients' datagrams that were redirected. -/
  redirected : Multiset IntermediateBuffer := 0
  /-- What others sent to the socket of the local server. -/
  others : Multiset UdpMessage := 0
  /-- The frames that were translated back. -/
  restored : List RestoredFrame := []

namespace UdpTunnel

/-- What a socket receives of a frame. -/
def message (q : IntermediateBuffer) : UdpMessage := ⟨⟨q.ipSrc, ntohs q.thSport, none⟩, q.payload⟩

/-- The frame carries a datagram to an address. -/
structure Carries (f : IntermediateBuffer) (address : IpEndpoint IpAddressV4) (bytes : List UInt8) :
    Prop where
  isUdp : f.IsUdp
  consistent : f.Consistent
  destination : f.destination = ⟨address.ip, htons address.port, none⟩
  payload : f.payload = bytes

/-- What happens on the path. -/
inductive Event where
  /-- A frame of a client is redirected, or goes on as it is. -/
  | client (now : TimePoint) (p : IntermediateBuffer)
  /-- Someone else sends to the socket of the local server. -/
  | other (m : UdpMessage)
  /-- The system drops a datagram. -/
  | lose (m : UdpMessage)
  /-- The system delivers a datagram to the local server. -/
  | arrives (m : UdpMessage)
  /-- Another step of the local server. -/
  | relay (e : UdpRelay.Event)
  /-- A frame of a proxy socket is translated back, or goes on as it is. -/
  | reply (now : TimePoint) (f : IntermediateBuffer)
  | cleanup (now : TimePoint)

/-- One step, with the port of the local server in host order. -/
inductive Step (api : CNdisApi) (port : UInt16) : UdpTunnel → Event → UdpTunnel → Prop
  | client {s : UdpTunnel} {revert : Bool} {q : IntermediateBuffer} {r : Socks5UdpLocalRedirect}
      (now : TimePoint) (p : IntermediateBuffer) :
      processClientToServerPacket api now p (htons port) (isNewEndpoint now p s.redirect).2 =
        (revert, q, r) →
      Step api port s (.client now p)
        { s with
          redirect := r
          waiting := if revert then message q ::ₘ s.waiting else s.waiting
          redirected := if revert then p ::ₘ s.redirected else s.redirected }
  | other {s : UdpTunnel} (m : UdpMessage) :
      Step api port s (.other m) { s with waiting := m ::ₘ s.waiting, others := m ::ₘ s.others }
  | lose {s : UdpTunnel} {m : UdpMessage} {rest : Multiset UdpMessage} : s.waiting = m ::ₘ rest →
      Step api port s (.lose m) { s with waiting := rest }
  | arrives {s : UdpTunnel} {m : UdpMessage} {rest : Multiset UdpMessage} {u : UdpRelay} :
      s.waiting = m ::ₘ rest → UdpRelay.Step s.relay (.serverRead m.peer m.bytes true) u →
      Step api port s (.arrives m) { s with waiting := rest, relay := u }
  | relay {s : UdpTunnel} {e : UdpRelay.Event} {u : UdpRelay} :
      (∀ source bytes, e ≠ .serverRead source bytes true) → UdpRelay.Step s.relay e u →
      Step api port s (.relay e) { s with relay := u }
  | reply {s : UdpTunnel} {x : UdpSend} {bytes : List UInt8} {revert : Bool}
      {f out : IntermediateBuffer} {r : Socks5UdpLocalRedirect} (now : TimePoint) :
      x ∈ s.relay.server.sends →
      x.isLocal = true → s.relay.carried x = some bytes →
      Carries f (s.relay.localAddressSa x.proxySocket) bytes →
      processServerToClientPacket api now f s.redirect = (revert, out, r) →
      Step api port s (.reply now f)
        { s with
          redirect := r
          restored :=
            if revert then s.restored ++ [⟨x.proxySocket, bytes, out⟩] else s.restored }
  | cleanup {s : UdpTunnel} (now : TimePoint) :
      Step api port s (.cleanup now) { s with redirect := s.redirect.cleanup now }

/-- The runs of a local server that was started, with any entries of clients. -/
def system (api : CNdisApi) (port : UInt16) : System UdpTunnel Event where
  init s := UdpRelay.system.init s.relay ∧ s.waiting = 0 ∧ s.redirected = 0 ∧ s.others = 0 ∧
    s.restored = []
  step := Step api port

/-- Frames of clients hold a whole datagram and leave room for the header. -/
def LeavesRoom (api : CNdisApi) (_ : UdpTunnel) : Event → Prop
  | .client _ p => p.IsUdp ∧ p.Consistent ∧
    p.mLength.toNat + socks5UdpHeaderSize ≤ api.maxEtherFrame.toNat
  | _ => True

/-- What the upstream server is to get of a client's frame, and the port of the client. -/
def encapsulated (p : IntermediateBuffer) : UInt16 × List UInt8 :=
  (ntohs p.thSport, socks5UdpHeader p.ipDst p.thDport ++ p.payload)

/-- A datagram with the port it comes from. -/
def byPort (m : UdpMessage) : UInt16 × List UInt8 := (m.peer.port, m.bytes)

variable {api : CNdisApi} {port : UInt16} {s u : UdpTunnel} {e : Event} {now : TimePoint}
  {p q f out : IntermediateBuffer} {r r' : Socks5UdpLocalRedirect} {bytes : List UInt8}

/-! ## The two translations -/

/-- What the local server receives of a client's frame. -/
theorem message_of_reverted (hapi : api.Recalculates) (hmax : api.maxEtherFrame.toNat < 2 ^ 16)
    (hudp : p.IsUdp) (hp : p.Consistent)
    (hroom : p.mLength.toNat + socks5UdpHeaderSize ≤ api.maxEtherFrame.toNat)
    (hprocess : processClientToServerPacket api now p port r = (true, q, r')) :
    message q = ⟨⟨p.ipDst, ntohs p.thSport, none⟩, (encapsulated p).2⟩ := by
  rcases processClientToServerPacket_cases api now p port r with heq | ⟨hip, hfrag, t, hfind⟩
  · rw [heq] at hprocess
    cases hprocess
  · rw [processClientToServerPacket_known hip hfrag hfind] at hprocess
    obtain rfl := (Prod.mk.inj (Prod.mk.inj hprocess).2).1
    have hq : Encapsulated _ p (redirectPacket api (if port = 0 then r.proxyPort else port) p) :=
      redirectPacket_encapsulated hapi hudp.header hp hroom hmax
    obtain ⟨hsrc, hsport⟩ := IntermediateBuffer.source_eq_iff.mp hq.source
    rw [message, encapsulated, hq.payload, hsrc, hsport]

theorem entered_of_reverted
    (hprocess : processServerToClientPacket api now f r = (true, out, r')) :
    f.isFragmented = false ∧ (r.endpoints.find f.thDport).isSome = true := by
  cases hfrag : f.isFragmented with
  | true =>
    rw [processServerToClientPacket_fragment hfrag] at hprocess
    cases hprocess
  | false =>
    cases hfind : r.endpoints.find f.thDport with
    | none =>
      rw [processServerToClientPacket_unknown hfind] at hprocess
      cases hprocess
    | some t => exact ⟨rfl, rfl⟩

/-- What a client gets of a frame of the local server whose payload has the bytes of a header. -/
theorem restored_eq (hapi : api.Recalculates) {address : IpEndpoint IpAddressV4}
    (hf : Carries f address bytes)
    (hprocess : processServerToClientPacket api now f r = (true, out, r')) {first d : List UInt8}
    {c : IpAddressV4} {z : UInt16} (hfirst : first.length = 4)
    (hbytes : bytes = first ++ c.toBytes ++ leBytes z ++ d) :
    out.source = ⟨c, z, none⟩ ∧ ntohs out.thDport = address.port ∧ out.payload = d := by
  obtain ⟨hfrag, hknown⟩ := entered_of_reverted hprocess
  obtain ⟨t, hfind⟩ := Option.isSome_iff_exists.mp hknown
  rw [processServerToClientPacket_known hf.isUdp.ip hfrag hfind] at hprocess
  obtain rfl := (Prod.mk.inj (Prod.mk.inj hprocess).2).1
  have hheader := hf.isUdp.header
  have hpacket := hf.consistent.packet
  have hsize : socks5UdpHeaderSize = 10 := rfl
  have hout := restorePacket_read hapi hheader (by omega) hfirst (hf.payload.trans hbytes)
  have hdport := (IntermediateBuffer.destination_eq_iff.mp hf.destination).2
  have hport := (IntermediateBuffer.destination_eq_iff.mp hout.destination).2
  rw [hport, hdport, ntohs_htons]
  exact ⟨hout.source, rfl, hout.payload⟩

/-! ## The invariant -/

/-- What was translated back is a datagram that the proxy socket received; one that is not shorter
than a header comes without its first ten bytes, from the address in the fifth to the eighth and the
port in the ninth and tenth of them, to the port of the proxy socket. -/
structure Restores (relay : UdpRelay) (x : RestoredFrame) : Prop where
  created : x.proxySocket < relay.server.socketCount
  received : x.datagram ∈ relay.received x.proxySocket
  translated : ∀ first c z d, first.length = 4 →
    x.datagram = first ++ IpAddressV4.toBytes c ++ leBytes z ++ d →
      x.frame.source = ⟨c, z, none⟩ ∧ x.frame.payload = d ∧
        ntohs x.frame.thDport = (relay.server.socket x.proxySocket).localPort

/-- What holds between the steps. -/
structure Inv (s : UdpTunnel) : Prop where
  relay : s.relay.Inv
  sent : s.waiting.map byPort + ↑s.relay.arrivals ≤
    s.redirected.map encapsulated + s.others.map byPort
  restored : ∀ x ∈ s.restored, Restores s.relay x

/-- The local server takes a step. -/
theorem Inv.relayStep (h : s.Inv) {u : UdpRelay} {rest : Multiset UdpMessage} {e : UdpRelay.Event}
    (hstep : UdpRelay.Step s.relay e u)
    (hsent : rest.map byPort + ↑u.arrivals ≤ s.waiting.map byPort + ↑s.relay.arrivals) :
    Inv { s with waiting := rest, relay := u } := by
  obtain ⟨hreceived, hcount, hport, -⟩ := h.relay.keeps_step hstep
  refine ⟨h.relay.step hstep, hsent.trans h.sent, fun x hx => ?_⟩
  obtain ⟨hk, hbytes, hout⟩ := h.restored x hx
  refine ⟨hk.trans_le hcount, (hreceived _).subset hbytes, ?_⟩
  rw [hport _ hk]
  exact hout

theorem Inv.step (hapi : api.Recalculates) (hmax : api.maxEtherFrame.toNat < 2 ^ 16) (h : s.Inv)
    (hroom : LeavesRoom api s e) (hstep : Step api port s e u) : u.Inv := by
  cases hstep with
  | @client revert q r now p hprocess =>
    refine ⟨h.relay, ?_, h.restored⟩
    cases revert with
    | false => exact h.sent
    | true =>
      obtain ⟨hudp, hp, hlength⟩ := hroom
      have hmessage : byPort (message q) = encapsulated p :=
        congrArg byPort (message_of_reverted hapi hmax hudp hp hlength hprocess)
      simp only [if_true, Multiset.map_cons, hmessage, Multiset.cons_add]
      exact Multiset.cons_le_cons _ h.sent
  | other m =>
    refine ⟨h.relay, ?_, h.restored⟩
    simp only [Multiset.map_cons, Multiset.cons_add, Multiset.add_cons]
    exact Multiset.cons_le_cons _ h.sent
  | lose hwaiting =>
    refine ⟨h.relay, le_trans ?_ h.sent, h.restored⟩
    rw [hwaiting, Multiset.map_cons, Multiset.cons_add]
    exact Multiset.le_cons_self _ _
  | @arrives m rest relay hwaiting hstep =>
    refine h.relayStep hstep ?_
    have harrivals : relay.arrivals = s.relay.arrivals ++ [byPort m] :=
      (h.relay.keeps_step hstep).2.2.2
    rw [harrivals, hwaiting, Multiset.map_cons, ← Multiset.coe_add,
      ← Multiset.add_assoc, Multiset.add_comm, Multiset.cons_add]
    exact le_of_eq (Multiset.singleton_add _ _)
  | @relay e relay hother hstep =>
    refine h.relayStep hstep ?_
    have hnone : e.arrival = [] := by
      cases e with
      | serverRead source bytes status =>
        cases status with
        | false => rfl
        | true => exact absurd rfl (hother source bytes)
      | _ => rfl
    rw [(h.relay.keeps_step hstep).2.2.2, hnone, List.append_nil]
  | @reply x bytes revert f out r now hx hlocal hcarried hf hprocess =>
    refine ⟨h.relay, h.sent, ?_⟩
    cases revert with
    | false => exact h.restored
    | true =>
      intro y hy
      rcases List.mem_append.mp hy with hy | hy
      · exact h.restored y hy
      · obtain rfl := List.mem_singleton.mp hy
        obtain ⟨hk, -⟩ := h.relay.sources x hx (by
          rw [UdpRelay.carried] at hcarried
          cases hpacket : x.packet with
          | none => simp [hpacket] at hcarried
          | some p => rfl)
        have hmem : bytes ∈ s.relay.downstream x.proxySocket := by
          refine List.mem_filterMap.mpr ⟨x, hx, ?_⟩
          rw [UdpRelay.toClient, if_pos ⟨hlocal, rfl⟩, hcarried]
        refine ⟨hk, (h.relay.downstream _).subset hmem, fun first c z d hfirst hbytes => ?_⟩
        obtain ⟨hsource, hport, hpayload⟩ := restored_eq hapi hf hprocess hfirst hbytes
        exact ⟨hsource, hpayload, hport.trans (h.relay.addresses _ hk).1⟩
  | cleanup now => exact ⟨h.relay, h.sent, h.restored⟩

/-- In every run whose clients send whole datagrams that leave room for the header: what went to the
upstream server is, each once at most, a client's datagram behind a header with its destination, or
what someone else sent to the socket; and a frame that was translated back is a datagram that its
proxy socket received, without its header and from the source the header named (`Restores`), to the
port of the proxy socket, through which only datagrams from that port went. -/
theorem tunnels (hapi : api.Recalculates) (hmax : api.maxEtherFrame.toNat < 2 ^ 16)
    (h : ((system api port).restrict (LeavesRoom api)).Reachable s) :
    ↑s.relay.upstream ≤ s.redirected.map encapsulated + s.others.map byPort ∧
      (∀ x ∈ s.restored, Restores s.relay x) ∧
      ∀ x ∈ s.relay.server.sends, x.packet.isSome = true → x.isLocal = false →
        (s.relay.server.socket x.proxySocket).localPort = x.source := by
  have hinv : s.Inv := h.restrict_invariant
    (fun s hs => by
      obtain ⟨hrelay, hwaiting, -, -, hrestored⟩ := hs
      refine ⟨UdpRelay.Inv.init hrelay, ?_, ?_⟩
      · rw [hwaiting, UdpRelay.arrivals, hrelay.2.1]
        exact Multiset.zero_le _
      · rw [hrestored]
        simp)
    fun _ _ _ hs hroom hstep => hs.step hapi hmax hroom hstep
  refine ⟨le_trans ?_ hinv.sent, hinv.restored,
    fun x hx hpacket => (hinv.relay.sources x hx hpacket).2⟩
  refine le_trans (Multiset.coe_le.mpr hinv.relay.upstream.subperm) ?_
  exact Multiset.le_add_left _ _

open Dns in
/-- A query reaches the upstream server behind a header, and its answer the client without one. -/
theorem tunnels_dns : ∃ s x,
    ((system .internet 1080).restrict (LeavesRoom .internet)).Reachable s ∧
      s.relay.upstream = [(5000, [0, 0, 0, 1, 10, 0, 0, 2, 0, 53, 1, 2, 3])] ∧
      ↑s.relay.upstream ≤ s.redirected.map encapsulated + s.others.map byPort ∧
      s.restored = [x] ∧ x.frame.source = ⟨⟨10, 0, 0, 2⟩, htons 53, none⟩ ∧
      x.frame.payload = [1, 2, 3] ∧ ntohs x.frame.thDport = 5000 := by
  have hinit : ((system .internet 1080).restrict (LeavesRoom .internet)).Reachable
      { redirect := {}
        relay := ⟨{ pending := {.serverRead} }, ⟨⟨0, 0, 0, 0⟩, 0, none⟩, [], fun _ => [],
          fun _ => ⟨⟨0, 0, 0, 0⟩, 0, none⟩, fun _ => [], [], fun _ => []⟩ } :=
    System.Reachable.init ⟨⟨rfl, rfl, fun _ => rfl⟩, rfl, rfl, rfl, rfl⟩
  have hudp : query.IsUdp := IntermediateBuffer.udpFrame_isUdp ..
  have hprocess : processClientToServerPacket .internet 0 query (htons 1080)
      (isNewEndpoint 0 query {}).2 = _ :=
    processClientToServerPacket_known hudp.ip (by decide) (show _ = some 0 by decide)
  have hquery := message_of_reverted CNdisApi.internet_recalculates (by decide) hudp
    query_consistent (by decide) hprocess
  have hsource : (⟨query.ipDst, ntohs query.thSport, none⟩ : IpEndpoint IpAddressV4) =
      ⟨⟨10, 0, 0, 2⟩, 5000, none⟩ := by decide
  have hbytes : (encapsulated query).2 = [0, 0, 0, 1, 10, 0, 0, 2, 0, 53, 1, 2, 3] := by decide
  rw [hsource, hbytes] at hquery
  have hclient := hinit.restrict_snoc (Step.client 0 query hprocess)
    ⟨hudp, query_consistent, by decide⟩
  rw [hquery] at hclient
  have harrives := hclient.restrict_snoc (@Step.arrives .internet 1080 _ _ 0 _ rfl
    (UdpRelay.Step.serverRead _ _ true (@Socks5LocalUdpProxyServer.Step.complete _
      (.serverRead 5000 13 true) 0 rfl nofun))) trivial
  have hcall := harrives.restrict_snoc (@Step.relay .internet 1080 _ _ _ (by simp)
    (UdpRelay.Step.callback ⟨0, true, true, true, true, true, true⟩ _
      (@Socks5LocalUdpProxyServer.Step.callback _ (.serverRead 5000 13 true) 0 _ rfl rfl))) trivial
  -- the upstream server echoes the query
  have hanswer := hcall.restrict_snoc (@Step.relay .internet 1080 _ _ _ (by simp)
    (UdpRelay.Step.remoteRead 0 [0, 0, 0, 1, 10, 0, 0, 2, 0, 53, 1, 2, 3] true
      (@Socks5LocalUdpProxyServer.Step.complete _ (.remoteRead 0 13 true) {.serverRead, .send 0}
        (by decide) (fun hclosed => Bool.noConfusion (show true = false from hclosed))))) trivial
  have hback := hanswer.restrict_snoc (@Step.relay .internet 1080 _ _ _ (by simp)
    (UdpRelay.Step.callback ⟨0, true, true, true, true, true, true⟩ _
      (@Socks5LocalUdpProxyServer.Step.callback _ (.remoteRead 0 13 true) 0 _ rfl rfl))) trivial
  have hecho : echo.IsUdp := IntermediateBuffer.udpFrame_isUdp ..
  have hcarries : Carries echo ⟨⟨10, 0, 0, 2⟩, 5000, none⟩
      [0, 0, 0, 1, 10, 0, 0, 2, 0, 53, 1, 2, 3] :=
    ⟨hecho, echo_consistent, by decide, by decide⟩
  have hrestore := @processServerToClientPacket_known .internet 0 0 echo
    { (isNewEndpoint 0 query {}).2 with
      endpoints := (isNewEndpoint 0 query {}).2.endpoints.insert query.thSport 0 }
    hecho.ip (by decide) (by decide)
  have hreply := hback.restrict_snoc (@Step.reply .internet 1080 _ _ _ _ _ _ _ 0
    (List.mem_cons_of_mem _ List.mem_cons_self) rfl rfl hcarries hrestore) trivial
  obtain ⟨hup, hrestored, -⟩ := tunnels CNdisApi.internet_recalculates (by decide) hreply
  obtain ⟨hfrom, hpayload, hto⟩ := (hrestored _ (List.mem_singleton_self _)).translated
    [0, 0, 0, 1] ⟨10, 0, 0, 2⟩ (htons 53) [1, 2, 3] rfl rfl
  exact ⟨_, _, hreply, rfl, hup, rfl, hfrom, hpayload, hto⟩

end UdpTunnel

end CutieProxy
