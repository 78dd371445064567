import CutieProxy.Net.FrameBytes
import CutieProxy.Proxy.RouterReplies

/-!
# Fragments in the callback

A fragment that is not the first of its packet has no transport header. The UDP redirection refuses
it, but the callback, the check for a new endpoint and the TCP redirection take the first bytes of
its payload for ports and flags. `untouched_iff_harmless` says for which fragments and states this
changes nothing.
-/

namespace CutieProxy

/-- The fragment offset of a packet is not zero. -/
def IntermediateBuffer.isLaterFragment (p : IntermediateBuffer) : Bool :=
  ntohs p.ipOff &&& 0x1FFF != 0

/-- A packet that is not the first of its fragments is a fragment. -/
theorem IntermediateBuffer.isFragmented_of_later {p : IntermediateBuffer}
    (h : p.isLaterFragment = true) : p.isFragmented = true := by
  rw [isFragmented, bne_iff_ne]
  intro hzero
  have hmask : ntohs p.ipOff &&& 0x1FFF = ntohs p.ipOff &&& ~~~ipDf &&& 0x1FFF := by
    rw [UInt16.and_assoc]
    rfl
  rw [isLaterFragment, hmask, hzero] at h
  exact absurd h (by decide)

namespace SocksLocalRouter

open IntermediateBuffer Transition

/-- The callback passes the packet as it is, and leaves the four tables as they are. -/
structure Untouched (api : CNdisApi) (o : Observation) (p : IntermediateBuffer)
    (s : SocksLocalRouter) : Prop where
  action : (s.callback api o p).1 = .pass
  packet : (s.callback api o p).2.1 = p
  tcpMapper : (s.callback api o p).2.2.tcpMapper = s.tcpMapper
  udpMapper : (s.callback api o p).2.2.udpMapper = s.udpMapper
  tcpRedirect : (s.callback api o p).2.2.tcpRedirect = s.tcpRedirect
  udpRedirect : (s.callback api o p).2.2.udpRedirect = s.udpRedirect

/-- What the callback takes for the ports and flags of the packet leads to nothing new. -/
structure Harmless (o : Observation) (p : IntermediateBuffer) (s : SocksLocalRouter) : Prop where
  /-- What looks like a client's datagram has a source port that is entered. -/
  datagram : p.IsIpv4 ipprotoUdp → p.isMulticast = false → (s.udpPortFor o p).isSome = true →
    (s.udpRedirect.endpoints.find p.thSport).isSome = true
  /-- What looks like a client's SYN is one that is entered, and recorded with its destination. -/
  syn : p.IsIpv4 ipprotoTcp → (s.tcpPortFor o p).isSome = true → p.isSyn = true →
    (s.tcpRedirect.redirectedConnections.find (TcpLocalRedirect.clientKey p)).isSome = true ∧
      s.tcpMapper.find (ntohs p.thSport) = some ⟨p.ipDst, ntohs p.thDport, none⟩
  /-- What looks like a client's segment belongs to no connection that is entered. -/
  segment : p.IsIpv4 ipprotoTcp → (s.tcpPortFor o p).isSome = true → p.isSyn = false →
    s.tcpRedirect.redirectedConnections.find (TcpLocalRedirect.clientKey p) = none
  /-- What looks like a segment of a local proxy belongs to no connection that is entered. -/
  reply : p.IsIpv4 ipprotoTcp → s.tcpPortFor o p = none →
    s.isTcpProxyPort (ntohs p.thSport) = true →
    s.tcpRedirect.redirectedConnections.find (TcpLocalRedirect.serverKey p) = none

section Callback

variable {api : CNdisApi} {o : Observation} {p q : IntermediateBuffer} {s t : SocksLocalRouter}
  {port : UInt16}

theorem untouched_of_callback (h : s.callback api o p = (.pass, p, t))
    (htcp : t.tcpMapper = s.tcpMapper ∧ t.tcpRedirect = s.tcpRedirect)
    (hudp : t.udpMapper = s.udpMapper ∧ t.udpRedirect = s.udpRedirect) : s.Untouched api o p := by
  constructor <;> rw [h]
  · exact htcp.1
  · exact hudp.1
  · exact htcp.2
  · exact hudp.2

theorem not_untouched_of_revert (h : s.callback api o p = (.revert, q, t)) :
    ¬ s.Untouched api o p := by
  intro huntouched
  have haction := huntouched.action
  rw [h] at haction
  cases haction

/-- A fragment of a datagram of a client passes, after it was looked at as a new endpoint. -/
theorem callback_udp_fragment (hip : p.IsIpv4 ipprotoUdp) (hmulti : p.isMulticast = false)
    (hfrag : p.isFragmented = true) (hport : s.udpPortFor o p = some port) :
    s.callback api o p = (.pass, p, (s.lookUpUdp o p).recordEndpoint o.now p) := by
  rw [callback_udp_matched hip hmulti hport]
  exact udpClientToServer_eq (Socks5UdpLocalRedirect.processClientToServerPacket_fragment hfrag)

/-- A fragment of a datagram is left alone unless its source port is a new endpoint. -/
theorem untouched_udp_iff (hip : p.IsIpv4 ipprotoUdp) (hmulti : p.isMulticast = false)
    (hfrag : p.isFragmented = true) :
    s.Untouched api o p ↔ ((s.udpPortFor o p).isSome = true →
      (s.udpRedirect.endpoints.find p.thSport).isSome = true) := by
  cases hport : s.udpPortFor o p with
  | some port =>
    cases hfind : s.udpRedirect.endpoints.find p.thSport with
    | some timestamp =>
      have hsame : (s.lookUpUdp o p).recordEndpoint o.now p = s.lookUpUdp o p :=
        recordEndpoint_known hfind
      refine iff_of_true ?_ fun _ => rfl
      exact untouched_of_callback (callback_udp_fragment hip hmulti hfrag hport)
        (by rw [hsame]; exact ⟨rfl, rfl⟩) (by rw [hsame]; exact ⟨rfl, rfl⟩)
    | none =>
      refine iff_of_false (fun huntouched => ?_) (by simp)
      have hredirect := huntouched.udpRedirect
      rw [callback_udp_fragment hip hmulti hfrag hport,
        recordEndpoint_new (s := s.lookUpUdp o p) hip hfind] at hredirect
      have hentered : s.udpRedirect.endpoints.find p.thSport = some o.now := by
        rw [← hredirect]
        exact Table.find_insert_self
      rw [hfind] at hentered
      cases hentered
  | none =>
    refine iff_of_true ?_ (by simp)
    cases hproxy : s.isUdpProxyPort (ntohs p.thSport) with
    | true =>
      have hback : s.callback api o p = (.pass, p, s.lookUpUdp o p) := by
        rw [callback_udp_proxy hip hmulti hport hproxy]
        exact udpServerToClient_eq (s := s.lookUpUdp o p)
          (Socks5UdpLocalRedirect.processServerToClientPacket_fragment hfrag)
      exact untouched_of_callback hback ⟨rfl, rfl⟩ ⟨rfl, rfl⟩
    | false =>
      exact untouched_of_callback (callback_udp_other hip hmulti hport hproxy) ⟨rfl, rfl⟩ ⟨rfl, rfl⟩

/-- What looks like a SYN is left alone when its connection is entered and recorded already. -/
theorem untouched_syn_iff (hip : p.IsIpv4 ipprotoTcp) (hport : s.tcpPortFor o p = some port)
    (hsyn : p.isSyn = true) :
    s.Untouched api o p ↔
      (s.tcpRedirect.redirectedConnections.find (TcpLocalRedirect.clientKey p)).isSome = true ∧
        s.tcpMapper.find (ntohs p.thSport) = some ⟨p.ipDst, ntohs p.thDport, none⟩ := by
  cases hfind : s.tcpRedirect.redirectedConnections.find (TcpLocalRedirect.clientKey p) with
  | none => exact iff_of_false (not_untouched_of_revert (callback_syn hip hsyn hport hfind)) (by simp)
  | some entry =>
    have hcallback : s.callback api o p = (.pass, p, (s.lookUpTcp o p).recordSyn p) :=
      callback_syn_known hip hsyn hport hfind
    rw [recordSyn, if_pos hsyn] at hcallback
    constructor
    · intro huntouched
      have hmapper := huntouched.tcpMapper
      rw [hcallback] at hmapper
      refine ⟨rfl, ?_⟩
      rw [← hmapper]
      exact Table.find_insert_self
    · rintro ⟨-, hrecorded⟩
      exact untouched_of_callback hcallback ⟨Table.insert_of_find hrecorded, rfl⟩ ⟨rfl, rfl⟩

/-- What looks like another segment of a client is left alone when its key has no entry. -/
theorem untouched_segment_iff (hip : p.IsIpv4 ipprotoTcp) (hport : s.tcpPortFor o p = some port)
    (hsyn : p.isSyn = false) :
    s.Untouched api o p ↔
      s.tcpRedirect.redirectedConnections.find (TcpLocalRedirect.clientKey p) = none := by
  cases hfind : s.tcpRedirect.redirectedConnections.find (TcpLocalRedirect.clientKey p) with
  | none =>
    exact iff_of_true (untouched_of_callback (callback_tcp_unknown hip hport hsyn hfind)
      ⟨rfl, rfl⟩ ⟨rfl, rfl⟩) rfl
  | some entry =>
    exact iff_of_false (not_untouched_of_revert (callback_tcp_known hip hport hsyn hfind)) (by simp)

/-- What looks like a segment of a local proxy is left alone when its key has no entry. -/
theorem untouched_reply_iff (hip : p.IsIpv4 ipprotoTcp) (hport : s.tcpPortFor o p = none) :
    s.Untouched api o p ↔ (s.isTcpProxyPort (ntohs p.thSport) = true →
      s.tcpRedirect.redirectedConnections.find (TcpLocalRedirect.serverKey p) = none) := by
  cases hproxy : s.isTcpProxyPort (ntohs p.thSport) with
  | false =>
    exact iff_of_true (untouched_of_callback (callback_tcp_other hip hport hproxy)
      ⟨rfl, rfl⟩ ⟨rfl, rfl⟩) (by simp)
  | true =>
    cases hfind : s.tcpRedirect.redirectedConnections.find (TcpLocalRedirect.serverKey p) with
    | none =>
      have hback : s.callback api o p = (.pass, p, s.lookUpTcp o p) := by
        rw [callback_tcp_proxy hip hport hproxy]
        exact tcpServerToClient_eq (s := s.lookUpTcp o p)
          (TcpLocalRedirect.processServerToClientPacket_unknown hfind)
      exact iff_of_true (untouched_of_callback hback ⟨rfl, rfl⟩ ⟨rfl, rfl⟩) fun _ => rfl
    | some entry =>
      exact iff_of_false (not_untouched_of_revert (callback_tcp_proxy_known hip hport hproxy hfind))
        (by simp)

/-- A later fragment, whatever its payload looks like, leaves everything as it is if and only if what
it is taken for leads to nothing new. -/
theorem untouched_iff_harmless (hlater : p.isLaterFragment = true) :
    s.Untouched api o p ↔ s.Harmless o p := by
  have hfrag := isFragmented_of_later hlater
  by_cases htcp : p.IsIpv4 ipprotoTcp
  · have hudp : ¬ p.IsIpv4 ipprotoUdp := fun hudp => absurd (htcp.2.symm.trans hudp.2) (by decide)
    cases hport : s.tcpPortFor o p with
    | none =>
      rw [untouched_reply_iff htcp hport]
      constructor
      · intro hreply
        exact ⟨fun h => absurd h hudp, by simp [hport], by simp [hport], fun _ _ => hreply⟩
      · intro h
        exact h.reply htcp hport
    | some port =>
      have hmatched : (s.tcpPortFor o p).isSome = true := by rw [hport]; rfl
      cases hsyn : p.isSyn with
      | true =>
        rw [untouched_syn_iff htcp hport hsyn]
        constructor
        · intro hentered
          exact ⟨fun h => absurd h hudp, fun _ _ _ => hentered, by simp [hsyn], by simp [hport]⟩
        · intro h
          exact h.syn htcp hmatched hsyn
      | false =>
        rw [untouched_segment_iff htcp hport hsyn]
        constructor
        · intro hunknown
          exact ⟨fun h => absurd h hudp, by simp [hsyn], fun _ _ _ => hunknown, by simp [hport]⟩
        · intro h
          exact h.segment htcp hmatched hsyn
  by_cases hudp : p.IsIpv4 ipprotoUdp
  · cases hmulti : p.isMulticast with
    | true =>
      exact iff_of_true (untouched_of_callback (callback_udp_multicast hudp hmulti)
        ⟨rfl, rfl⟩ ⟨rfl, rfl⟩) ⟨by simp [hmulti], by simp [htcp], by simp [htcp], by simp [htcp]⟩
    | false =>
      rw [untouched_udp_iff hudp hmulti hfrag]
      constructor
      · intro hentered
        exact ⟨fun _ _ => hentered, by simp [htcp], by simp [htcp], by simp [htcp]⟩
      · intro h
        exact h.datagram hudp hmulti
  exact iff_of_true (untouched_of_callback (callback_other htcp hudp) ⟨rfl, rfl⟩ ⟨rfl, rfl⟩)
    ⟨by simp [hudp], by simp [htcp], by simp [htcp], by simp [htcp]⟩

end Callback

/-! ## A run -/

namespace ReplyRun

/-- A later fragment of a TCP packet, whose payload looks like a header with the given flags. -/
def tcpFragment (flags : UInt8) : IntermediateBuffer :=
  ipv4Frame ipprotoTcp ⟨10, 0, 0, 1⟩ ⟨10, 0, 0, 2⟩ 0x00B9
    (beBytes 5000 ++ beBytes 80 ++ [0, 0, 0, 0, 0, 0, 0, 0] ++ [0x50, flags, 0, 0, 0, 0, 0, 0])

/-- A later fragment of a datagram, whose payload starts like a header. -/
def udpFragment : IntermediateBuffer := udpFrame ⟨10, 0, 0, 1⟩ ⟨10, 0, 0, 2⟩ 5000 53 0x00B9 [1]

end ReplyRun

open ReplyRun in
theorem untouched_iff_harmless_application :
    (configured onlyApplication).Untouched .plain observation (tcpFragment thAck) := by
  refine (untouched_iff_harmless (by decide)).mpr ⟨?_, ?_, ?_, ?_⟩
  · intro hudp
    exact absurd hudp (by decide)
  · intro _ _ hsyn
    exact absurd hsyn (by decide)
  · intro _ _ _
    rfl
  · intro _ hport
    exact absurd hport (by decide)

open ReplyRun in
/-- With the application's processes matched, a later fragment whose payload looks like a SYN is
rewritten and sent to the local proxy, and one that looks like a datagram enters a port. -/
theorem later_fragment_taken_for_syn :
    (system .plain).Reachable (configured onlyApplication) ∧
    ((tcpFragment thSyn).isLaterFragment = true ∧
      (∃ q t, (configured onlyApplication).callback .plain observation (tcpFragment thSyn) =
        (.revert, q, t)) ∧
      ¬ (configured onlyApplication).Untouched .plain observation (tcpFragment thSyn)) ∧
    (udpFragment.isLaterFragment = true ∧
      ¬ (configured onlyApplication).Untouched .plain observation udpFragment) := by
  have hport : (configured onlyApplication).tcpPortFor observation (tcpFragment thSyn) =
      some 1080 := by decide
  obtain ⟨q, t, hcallback⟩ : ∃ q t, (configured onlyApplication).callback .plain observation
      (tcpFragment thSyn) = (.revert, q, t) :=
    ⟨_, _, callback_syn (by decide) (by decide) hport rfl⟩
  refine ⟨configured_reachable _, ⟨by decide, ⟨q, t, hcallback⟩, not_untouched_of_revert hcallback⟩,
    by decide, ?_⟩
  rw [untouched_udp_iff (by decide) (by decide) (by decide)]
  decide

end SocksLocalRouter

end CutieProxy
