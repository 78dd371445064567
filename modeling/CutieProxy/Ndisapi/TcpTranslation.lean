import CutieProxy.Ndisapi.TcpLocalRedirect
import CutieProxy.Net.FrameBytes

/-!
# What the TCP redirection makes of a packet

Both directions swap the Ethernet and the IP addresses of a packet and write one port (`Swapped`).
So a packet `a:x -> b:y` of a client comes to the local proxy, at port `pp`, as `b:x -> a:pp`, and
what the proxy answers, `a:pp -> b:x`, comes back as `b:y -> a:x` while the entry for `(b, x)` is
there (`translates_and_restores`). A SYN whose key has an entry already is left alone.
-/

namespace CutieProxy

open IntermediateBuffer

/-- An IPv4 packet that holds a TCP header. -/
structure IntermediateBuffer.IsTcp (p : IntermediateBuffer) : Prop where
  ip : p.IsIpv4 ipprotoTcp
  header : 5 ≤ p.ipHl
  length : 4 * p.ipHl + 20 ≤ p.totalLength

section Frame

variable (src dst : IpAddressV4) (sport dport : UInt16) (flags : UInt8)

theorem IntermediateBuffer.tcpFrame_isTcp : (tcpFrame src dst sport dport flags).IsTcp := by
  have hheader : (tcpFrame src dst sport dport flags).ipHl = 5 := ipv4Frame_ipHl ..
  have hlength : (tcpFrame src dst sport dport flags).totalLength = 40 := by
    rw [totalLength, tcpFrame, ipv4Frame_ipLen, ntohs_htons]
    rfl
  refine ⟨ipv4Frame_isIpv4 .., ?_, ?_⟩
  · rw [hheader]
  · rw [hheader, hlength]

theorem IntermediateBuffer.tcpFrame_source :
    (tcpFrame src dst sport dport flags).source = ⟨src, htons sport, none⟩ := by
  rw [source, thSport, tcpFrame, ipv4Frame_transport, ipv4Frame_ipSrc]
  exact congrArg (IpEndpoint.mk src · none) (word16_beBytes sport)

theorem IntermediateBuffer.tcpFrame_destination :
    (tcpFrame src dst sport dport flags).destination = ⟨dst, htons dport, none⟩ := by
  rw [destination, thDport, tcpFrame, ipv4Frame_transport, ipv4Frame_ipDst]
  exact congrArg (IpEndpoint.mk dst · none) (word16_beBytes dport)

theorem IntermediateBuffer.tcpFrame_thFlags :
    (tcpFrame src dst sport dport flags).thFlags = flags := by
  rw [thFlags, tcpFrame, ipv4Frame_transport]
  rfl

end Frame

/-- `q` is the packet `p` with its Ethernet and its IP addresses swapped and with the port at the
offset `o` replaced. Nothing else of the packet has changed but the checksums. -/
structure Swapped (o : Nat) (port : UInt16) (p q : IntermediateBuffer) : Prop where
  length : q.mLength = p.mLength
  hDest : ∀ i < 6, q.mIBuffer i = p.mIBuffer (i + 6)
  hSource : ∀ i < 6, q.mIBuffer (i + 6) = p.mIBuffer i
  ipSrc : q.ipSrc = p.ipDst
  ipDst : q.ipDst = p.ipSrc
  port : q.read16 o = port
  /-- Bytes 24 to 33 are the checksum of the IP header and the addresses. -/
  rest : ∀ i, 12 ≤ i → i < etherHeaderLength + p.totalLength → i < 24 ∨ 34 ≤ i →
    i < o ∨ o + 2 ≤ i → i < p.transport + 16 ∨ p.transport + 18 ≤ i → q.mIBuffer i = p.mIBuffer i

namespace Swapped

variable {o : Nat} {port : UInt16} {p q : IntermediateBuffer}

/-- The transport header stays where it was. -/
theorem transport (h : Swapped o port p q) (hp : p.IsTcp) (ho : p.transport ≤ o) :
    q.transport = p.transport := by
  have hlength := hp.length
  have hheader := hp.header
  have htransport : p.transport = 14 + 4 * p.ipHl := rfl
  have hoff : etherHeaderLength = 14 := rfl
  have hbyte : q.mIBuffer 14 = p.mIBuffer 14 := by
    exact h.rest 14 (by omega) (by omega) (by omega) (by omega) (by omega)
  unfold IntermediateBuffer.transport ipHl
  rw [hoff, hbyte]

/-- The port that was not written is the one it was. -/
theorem read16 (h : Swapped o port p q) (hp : p.IsTcp) {i : Nat} (hi : p.transport ≤ i)
    (hle : i + 2 ≤ p.transport + 16) (ho : i + 2 ≤ o ∨ o + 2 ≤ i) : q.read16 i = p.read16 i := by
  have hlength := hp.length
  have hheader := hp.header
  have htransport : p.transport = 14 + 4 * p.ipHl := rfl
  have hoff : etherHeaderLength = 14 := rfl
  refine read16_congr ?_ ?_
  · exact h.rest i (by omega) (by omega) (by omega) (by omega) (by omega)
  · exact h.rest (i + 1) (by omega) (by omega) (by omega) (by omega) (by omega)

/-- A packet whose destination port was written. -/
theorem endpoints_of_dport (h : Swapped (p.transport + 2) port p q) (hp : p.IsTcp) :
    q.source = ⟨p.ipDst, p.thSport, none⟩ ∧ q.destination = ⟨p.ipSrc, port, none⟩ := by
  have htransport := h.transport hp (Nat.le_add_right ..)
  have hsport : q.thSport = p.thSport := by
    unfold thSport
    rw [htransport]
    exact h.read16 hp (by omega) (by omega) (by omega)
  have hdport : q.thDport = port := by
    unfold thDport
    rw [htransport]
    exact h.port
  exact ⟨by rw [source, h.ipSrc, hsport], by rw [destination, h.ipDst, hdport]⟩

/-- A packet whose source port was written. -/
theorem endpoints_of_sport (h : Swapped p.transport port p q) (hp : p.IsTcp) :
    q.source = ⟨p.ipDst, port, none⟩ ∧ q.destination = ⟨p.ipSrc, p.thDport, none⟩ := by
  have htransport := h.transport hp (Nat.le_refl _)
  have hsport : q.thSport = port := by
    unfold thSport
    rw [htransport]
    exact h.port
  have hdport : q.thDport = p.thDport := by
    unfold thDport
    rw [htransport]
    exact h.read16 hp (by omega) (by omega) (by omega)
  exact ⟨by rw [source, h.ipSrc, hsport], by rw [destination, h.ipDst, hdport]⟩

end Swapped

namespace TcpLocalRedirect

variable {api : CNdisApi} {now now' timestamp : TimePoint} {port serverPort : UInt16}
  {p q : IntermediateBuffer} {r r' : TcpLocalRedirect}

/-- A byte that is in no checksum is left as it was. -/
theorem recalculate_byte (hapi : api.Recalculates) {i : Nat}
    (hend : i < etherHeaderLength + q.totalLength)
    (htcp : i < q.transport + 16 ∨ q.transport + 18 ≤ i) (hip : i < 24 ∨ 26 ≤ i) :
    (api.recalculateIPChecksum (api.recalculateTCPChecksum q)).mIBuffer i = q.mIBuffer i := by
  rw [hapi.ip.byte _ _ fun h : 24 ≤ i ∧ i < 26 => by omega, hapi.tcp.byte]
  rintro (h | h) <;> omega

/-- Recalculating the checksums of a packet whose addresses were swapped. -/
theorem swapped_recalculate (hapi : api.Recalculates) (hp : p.IsTcp) {o : Nat}
    (ho : p.transport ≤ o) (ho' : o + 2 ≤ p.transport + 16) (h : Swapped o port p q) :
    Swapped o port p (api.recalculateIPChecksum (api.recalculateTCPChecksum q)) := by
  have hlength := hp.length
  have hheader := hp.header
  have htransport : p.transport = 14 + 4 * p.ipHl := rfl
  have hoff : etherHeaderLength = 14 := rfl
  have htotal : q.totalLength = p.totalLength := by
    have hfield : q.ipLen = p.ipLen := by
      refine read16_congr ?_ ?_
      · exact h.rest 16 (by omega) (by omega) (by omega) (by omega) (by omega)
      · exact h.rest 17 (by omega) (by omega) (by omega) (by omega) (by omega)
    unfold totalLength
    rw [hfield]
  have hsame := h.transport hp ho
  have hbyte : ∀ i, i < 14 + p.totalLength → i < p.transport + 16 ∨ p.transport + 18 ≤ i →
      i < 24 ∨ 26 ≤ i →
      (api.recalculateIPChecksum (api.recalculateTCPChecksum q)).mIBuffer i = q.mIBuffer i := by
    intro i hi htcp hip
    exact recalculate_byte hapi (by rw [htotal]; exact hi) (by rw [hsame]; exact htcp) hip
  refine ⟨?_, fun i hi => ?_, fun i hi => ?_, ?_, ?_, ?_, fun i h₁ h₂ h₃ h₄ h₅ => ?_⟩
  · rw [hapi.ip.length, hapi.tcp.length, h.length]
  · rw [hbyte i (by omega) (by omega) (by omega), h.hDest i hi]
  · rw [hbyte (i + 6) (by omega) (by omega) (by omega), h.hSource i hi]
  · rw [← h.ipSrc]
    exact readAddress_congr fun i hi => hbyte _ (by omega) (by omega) (by omega)
  · rw [← h.ipDst]
    exact readAddress_congr fun i hi => hbyte _ (by omega) (by omega) (by omega)
  · rw [← h.port]
    exact read16_congr (hbyte _ (by omega) (by omega) (by omega))
      (hbyte _ (by omega) (by omega) (by omega))
  · rw [hbyte i (by omega) h₅ (by omega), h.rest i h₁ h₂ h₃ h₄ h₅]

/-- What the rewriting of a client's packet does. -/
theorem redirectPacket_swapped (hapi : api.Recalculates) (hp : p.IsTcp) :
    Swapped (p.transport + 2) port p (redirectPacket api port p) := by
  have hheader := hp.header
  have htransport : p.transport = 14 + 4 * p.ipHl := rfl
  have hoff : etherHeaderLength = 14 := rfl
  refine swapped_recalculate hapi hp (by omega) (by omega) ?_
  refine ⟨rfl, fun i hi => ?_, fun i hi => ?_, ?_, ?_, read16_write16 port,
    fun i h₁ h₂ h₃ h₄ h₅ => ?_⟩
  · rw [write16_apart (by omega), swapIpAddresses_apart (by omega), swapEthernetAddresses_dest hi]
  · rw [write16_apart (by omega), swapIpAddresses_apart (by omega), swapEthernetAddresses_source hi]
  · rw [← ipSrc_swapAddresses]
    exact readAddress_congr fun i hi => write16_apart (by omega)
  · rw [← ipDst_swapAddresses]
    exact readAddress_congr fun i hi => write16_apart (by omega)
  · rw [write16_apart h₄, swapIpAddresses_apart (by omega), swapEthernetAddresses_apart h₁]

/-- What the rewriting of a packet of the local proxy does. -/
theorem restorePacket_swapped (hapi : api.Recalculates) (hp : p.IsTcp) :
    Swapped p.transport port p (restorePacket api port p) := by
  have hheader := hp.header
  have htransport : p.transport = 14 + 4 * p.ipHl := rfl
  have hoff : etherHeaderLength = 14 := rfl
  refine swapped_recalculate hapi hp (by omega) (by omega) ?_
  refine ⟨rfl, fun i hi => ?_, fun i hi => ?_, ?_, ?_, ?_, fun i h₁ h₂ h₃ h₄ h₅ => ?_⟩
  · rw [swapIpAddresses_apart (by omega), swapEthernetAddresses_dest hi, write16_apart (by omega)]
  · rw [swapIpAddresses_apart (by omega), swapEthernetAddresses_source hi, write16_apart (by omega)]
  · rw [ipSrc_swapAddresses]
    exact readAddress_congr fun i hi => write16_apart (by omega)
  · rw [ipDst_swapAddresses]
    exact readAddress_congr fun i hi => write16_apart (by omega)
  · refine (read16_congr (p := p.write16 p.transport port) ?_ ?_).trans (read16_write16 port)
    · rw [swapIpAddresses_apart (by omega), swapEthernetAddresses_apart (by omega)]
    · rw [swapIpAddresses_apart (by omega), swapEthernetAddresses_apart (by omega)]
  · rw [swapIpAddresses_apart (by omega), swapEthernetAddresses_apart h₁, write16_apart h₄]

/-! ## There and back -/

/-- A packet of a client for which there is an entry, or whose SYN makes one. -/
def Redirectable (y : UInt16) (p : IntermediateBuffer) (r : TcpLocalRedirect) : Prop :=
  (p.isSyn = true ∧ r.redirectedConnections.find (clientKey p) = none) ∨
    (p.isSyn = false ∧ r.serverPortOf (clientKey p) = some y)

/-- A packet that is no FIN or RST keeps the other entries, and the port of its own. -/
theorem find_touch {key : IpEndpoint IpAddressV4} (hopen : p.isRstOrFin = false) :
    (r.touch now p key port).serverPortOf key = some port ∧
      ∀ key' ≠ key, (r.touch now p key port).redirectedConnections.find key' =
        r.redirectedConnections.find key' := by
  unfold touch serverPortOf
  rw [hopen]
  exact ⟨by simp, fun key' hne => Table.find_insert_of_ne hne⟩

/-- Whatever the packet is, the other entries are kept. -/
theorem find_touch_of_ne {key key' : IpEndpoint IpAddressV4} (hne : key' ≠ key) :
    (r.touch now p key port).redirectedConnections.find key' =
      r.redirectedConnections.find key' := by
  unfold touch
  cases p.isRstOrFin with
  | true => exact Table.find_erase_of_ne hne
  | false => exact Table.find_insert_of_ne hne

variable (api now port) in
/-- A client's packet without FIN or RST is rewritten, and its entry holds its destination port. -/
theorem processClientToServerPacket_redirectable (hip : p.IsIpv4 ipprotoTcp)
    (hopen : p.isRstOrFin = false) (h : Redirectable p.thDport p r) :
    ∃ r₁, processClientToServerPacket api now p port r =
        (true, redirectPacket api (if port = 0 then r.proxyPort else port) p, r₁) ∧
      r₁.serverPortOf (clientKey p) = some p.thDport ∧
      ∀ key ≠ clientKey p, r₁.redirectedConnections.find key =
        r.redirectedConnections.find key := by
  rcases h with ⟨hsyn, hnew⟩ | ⟨hsyn, hknown⟩
  · refine ⟨_, processClientToServerPacket_syn hip hsyn hnew, ?_, fun key hne => ?_⟩
    · simp [serverPortOf]
    · exact Table.find_insert_of_ne hne
  · obtain ⟨⟨y, timestamp⟩, hfind, hport⟩ := Option.map_eq_some_iff.mp hknown
    subst hport
    exact ⟨_, processClientToServerPacket_known hip hsyn hfind, find_touch hopen⟩

variable (api now) in
/-- A packet of the proxy is rewritten when its key has an entry. -/
theorem processServerToClientPacket_restorable {y : UInt16} (hip : p.IsIpv4 ipprotoTcp)
    (h : r.serverPortOf (serverKey p) = some y) :
    ∃ r₁, processServerToClientPacket api now p r = (true, restorePacket api y p, r₁) ∧
      ∀ key ≠ serverKey p, r₁.redirectedConnections.find key =
        r.redirectedConnections.find key := by
  obtain ⟨⟨y', timestamp⟩, hfind, hport⟩ := Option.map_eq_some_iff.mp h
  subst hport
  exact ⟨_, processServerToClientPacket_known hip hfind, fun key hne => find_touch_of_ne hne⟩

variable (now r) in
/-- For every packet `a:x -> b:y` without FIN or RST that is the SYN that makes the entry for
`(b, x)`, or comes, no SYN itself, while that entry holds `y`: the packet becomes `b:x -> a:pp`;
and in every state in which the entry holds `y` every packet `a:pp -> b:x` becomes `b:y -> a:x`.
Both ways the Ethernet addresses are swapped and nothing else of the packet, and no other entry,
changes. -/
theorem translates_and_restores (hapi : api.Recalculates) (hp : p.IsTcp)
    (hopen : p.isRstOrFin = false) {a b : IpAddressV4} {x y pp : UInt16}
    (hsource : p.source = ⟨a, x, none⟩) (hdestination : p.destination = ⟨b, y, none⟩)
    (hentry : Redirectable y p r) (hport : pp = if port = 0 then r.proxyPort else port) :
    (∃ q r₁, processClientToServerPacket api now p port r = (true, q, r₁) ∧
      q.source = ⟨b, x, none⟩ ∧ q.destination = ⟨a, pp, none⟩ ∧ Swapped (p.transport + 2) pp p q ∧
      r₁.serverPortOf ⟨b, x, none⟩ = some y ∧
      ∀ key ≠ ⟨b, x, none⟩, r₁.redirectedConnections.find key =
        r.redirectedConnections.find key) ∧
    ∀ (now' : TimePoint) (r' : TcpLocalRedirect) (reply : IntermediateBuffer), reply.IsTcp →
      reply.source = ⟨a, pp, none⟩ → reply.destination = ⟨b, x, none⟩ →
      r'.serverPortOf ⟨b, x, none⟩ = some y →
      ∃ q r₂, processServerToClientPacket api now' reply r' = (true, q, r₂) ∧
        q.source = ⟨b, y, none⟩ ∧ q.destination = ⟨a, x, none⟩ ∧
        Swapped reply.transport y reply q ∧
        ∀ key ≠ ⟨b, x, none⟩, r₂.redirectedConnections.find key =
          r'.redirectedConnections.find key := by
  obtain ⟨hsrc, hsport⟩ : p.ipSrc = a ∧ p.thSport = x := source_eq_iff.mp hsource
  obtain ⟨hdst, hdport⟩ : p.ipDst = b ∧ p.thDport = y := destination_eq_iff.mp hdestination
  have hkey : clientKey p = ⟨b, x, none⟩ := by rw [clientKey, hdst, hsport]
  constructor
  · obtain ⟨r₁, hprocess, hentry₁, hothers⟩ :=
      processClientToServerPacket_redirectable api now port hp.ip hopen (by rwa [hdport])
    rw [hkey, hdport] at hentry₁
    rw [hkey] at hothers
    have hswapped : Swapped (p.transport + 2) pp p (redirectPacket api pp p) :=
      redirectPacket_swapped hapi hp
    have hends := hswapped.endpoints_of_dport hp
    rw [hdst, hsport, hsrc] at hends
    exact ⟨_, r₁, by rw [hprocess, hport], hends.1, hends.2, hswapped, hentry₁, hothers⟩
  · intro now' r' reply hreply hfrom hto hentry'
    obtain ⟨hfromIp, -⟩ : reply.ipSrc = a ∧ reply.thSport = pp := source_eq_iff.mp hfrom
    obtain ⟨htoIp, htoPort⟩ : reply.ipDst = b ∧ reply.thDport = x := destination_eq_iff.mp hto
    have hkey' : serverKey reply = ⟨b, x, none⟩ := by rw [serverKey, htoIp, htoPort]
    obtain ⟨r₂, hprocess, hothers⟩ :=
      processServerToClientPacket_restorable api now' hreply.ip (by rw [hkey']; exact hentry')
    rw [hkey'] at hothers
    have hswapped : Swapped reply.transport y reply (restorePacket api y reply) :=
      restorePacket_swapped hapi hreply
    have hends := hswapped.endpoints_of_sport hreply
    rw [htoIp, hfromIp, htoPort] at hends
    exact ⟨_, r₂, hprocess, hends.1, hends.2, hswapped, hothers⟩

/-! ### A run -/

namespace Web

/-- A client's SYN. -/
def syn : IntermediateBuffer := tcpFrame ⟨10, 0, 0, 1⟩ ⟨10, 0, 0, 2⟩ 5000 80 thSyn

/-- The local proxy's answer to it. -/
def synAck : IntermediateBuffer :=
  tcpFrame ⟨10, 0, 0, 1⟩ ⟨10, 0, 0, 2⟩ 1080 5000 (thSyn ||| thAck)

/-- The redirection after the SYN. -/
def entered : TcpLocalRedirect :=
  { redirectedConnections := Table.empty.insert (clientKey syn) (syn.thDport, 0)
    proxyPort := htons 1080 }

end Web

open Web in
theorem translates_and_restores_web :
    ∃ q r₂, processServerToClientPacket .internet 0 synAck entered = (true, q, r₂) ∧
      q.source = ⟨⟨10, 0, 0, 2⟩, htons 80, none⟩ ∧
      q.destination = ⟨⟨10, 0, 0, 1⟩, htons 5000, none⟩ := by
  have hsource : syn.source = ⟨⟨10, 0, 0, 1⟩, htons 5000, none⟩ := by decide
  have hdestination : syn.destination = ⟨⟨10, 0, 0, 2⟩, htons 80, none⟩ := by decide
  have hboth := translates_and_restores 0 { proxyPort := htons 1080 } CNdisApi.internet_recalculates
    (tcpFrame_isTcp ..) (by decide) hsource hdestination (.inl ⟨by decide, by decide⟩) (if_pos rfl).symm
  obtain ⟨q, r₂, hprocess, hsource, hdestination, -⟩ :=
    hboth.2 0 entered synAck (tcpFrame_isTcp ..) (by decide) (by decide) (by decide)
  exact ⟨q, r₂, hprocess, hsource, hdestination⟩

open Web in
/-- The SYN sent once more, while its entry holds its destination port, is not rewritten. -/
theorem repeated_syn_not_translated :
    syn.IsTcp ∧ syn.isRstOrFin = false ∧
    syn.source = ⟨⟨10, 0, 0, 1⟩, htons 5000, none⟩ ∧
    syn.destination = ⟨⟨10, 0, 0, 2⟩, htons 80, none⟩ ∧
    processClientToServerPacket .internet 0 syn 0 { proxyPort := htons 1080 } =
      (true, redirectPacket .internet (htons 1080) syn, entered) ∧
    entered.serverPortOf ⟨⟨10, 0, 0, 2⟩, htons 5000, none⟩ = some (htons 80) ∧
    processClientToServerPacket .internet 1 syn 0 entered = (false, syn, entered) := by
  refine ⟨tcpFrame_isTcp .., by decide, by decide, by decide, ?_, by decide, ?_⟩
  · exact processClientToServerPacket_syn (tcpFrame_isTcp ..).ip (by decide) (by decide)
  · have hentry : entered.redirectedConnections.find (clientKey syn) = some (syn.thDport, 0) := by
      decide
    exact processClientToServerPacket_syn_known (by decide) hentry

end TcpLocalRedirect

end CutieProxy
