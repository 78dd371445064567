import CutieProxy.Lib.Transition
import CutieProxy.Ndisapi.TcpTranslation

/-!
# Several connections in one redirection

An entry of the TCP redirection is found under the destination address and the source port of a
connection, and holds its destination port. The SYN of a second connection with the same two is
refused, but its other packets go by the entry of the first: they are redirected although their own
SYN was not, and the proxy's packets come back from the first one's port. `isolated_iff` says that
this is the only way one connection can be taken for another.
-/

namespace CutieProxy

open IntermediateBuffer

/-- A TCP connection `a:x -> b:y` of a client; the ports are in network order. -/
structure FourTuple where
  localIp : IpAddressV4
  localPort : UInt16
  remoteIp : IpAddressV4
  remotePort : UInt16
  deriving DecidableEq, Repr

namespace FourTuple

/-- `a:x`. -/
def localEnd (c : FourTuple) : IpEndpoint IpAddressV4 := ⟨c.localIp, c.localPort, none⟩

/-- `b:y`. -/
def remoteEnd (c : FourTuple) : IpEndpoint IpAddressV4 := ⟨c.remoteIp, c.remotePort, none⟩

/-- The key of the connection's entry, `(b, x)`. -/
def key (c : FourTuple) : IpEndpoint IpAddressV4 := ⟨c.remoteIp, c.localPort, none⟩

/-- A packet the client sends. -/
structure Segment (c : FourTuple) (p : IntermediateBuffer) : Prop where
  tcp : p.IsTcp
  source : p.source = c.localEnd
  destination : p.destination = c.remoteEnd

/-- A packet the local proxy sends: its peer is `b:x`, where the redirected packets come from. -/
structure Reply (c : FourTuple) (p : IntermediateBuffer) : Prop where
  tcp : p.IsTcp
  source : p.ipSrc = c.localIp
  destination : p.destination = c.key

variable {c : FourTuple} {p : IntermediateBuffer}

theorem Segment.thDport (h : c.Segment p) : p.thDport = c.remotePort := by
  have hdestination := h.destination
  rw [remoteEnd, destination_eq_iff] at hdestination
  exact hdestination.2

/-- The redirection looks a client's packet up under the key of its connection. -/
theorem Segment.clientKey (h : c.Segment p) : TcpLocalRedirect.clientKey p = c.key := by
  have hsource := h.source
  have hdestination := h.destination
  rw [localEnd, source_eq_iff] at hsource
  rw [remoteEnd, destination_eq_iff] at hdestination
  rw [TcpLocalRedirect.clientKey, key, hdestination.1, hsource.2]

/-- The redirection looks a packet of the proxy up under the key of its connection. -/
theorem Reply.serverKey (h : c.Reply p) : TcpLocalRedirect.serverKey p = c.key := h.destination

/-- A segment of the connection, without options and data. -/
def segment (c : FourTuple) (flags : UInt8) : IntermediateBuffer :=
  tcpFrame c.localIp c.remoteIp (ntohs c.localPort) (ntohs c.remotePort) flags

theorem segment_segment (c : FourTuple) (flags : UInt8) : c.Segment (c.segment flags) := by
  refine ⟨tcpFrame_isTcp .., ?_, ?_⟩
  · rw [segment, tcpFrame_source, htons_ntohs, localEnd]
  · rw [segment, tcpFrame_destination, htons_ntohs, remoteEnd]

end FourTuple

/-- The redirection, and the connections whose SYN it has rewritten. -/
structure Flows where
  redirect : TcpLocalRedirect := {}
  rewritten : List FourTuple := []

namespace Flows

open TcpLocalRedirect Transition

/-- What comes to the redirection. -/
inductive Event where
  /-- A packet of the client for a connection. -/
  | clientToServer (now : TimePoint) (port : UInt16) (c : FourTuple) (p : IntermediateBuffer)
  /-- A packet of the local proxy for a connection. -/
  | serverToClient (now : TimePoint) (c : FourTuple) (p : IntermediateBuffer)
  /-- A pass of the clean-up thread. -/
  | cleanup (now : TimePoint)

/-- The event is about one of the connections `C`. -/
def Event.Of (C : Set FourTuple) : Event → Prop
  | .clientToServer _ _ c p => c ∈ C ∧ c.Segment p
  | .serverToClient _ c p => c ∈ C ∧ c.Reply p
  | .cleanup _ => True

/-- The state after an event. -/
def after (api : CNdisApi) (s : Flows) : Event → Flows
  | .clientToServer now port c p =>
    let result := processClientToServerPacket api now p port s.redirect
    { redirect := result.2.2
      rewritten := if p.isSyn && result.1 then c :: s.rewritten else s.rewritten }
  | .serverToClient now _ p =>
    { s with redirect := (processServerToClientPacket api now p s.redirect).2.2 }
  | .cleanup now => { s with redirect := s.redirect.cleanup now }

/-- Every interleaving of the packets of the connections `C`, from an empty table on. -/
def system (api : CNdisApi) (C : Set FourTuple) : System Flows Event where
  init s := s.redirect.redirectedConnections = .empty ∧ s.rewritten = []
  step s e t := e.Of C ∧ t = s.after api e

/-- The event is handled by what was done for its own connection: a client's packet that is no SYN
is rewritten only when the SYN of its connection was, and a packet of the proxy, when there is an
entry for it, comes from the server of its connection. -/
def Isolated (api : CNdisApi) (s : Flows) : Event → Prop
  | .clientToServer now port c p =>
    p.isSyn = false → (processClientToServerPacket api now p port s.redirect).1 = true →
      c ∈ s.rewritten
  | .serverToClient now c p =>
    (s.redirect.redirectedConnections.find (serverKey p)).isSome = true →
      ∃ q r, processServerToClientPacket api now p s.redirect = (true, q, r) ∧
        q.source = c.remoteEnd ∧ q.destination = c.localEnd
  | .cleanup _ => True

/-! ## One connection for each entry -/

/-- Every entry was made by the SYN of one of the connections, and holds its destination port. -/
def Accounted (C : Set FourTuple) (s : Flows) : Prop :=
  ∀ key port, s.redirect.serverPortOf key = some port →
    ∃ c ∈ C, c ∈ s.rewritten ∧ c.key = key ∧ c.remotePort = port

variable {api : CNdisApi} {C : Set FourTuple} {s t : Flows} {e : Event} {now : TimePoint}
  {port : UInt16} {p : IntermediateBuffer} {key : IpEndpoint IpAddressV4} {r : TcpLocalRedirect}

variable (now p) in
/-- A packet that refreshes or closes an entry makes none, and changes the port of none. -/
theorem serverPortOf_of_touch {key' : IpEndpoint IpAddressV4} {port' : UInt16}
    (hentry : r.serverPortOf key = some port)
    (h : (r.touch now p key port).serverPortOf key' = some port') :
    r.serverPortOf key' = some port' := by
  rcases eq_or_ne key' key with rfl | hne
  · unfold touch serverPortOf at h
    cases hflags : p.isRstOrFin with
    | true => simp [hflags] at h
    | false =>
      rw [hflags] at h
      simp at h
      rw [hentry, h]
  · rw [serverPortOf, find_touch_of_ne hne] at h
    exact h

/-- A clean-up pass makes no entry. -/
theorem serverPortOf_of_cleanup {port' : UInt16}
    (h : (r.cleanup now).serverPortOf key = some port') : r.serverPortOf key = some port' := by
  obtain ⟨entry, hfind, hport⟩ := Option.map_eq_some_iff.mp h
  rw [serverPortOf, (Table.find_sweep.mp hfind).1, Option.map_some, hport]

/-- The account stays while no entry is made and no SYN is forgotten. -/
theorem Accounted.mono (h : s.Accounted C)
    (hentry : ∀ key port, t.redirect.serverPortOf key = some port →
      s.redirect.serverPortOf key = some port)
    (hrewritten : ∀ c ∈ s.rewritten, c ∈ t.rewritten) : t.Accounted C := by
  intro key port ht
  obtain ⟨c, hc, hsyn, hkey, hport⟩ := h key port (hentry key port ht)
  exact ⟨c, hc, hrewritten c hsyn, hkey, hport⟩

/-- A client's packet keeps the account: the entry a SYN makes is that of its own connection. -/
theorem Accounted.clientToServer (h : s.Accounted C) {c : FourTuple} (hc : c ∈ C)
    (hsegment : c.Segment p) : (s.after api (.clientToServer now port c p)).Accounted C := by
  have hkeep : ∀ c' ∈ s.rewritten, c' ∈ (s.after api (.clientToServer now port c p)).rewritten := by
    intro c' hc'
    show c' ∈ if _ then _ else _
    split
    · exact List.mem_cons_of_mem c hc'
    · exact hc'
  rcases processClientToServerPacket_cases api now p port s.redirect with
    hsame | ⟨hsyn, hnew, hredirect⟩ | ⟨-, entryPort, timestamp, hfind, hredirect⟩
  · refine h.mono (fun key port' hentry => ?_) hkeep
    rw [← hsame]
    exact hentry
  · have hfind : ∀ key, (s.after api (.clientToServer now port c p)).redirect.serverPortOf key =
        if key = clientKey p then some p.thDport else s.redirect.serverPortOf key := by
      intro key
      show serverPortOf key (processClientToServerPacket api now p port s.redirect).2.2 = _
      rw [hredirect]
      split
      next hkey => rw [hkey, serverPortOf, Table.find_insert_self, Option.map_some]
      next hne => rw [serverPortOf, serverPortOf, Table.find_insert_of_ne hne]
    intro key port' hentry
    rw [hfind] at hentry
    split at hentry
    next hkey =>
      have hrewritten : c ∈ (s.after api (.clientToServer now port c p)).rewritten := by
        show c ∈ if _ then _ else _
        rw [hsyn, processClientToServerPacket_syn hsegment.tcp.ip hsyn hnew]
        exact List.mem_cons_self
      refine ⟨c, hc, hrewritten, hkey ▸ hsegment.clientKey.symm, ?_⟩
      rw [← hsegment.thDport]
      exact Option.some.inj hentry
    next =>
      obtain ⟨c', hc', hmem, hkey, hport⟩ := h key port' hentry
      exact ⟨c', hc', hkeep c' hmem, hkey, hport⟩
  · refine h.mono (fun key port' hentry => ?_) hkeep
    refine serverPortOf_of_touch now p (by rw [serverPortOf, hfind]; rfl) ?_
    rw [← hredirect]
    exact hentry

/-- A packet of the proxy makes no entry. -/
theorem Accounted.serverToClient (h : s.Accounted C) (c : FourTuple) :
    (s.after api (.serverToClient now c p)).Accounted C := by
  refine h.mono (fun key port' hentry => ?_) fun _ => id
  rcases processServerToClientPacket_cases api now p s.redirect with
    hsame | ⟨entryPort, timestamp, hfind, hredirect⟩
  · rw [← hsame]
    exact hentry
  · refine serverPortOf_of_touch now p (by rw [serverPortOf, hfind]; rfl) ?_
    rw [← hredirect]
    exact hentry

/-- Every event keeps the account of the entries. -/
theorem accounted_after (hof : e.Of C) (h : s.Accounted C) : (s.after api e).Accounted C := by
  cases e with
  | clientToServer now port c p => exact h.clientToServer hof.1 hof.2
  | serverToClient now c p => exact h.serverToClient c
  | cleanup now => exact h.mono (fun _ _ => serverPortOf_of_cleanup) fun _ => id

theorem accounted_of_reachable (h : (system api C).Reachable s) : s.Accounted C := by
  refine h.invariant ?_ ?_
  · rintro s ⟨hempty, -⟩ key port hentry
    rw [serverPortOf, hempty] at hentry
    cases hentry
  · rintro s e t hs ⟨hof, rfl⟩
    exact accounted_after hof hs

/-- With one connection for each key, an accounted entry serves its own connection only. -/
theorem isolated_of_accounted (hapi : api.Recalculates) (hkeys : Set.InjOn FourTuple.key C)
    (hof : e.Of C) (h : s.Accounted C) : s.Isolated api e := by
  cases e with
  | clientToServer now port c p =>
    obtain ⟨hc, hsegment⟩ := hof
    intro hsyn hrewritten
    cases hfind : s.redirect.redirectedConnections.find (clientKey p) with
    | none =>
      rw [processClientToServerPacket_unknown hsyn hfind] at hrewritten
      cases hrewritten
    | some entry =>
      obtain ⟨c', hc', hown, hkey, -⟩ := h (clientKey p) entry.1 (by rw [serverPortOf, hfind]; rfl)
      rw [hsegment.clientKey] at hkey
      rw [← hkeys hc' hc hkey]
      exact hown
  | serverToClient now c p =>
    obtain ⟨hc, hreply⟩ := hof
    intro hentry
    obtain ⟨⟨serverPort, timestamp⟩, hfind⟩ := Option.isSome_iff_exists.mp hentry
    obtain ⟨c', hc', -, hkey, hport⟩ := h (serverKey p) serverPort (by rw [serverPortOf, hfind]; rfl)
    rw [hreply.serverKey] at hkey
    rw [hkeys hc' hc hkey] at hport
    subst hport
    have hswapped : Swapped p.transport c.remotePort p (restorePacket api c.remotePort p) :=
      restorePacket_swapped hapi hreply.tcp
    have hends := hswapped.endpoints_of_sport hreply.tcp
    have hdestination := hreply.destination
    rw [FourTuple.key, destination_eq_iff] at hdestination
    rw [hreply.source, hdestination.1, hdestination.2] at hends
    exact ⟨_, _, processServerToClientPacket_known hreply.tcp.ip hfind, hends.1, hends.2⟩
  | cleanup now => exact trivial

/-! ## Two connections for one entry -/

/-- After the SYN of one connection. -/
def entered (c : FourTuple) : Flows where
  redirect :=
    { redirectedConnections := Table.empty.insert c.key (c.remotePort, 0), proxyPort := htons 1080 }
  rewritten := [c]

/-- The SYN of a connection is rewritten when its key has no entry. -/
theorem entered_reachable {c : FourTuple} (hc : c ∈ C) : (system api C).Reachable (entered c) := by
  have hsegment := FourTuple.segment_segment c thSyn
  have hsyn : (c.segment thSyn).isSyn = true := by
    rw [isSyn, FourTuple.segment, tcpFrame_thFlags]
    decide
  have hinit : (system api C).Reachable { redirect := { proxyPort := htons 1080 } } :=
    System.Reachable.init ⟨rfl, rfl⟩
  refine hinit.snoc (e := .clientToServer 0 0 c (c.segment thSyn)) ⟨⟨hc, hsegment⟩, ?_⟩
  rw [after, processClientToServerPacket_syn hsegment.tcp.ip hsyn rfl, hsyn, hsegment.clientKey,
    hsegment.thDport]
  rfl

/-- A later packet of another connection under the same key goes by that entry. -/
theorem not_isolated_of_shared_key {c c' : FourTuple} (hkey : c.key = c'.key) (hne : c ≠ c') :
    ¬ (entered c).Isolated api (.clientToServer 0 0 c' (c'.segment thAck)) := by
  have hsegment := FourTuple.segment_segment c' thAck
  have hsyn : (c'.segment thAck).isSyn = false := by
    rw [isSyn, FourTuple.segment, tcpFrame_thFlags]
    decide
  have hfind : (entered c).redirect.redirectedConnections.find (clientKey (c'.segment thAck)) =
      some (c.remotePort, 0) := by
    rw [hsegment.clientKey, ← hkey]
    exact Table.find_insert_self
  intro h
  have hown : c' ∈ [c] := by
    refine h hsyn ?_
    rw [processClientToServerPacket_known hsegment.tcp.ip hsyn hfind]
  exact hne (List.mem_singleton.mp hown).symm

/-- In every interleaving of the packets of a set of connections every packet is handled by what was
done for its own connection, if and only if no two of them have the same destination address and
the same source port. -/
theorem isolated_iff (hapi : api.Recalculates) :
    (∀ s, (system api C).Reachable s → ∀ e : Event, e.Of C → s.Isolated api e) ↔
      Set.InjOn FourTuple.key C := by
  constructor
  · intro h c hc c' hc' hkey
    by_contra hne
    have hof : Event.Of C (.clientToServer 0 0 c' (c'.segment thAck)) :=
      ⟨hc', FourTuple.segment_segment c' thAck⟩
    exact not_isolated_of_shared_key hkey hne (h (entered c) (entered_reachable hc) _ hof)
  · intro hkeys s hs e hof
    exact isolated_of_accounted hapi hkeys hof (accounted_of_reachable hs)

namespace Browser

/-- A connection to a web server. -/
def http : FourTuple := ⟨⟨10, 0, 0, 1⟩, htons 5000, ⟨10, 0, 0, 2⟩, htons 80⟩

/-- A connection to another port of that server, from another port. -/
def https : FourTuple := ⟨⟨10, 0, 0, 1⟩, htons 5001, ⟨10, 0, 0, 2⟩, htons 443⟩

/-- The connection to the other port, from the same port as the first. -/
def samePort : FourTuple := ⟨⟨10, 0, 0, 1⟩, htons 5000, ⟨10, 0, 0, 2⟩, htons 443⟩

end Browser

open Browser in
/-- With the entry of the first connection, an acknowledgement of the second is left alone. -/
theorem isolated_iff_browser : Set.InjOn FourTuple.key {http, https} ∧
    (entered http).Isolated .internet (.clientToServer 0 0 https (https.segment thAck)) := by
  have hkeys : Set.InjOn FourTuple.key {http, https} := by
    rintro c (rfl | rfl) c' (rfl | rfl) hkey
    · rfl
    · exact absurd hkey (by decide)
    · exact absurd hkey (by decide)
    · rfl
  exact ⟨hkeys, (isolated_iff CNdisApi.internet_recalculates).mpr hkeys _
    (entered_reachable (.inl rfl)) _ ⟨.inr rfl, FourTuple.segment_segment ..⟩⟩

open Browser in
/-- Only the first connection's SYN was rewritten, and the second one's acknowledgement is. -/
theorem second_connection_redirected :
    http ≠ samePort ∧ (system .internet {http, samePort}).Reachable (entered http) ∧
    Event.Of {http, samePort} (.clientToServer 0 0 samePort (samePort.segment thAck)) ∧
    ¬ (entered http).Isolated .internet
      (.clientToServer 0 0 samePort (samePort.segment thAck)) := by
  have hne : http ≠ samePort := by decide
  exact ⟨hne, entered_reachable (.inl rfl), ⟨.inr rfl, FourTuple.segment_segment ..⟩,
    not_isolated_of_shared_key rfl hne⟩

end Flows

end CutieProxy
