import Mathlib.Data.List.Nodup
import CutieProxy.Proxy.RouterReplies

/-!
# How a redirected connection learns where it was going

The SYN of a matched process leaves its destination in `tcpMapper`, under its local port alone, and
is then handed to the redirection, which may refuse it. The redirected connection reaches a local
proxy server, which asks for the destination when it accepts it. The packet thread, the servers and
the clean-up thread run concurrently, so a SYN is recorded in one step (`record`) and redirected in
another (`redirect`), with any other step in between.

`accepted_connections_are_sent_on` says that every accepted connection is given its own destination,
in runs whose SYNs do not get in each other's way (`Undisturbed`), and `disturbance_misleads` that
any SYN that does leads to a connection that is given another destination, or none.
-/

namespace CutieProxy

open IntermediateBuffer SocksLocalRouter Transition

/-- A connection as its server sees it, in host order: where it was going, and the local port it
comes from. -/
structure Connection where
  ip : IpAddressV4
  localPort : UInt16
  port : UInt16
  deriving DecidableEq

/-- The connection of a client's packet. -/
def connectionOf (packet : IntermediateBuffer) : Connection :=
  ⟨packet.ipDst, ntohs packet.thSport, ntohs packet.thDport⟩

/-- The router, the packet its callback is in the middle of with the port of its proxy, the
redirected connections that are not accepted yet, and what each accepted connection was given. -/
structure HandOver where
  router : SocksLocalRouter := {}
  flight : Option (UInt16 × IntermediateBuffer) := none
  pending : List Connection := []
  given : List (Connection × Option NegotiateContext) := []

/-- The context names the destination of the connection. -/
def NamesDestination (entry : Connection × Option NegotiateContext) : Prop :=
  ∃ ctx, entry.2 = some ctx ∧ ctx.remoteAddress = entry.1.ip ∧ ctx.remotePort = entry.1.port

namespace HandOver

/-! ## Steps -/

/-- What happens to a hand-over. -/
inductive Event where
  /-- The callback records the SYN of a TCP packet of a matched process. -/
  | record (o : Observation) (packet : IntermediateBuffer)
  /-- The callback hands the packet to the redirection. -/
  | redirect (now : TimePoint)
  /-- The callback handles any other packet. -/
  | packet (o : Observation) (packet : IntermediateBuffer)
  /-- A server accepts a redirected connection and asks where it was going. -/
  | accept (u : Upstream) (c : Connection)
  /-- A clean-up pass of the TCP redirection. -/
  | cleanup (now : TimePoint)
  /-- Proxies and filters are added, or proxies stopped. -/
  | configure (proxyServers : List (Option UInt16 × Option UInt16))
      (proxyToFilters : List (Nat × List FilterInterface))

/-- After a packet's SYN is recorded. -/
def recorded (o : Observation) (port : UInt16) (packet : IntermediateBuffer) (s : HandOver) :
    HandOver :=
  { s with router := (s.router.lookUpTcp o packet).recordSyn packet, flight := some (port, packet) }

/-- After the redirection has had the packet. -/
def redirected (api : CNdisApi) (now : TimePoint) (port : UInt16) (packet : IntermediateBuffer)
    (s : HandOver) : HandOver :=
  let (action, _, router) := s.router.tcpClientToServer api now port packet
  { s with
    router := router
    flight := none
    pending :=
      if packet.isSyn && action == .revert then s.pending ++ [connectionOf packet] else s.pending }

/-- After a connection is accepted. -/
def accepted (u : Upstream) (c : Connection) (s : HandOver) : HandOver :=
  let (remote, router) := s.router.queryRemotePeerTcp u c.ip c.localPort
  { s with
    router := router
    pending := s.pending.erase c
    given := s.given ++ [(c, remote.2.2)] }

/-- The steps of the packet thread, the servers and the clean-up thread. -/
inductive Step (api : CNdisApi) : HandOver → Event → HandOver → Prop
  | record {s : HandOver} {o : Observation} {packet : IntermediateBuffer} {port : UInt16}
      (hflight : s.flight = none) (hip : packet.IsIpv4 ipprotoTcp)
      (hport : s.router.tcpPortFor o packet = some port) :
      Step api s (.record o packet) (s.recorded o port packet)
  | redirect {s : HandOver} {now : TimePoint} {packet : IntermediateBuffer} {port : UInt16}
      (hflight : s.flight = some (port, packet)) :
      Step api s (.redirect now) (s.redirected api now port packet)
  | packet {s : HandOver} {o : Observation} {packet : IntermediateBuffer} (hflight : s.flight = none)
      (hother : ¬ (packet.IsIpv4 ipprotoTcp ∧ (s.router.tcpPortFor o packet).isSome = true)) :
      Step api s (.packet o packet) { s with router := (s.router.callback api o packet).2.2 }
  | accept {s : HandOver} {u : Upstream} {c : Connection} (hpending : c ∈ s.pending) :
      Step api s (.accept u c) (s.accepted u c)
  | cleanup {s : HandOver} {now : TimePoint} :
      Step api s (.cleanup now) { s with router := s.router.after api (.cleanupTcp now) }
  | configure {s : HandOver} {proxyServers : List (Option UInt16 × Option UInt16)}
      {proxyToFilters : List (Nat × List FilterInterface)} :
      Step api s (.configure proxyServers proxyToFilters)
        { s with router := s.router.after api (.configure proxyServers proxyToFilters) }

/-- The runs from the construction of the router on. -/
def system (api : CNdisApi) : System HandOver Event where
  init s := s = {}
  step := Step api

variable {api : CNdisApi} {s t : HandOver} {o : Observation} {packet : IntermediateBuffer}
  {port : UInt16} {now : TimePoint} {u : Upstream} {c : Connection} {e : Event}

/-- The two steps of a packet of a matched process are what the callback does to the router. -/
theorem redirected_recorded (hip : packet.IsIpv4 ipprotoTcp)
    (hport : s.router.tcpPortFor o packet = some port) :
    ((s.recorded o port packet).redirected api o.now port packet).router =
      (s.router.callback api o packet).2.2 := by
  rw [callback_tcp_matched hip hport]
  rfl

/-! ## What a step does to the record of a port -/

/-- The destination recorded for a local port. -/
def destinationOf (localPort : UInt16) (s : HandOver) : Option (IpAddressV4 × UInt16) :=
  (s.router.tcpMapper.find localPort).map fun remote => (remote.ip, remote.port)

/-- A recorded SYN replaces what was recorded for its local port. -/
theorem recorded_tcpMapper (hsyn : packet.isSyn = true) :
    (s.recorded o port packet).router.tcpMapper =
      s.router.tcpMapper.insert (ntohs packet.thSport) ⟨packet.ipDst, ntohs packet.thDport, none⟩ := by
  rw [recorded, recordSyn, if_pos hsyn]
  rfl

/-- Any other packet records nothing. -/
theorem recorded_tcpMapper_other (hsyn : packet.isSyn = false) :
    (s.recorded o port packet).router.tcpMapper = s.router.tcpMapper := by
  rw [recorded, recordSyn, hsyn]
  rfl

/-- Only the packets of matched processes record anything. -/
theorem callback_tcpMapper {r : SocksLocalRouter}
    (hother : ¬ (packet.IsIpv4 ipprotoTcp ∧ (r.tcpPortFor o packet).isSome = true)) :
    (r.callback api o packet).2.2.tcpMapper = r.tcpMapper := by
  refine callback_cases (motive := fun result => result.2.2.tcpMapper = r.tcpMapper) ?_ ?_ rfl ?_ ?_
    rfl rfl
  · intro port hip hport
    exact absurd ⟨hip, by rw [hport]; rfl⟩ hother
  · intros
    rfl
  · intros
    rfl
  · intros
    rfl

/-- A SYN whose key has no entry is redirected. -/
theorem redirected_pending_syn (hip : packet.IsIpv4 ipprotoTcp) (hsyn : packet.isSyn = true)
    (hnew : s.router.tcpRedirect.redirectedConnections.find (TcpLocalRedirect.clientKey packet) =
      none) :
    (s.redirected api now port packet).pending = s.pending ++ [connectionOf packet] := by
  have hsent : s.router.tcpClientToServer api now port packet = _ :=
    tcpClientToServer_eq (TcpLocalRedirect.processClientToServerPacket_syn hip hsyn hnew)
  simp [redirected, hsent, hsyn]

variable (api s now port packet) in
/-- A SYN is redirected only when its key has no entry. -/
theorem redirected_pending :
    ((s.redirected api now port packet).pending = s.pending) ∨
    (packet.isSyn = true ∧
      s.router.tcpRedirect.redirectedConnections.find (TcpLocalRedirect.clientKey packet) = none ∧
      (s.redirected api now port packet).pending = s.pending ++ [connectionOf packet]) := by
  cases hsyn : packet.isSyn with
  | false =>
    left
    simp [redirected, hsyn]
  | true =>
    cases hfind : s.router.tcpRedirect.redirectedConnections.find
      (TcpLocalRedirect.clientKey packet) with
    | none =>
      by_cases hrevert : (s.router.tcpClientToServer api now port packet).1 = .revert
      · right
        simp [redirected, hsyn, hrevert]
      · left
        simp [redirected, hrevert]
    | some entry =>
      left
      have hrefused : s.router.tcpClientToServer api now port packet = _ :=
        tcpClientToServer_eq (TcpLocalRedirect.processClientToServerPacket_syn_known hsyn hfind)
      simp [redirected, hrefused]

/-! ## Runs in which no SYN disturbs a hand-over -/

/-- A SYN of the local port of a pending connection is a SYN of that connection again; and a SYN is
redirected only while what it recorded is still there and no connection of its local port is
pending. -/
def Undisturbed (s : HandOver) : Event → Prop
  | .record _ packet =>
    packet.isSyn = true → ∀ c ∈ s.pending, c.localPort = ntohs packet.thSport →
      c = connectionOf packet
  | .redirect _ =>
    ∀ port packet, s.flight = some (port, packet) → packet.isSyn = true →
      s.router.tcpRedirect.redirectedConnections.find (TcpLocalRedirect.clientKey packet) = none →
      (∀ c ∈ s.pending, c.localPort ≠ ntohs packet.thSport) ∧
        s.destinationOf (ntohs packet.thSport) = some (packet.ipDst, ntohs packet.thDport)
  | _ => True

/-- The pending connections have distinct local ports, each with its destination recorded, and the
accepted ones were given theirs. -/
structure Inv (s : HandOver) : Prop where
  distinct : (s.pending.map Connection.localPort).Nodup
  isRecorded : ∀ c ∈ s.pending, s.destinationOf c.localPort = some (c.ip, c.port)
  named : ∀ entry ∈ s.given, NamesDestination entry

theorem Inv.init : Inv {} := ⟨List.nodup_nil, by simp, by simp⟩

/-- The invariant depends on the router through the recorded destinations alone. -/
theorem Inv.congr {router : SocksLocalRouter} {flight : Option (UInt16 × IntermediateBuffer)}
    (h : s.Inv) (hmapper : router.tcpMapper = s.router.tcpMapper) :
    Inv { s with router := router, flight := flight } where
  distinct := h.distinct
  isRecorded c hc := by
    unfold destinationOf
    rw [hmapper]
    exact h.isRecorded c hc
  named := h.named

theorem Inv.recorded (h : s.Inv)
    (hsame : packet.isSyn = true → ∀ c ∈ s.pending, c.localPort = ntohs packet.thSport →
      c = connectionOf packet) : (s.recorded o port packet).Inv := by
  cases hsyn : packet.isSyn with
  | false =>
    have hmapper : (s.recorded o port packet).router.tcpMapper = s.router.tcpMapper :=
      recorded_tcpMapper_other hsyn
    exact h.congr hmapper
  | true =>
    refine ⟨h.distinct, fun c hc => ?_, h.named⟩
    unfold destinationOf
    rw [recorded_tcpMapper hsyn]
    by_cases hport : c.localPort = ntohs packet.thSport
    · rw [hsame hsyn c hc hport]
      simp [connectionOf]
    · rw [Table.find_insert_of_ne hport]
      exact h.isRecorded c hc

theorem Inv.redirected (h : s.Inv)
    (hclear : packet.isSyn = true →
      s.router.tcpRedirect.redirectedConnections.find (TcpLocalRedirect.clientKey packet) = none →
      (∀ c ∈ s.pending, c.localPort ≠ ntohs packet.thSport) ∧
        s.destinationOf (ntohs packet.thSport) = some (packet.ipDst, ntohs packet.thDport)) :
    (s.redirected api now port packet).Inv := by
  have hsame : ∀ localPort,
      (s.redirected api now port packet).destinationOf localPort = s.destinationOf localPort :=
    fun _ => rfl
  rcases redirected_pending api s packet port now with hpending | ⟨hsyn, hnew, hpending⟩
  · refine ⟨?_, fun c hc => ?_, h.named⟩
    · rw [hpending]
      exact h.distinct
    · rw [hpending] at hc
      rw [hsame]
      exact h.isRecorded c hc
  · obtain ⟨hfree, hentry⟩ := hclear hsyn hnew
    refine ⟨?_, fun c hc => ?_, h.named⟩
    · rw [hpending, List.map_append, List.map_singleton, List.nodup_append]
      refine ⟨h.distinct, List.nodup_singleton _, ?_⟩
      rintro x hx y hy rfl
      obtain ⟨c, hc, rfl⟩ := List.mem_map.mp hx
      exact hfree c hc (List.mem_singleton.mp hy)
    · rw [hsame]
      rw [hpending] at hc
      rcases List.mem_append.mp hc with hold | hnew
      · exact h.isRecorded c hold
      · rw [List.mem_singleton.mp hnew]
        exact hentry

/-- An accepted connection is given the destination recorded for its local port, which is recorded
no longer. -/
theorem accepted_eq {ip : IpAddressV4} {remotePort : UInt16}
    (h : s.destinationOf c.localPort = some (ip, remotePort)) :
    s.accepted u c =
      { s with
        router := { s.router with tcpMapper := s.router.tcpMapper.erase c.localPort }
        pending := s.pending.erase c
        given := s.given ++ [(c, some (u.negotiateContext ip remotePort))] } := by
  obtain ⟨remote, hremote, hdestination⟩ := Option.map_eq_some_iff.mp h
  cases hdestination
  rw [accepted, queryRemotePeerTcp_known hremote]

/-- With nothing recorded for its local port it is given nothing. -/
theorem accepted_eq_none (h : s.destinationOf c.localPort = none) :
    s.accepted u c =
      { s with pending := s.pending.erase c, given := s.given ++ [(c, none)] } := by
  rw [accepted, queryRemotePeerTcp_unknown (Option.map_eq_none_iff.mp h)]

theorem Inv.accepted (h : s.Inv) (hc : c ∈ s.pending) : (s.accepted u c).Inv := by
  rw [accepted_eq (h.isRecorded c hc)]
  have hnodup : s.pending.Nodup := List.Nodup.of_map _ h.distinct
  refine ⟨h.distinct.sublist (List.erase_sublist.map _), fun d hd => ?_, fun entry hentry => ?_⟩
  · obtain ⟨hne, hd⟩ := hnodup.mem_erase_iff.mp hd
    have hport : d.localPort ≠ c.localPort := fun hport =>
      hne (List.inj_on_of_nodup_map h.distinct hd hc hport)
    unfold destinationOf
    rw [Table.find_erase_of_ne hport]
    exact h.isRecorded d hd
  · rcases List.mem_append.mp hentry with hold | hnew
    · exact h.named entry hold
    · rw [List.mem_singleton.mp hnew]
      exact ⟨_, rfl, rfl, rfl⟩

/-- A step that disturbs no hand-over keeps the invariant. -/
theorem Inv.step (h : s.Inv) (hquiet : s.Undisturbed e) (hstep : Step api s e t) : t.Inv := by
  cases hstep with
  | record hflight hip hport => exact h.recorded hquiet
  | redirect hflight => exact h.redirected (hquiet _ _ hflight)
  | packet hflight hother => exact h.congr (callback_tcpMapper hother)
  | accept hpending => exact h.accepted hpending
  | cleanup => exact h.congr rfl
  | configure => exact h.congr rfl

/-- Every accepted connection is given its own destination, in every run in which no SYN disturbs a
hand-over. -/
theorem accepted_connections_are_sent_on
    (h : ((system api).restrict Undisturbed).Reachable s) :
    ∀ entry ∈ s.given, NamesDestination entry := by
  have hinv : s.Inv := by
    refine h.restrict_invariant (I := Inv) ?_ ?_
    · rintro s rfl
      exact Inv.init
    · intro s e t hs hquiet hstep
      exact hs.step hquiet hstep
  exact hinv.named

/-! ## Disturbed hand-overs -/

/-- The packet in flight is a TCP packet. -/
theorem flight_isIpv4 (h : (system api).Reachable s) :
    ∀ port packet, s.flight = some (port, packet) → packet.IsIpv4 ipprotoTcp := by
  refine h.invariant (I := fun s => ∀ port packet, s.flight = some (port, packet) →
    packet.IsIpv4 ipprotoTcp) ?_ ?_
  · rintro s rfl port packet hflight
    cases hflight
  · intro s e t hs hstep port' packet' hflight'
    cases hstep with
    | record hflight hip hport =>
      cases hflight'
      exact hip
    | redirect hflight => cases hflight'
    | packet hflight hother => exact hs _ _ hflight'
    | accept hpending => exact hs _ _ hflight'
    | cleanup => exact hs _ _ hflight'
    | configure => exact hs _ _ hflight'

/-- A connection that is accepted while another destination, or none, is recorded for its local port
is not given its own. -/
theorem accepted_misled (h : s.destinationOf c.localPort ≠ some (c.ip, c.port)) :
    ∃ entry ∈ (s.accepted u c).given, ¬ NamesDestination entry := by
  cases hfind : s.destinationOf c.localPort with
  | none =>
    rw [accepted_eq_none hfind]
    refine ⟨(c, none), List.mem_append_right _ (List.mem_singleton_self _), ?_⟩
    rintro ⟨ctx, hctx, -⟩
    cases hctx
  | some destination =>
    obtain ⟨ip, remotePort⟩ := destination
    rw [accepted_eq hfind]
    refine ⟨_, List.mem_append_right _ (List.mem_singleton_self _), ?_⟩
    rintro ⟨ctx, hctx, hip, hport⟩
    cases hctx
    apply h
    rw [hfind]
    exact congrArg some (Prod.ext hip hport)

/-- A recorded SYN misleads a pending connection of its local port. -/
theorem recorded_misleads (hsyn : packet.isSyn = true) (hlocal : c.localPort = ntohs packet.thSport)
    (hother : c ≠ connectionOf packet) :
    (s.recorded o port packet).destinationOf c.localPort ≠ some (c.ip, c.port) := by
  unfold destinationOf
  rw [recorded_tcpMapper hsyn, hlocal, Table.find_insert_self]
  intro hsame
  obtain ⟨ip, localPort, remotePort⟩ := c
  simp only [Option.map_some, Option.some.injEq, Prod.mk.injEq] at hsame hlocal
  exact hother (by rw [connectionOf, ← hsame.1, ← hsame.2, ← hlocal])

/-- Two pending connections of one local port cannot both be given their destination. -/
theorem accepted_twice_misleads {d : Connection} (hd : d ∈ s.pending.erase c)
    (hlocal : d.localPort = c.localPort)
    (hown : s.destinationOf c.localPort = some (c.ip, c.port)) :
    d ∈ (s.accepted u c).pending ∧
      (s.accepted u c).destinationOf d.localPort ≠ some (d.ip, d.port) := by
  rw [accepted_eq hown]
  refine ⟨hd, ?_⟩
  rw [hlocal]
  simp [destinationOf]

/-- A step that fails the condition leads to a connection that is not given its destination. -/
theorem disturbance_misleads (h : (system api).Reachable s) (hstep : Step api s e t)
    (hdisturbed : ¬ s.Undisturbed e) :
    ∃ r, (system api).Steps t r ∧ ∃ entry ∈ r.given, ¬ NamesDestination entry := by
  have hrun : (system api).Steps t t := System.Steps.refl t
  let u : Upstream := ⟨⟨default, 0, none⟩, none⟩
  by_contra hnone
  -- no connection that is pending now or after one accept can be misled
  have hfirst : ∀ c ∈ t.pending, t.destinationOf c.localPort = some (c.ip, c.port) := by
    intro c hc
    by_contra hmisled
    exact hnone ⟨_, hrun.snoc (M := system api) (Step.accept (u := u) hc), accepted_misled hmisled⟩
  have hsecond : ∀ c ∈ t.pending, ∀ d ∈ t.pending.erase c, d.localPort ≠ c.localPort := by
    intro c hc d hd hlocal
    obtain ⟨hpending, hmisled⟩ := accepted_twice_misleads (u := u) hd hlocal (hfirst c hc)
    exact hnone ⟨_, (hrun.snoc (M := system api) (Step.accept (u := u) hc)).snoc (M := system api)
      (Step.accept (u := u) hpending), accepted_misled hmisled⟩
  apply hdisturbed
  cases hstep with
  | record hflight hip hport =>
    intro hsyn c hc hlocal
    by_contra hother
    exact recorded_misleads hsyn hlocal hother (hfirst c hc)
  | @redirect now packet port hflight =>
    intro port' packet' hflight' hsyn hnew
    obtain ⟨rfl, rfl⟩ : port = port' ∧ packet = packet' := by
      rw [hflight] at hflight'
      exact Prod.mk.inj (Option.some.inj hflight')
    have hpending : (s.redirected api now port packet).pending =
        s.pending ++ [connectionOf packet] :=
      redirected_pending_syn (flight_isIpv4 h _ _ hflight) hsyn hnew
    have hmem : connectionOf packet ∈ (s.redirected api now port packet).pending := by
      rw [hpending]
      exact List.mem_append_right _ (List.mem_singleton_self _)
    refine ⟨fun c hc hlocal => ?_, hfirst _ hmem⟩
    refine hsecond _ hmem c ?_ hlocal
    rw [hpending]
    by_cases hsame : c = connectionOf packet
    · rw [← hsame, List.erase_append_left _ hc]
      exact List.mem_append_right _ (List.mem_singleton_self _)
    · exact (List.mem_erase_of_ne hsame).mpr (List.mem_append_left _ hc)
  | packet hflight hother => trivial
  | accept hpending => trivial
  | cleanup => trivial
  | configure => trivial

/-! ## A run -/

namespace SynRun

open ReplyRun

/-- Before the application's SYN. -/
def configuredOver : HandOver := { router := configured onlyApplication }

/-- After the application's SYN is recorded. -/
def afterRecord : HandOver := configuredOver.recorded observation 1080 syn

/-- After the application's SYN is redirected. -/
def afterRedirect : HandOver := afterRecord.redirected .plain 0 1080 syn

/-- The upstream proxy. -/
def upstream : Upstream := ⟨⟨⟨10, 0, 0, 9⟩, 1080, none⟩, none⟩

/-- After the connection is accepted. -/
def afterAccept : HandOver := afterRedirect.accepted upstream (connectionOf syn)

theorem afterRedirect_reachable : ((system .plain).restrict Undisturbed).Reachable afterRedirect := by
  have hconfigured : ((system .plain).restrict Undisturbed).Reachable configuredOver :=
    (System.Reachable.init rfl).restrict_snoc (M := system .plain) (Step.configure (s := {})) trivial
  have hrecord : ((system .plain).restrict Undisturbed).Reachable afterRecord :=
    hconfigured.restrict_snoc (M := system .plain)
      (Step.record (o := observation) rfl (by decide) (by decide)) (fun _ _ hc => nomatch hc)
  have hstep : Step .plain afterRecord (.redirect 0) afterRedirect := Step.redirect rfl
  refine hrecord.restrict_snoc (M := system .plain) hstep ?_
  rintro port packet hflight hsyn -
  cases hflight
  refine ⟨fun _ hc => (nomatch hc), ?_⟩
  rw [destinationOf, afterRecord, recorded_tcpMapper hsyn, Table.find_insert_self]
  rfl

theorem afterAccept_reachable : ((system .plain).restrict Undisturbed).Reachable afterAccept := by
  refine afterRedirect_reachable.restrict_snoc (M := system .plain)
    (Step.accept (u := upstream) ?_) trivial
  rw [afterRedirect, redirected_pending_syn (by decide) (by decide) rfl]
  exact List.mem_append_right _ (List.mem_singleton_self _)

theorem afterAccept_given : afterAccept.given =
    [(connectionOf syn, some (upstream.negotiateContext ⟨10, 0, 0, 2⟩ 80))] := by
  have hrecorded : afterRedirect.destinationOf (connectionOf syn).localPort =
      some (⟨10, 0, 0, 2⟩, 80) := by
    show afterRecord.destinationOf _ = _
    rw [destinationOf, afterRecord, recorded_tcpMapper rfl]
    decide
  rw [afterAccept, accepted_eq hrecorded]
  rfl

/-- A second SYN of the application, from the same local port to another server. -/
def otherSyn : IntermediateBuffer := tcpFrame ⟨10, 0, 0, 1⟩ ⟨10, 0, 0, 3⟩ 5000 443 thSyn

/-- The system knows both connections of the application. -/
def otherObservation : Observation where
  now := 1
  tcpTable := observation.tcpTable.insert
    ⟨⟨⟨10, 0, 0, 1⟩, 5000, none⟩, ⟨⟨10, 0, 0, 3⟩, 443, none⟩⟩ application

end SynRun

open SynRun ReplyRun in
theorem accepted_connections_are_sent_on_application :
    afterAccept.given =
        [(connectionOf syn, some (upstream.negotiateContext ⟨10, 0, 0, 2⟩ 80))] ∧
      NamesDestination (connectionOf syn, some (upstream.negotiateContext ⟨10, 0, 0, 2⟩ 80)) :=
  have hgiven := afterAccept_given
  ⟨hgiven, accepted_connections_are_sent_on afterAccept_reachable _
    (by rw [hgiven]; exact List.mem_singleton_self _)⟩

open SynRun ReplyRun in
/-- After the SYN of `10.0.0.1:5000` to `10.0.0.2:80` is redirected, a SYN of the same local port to
`10.0.0.3:443` is recorded before the first connection is accepted, which is then given the
destination of the second. -/
theorem second_syn_misleads :
    ¬ ∀ s, (system .plain).Reachable s → ∀ entry ∈ s.given, NamesDestination entry := by
  intro hclaim
  have hreach := afterRedirect_reachable.of_restrict
  have hpending : connectionOf syn ∈ afterRedirect.pending := by
    rw [afterRedirect, redirected_pending_syn (by decide) (by decide) rfl]
    exact List.mem_append_right _ (List.mem_singleton_self _)
  have hstep : Step .plain afterRedirect (.record otherObservation otherSyn)
      (afterRedirect.recorded otherObservation 1080 otherSyn) :=
    Step.record rfl (by decide) (by decide)
  have hdisturbed : ¬ afterRedirect.Undisturbed (.record otherObservation otherSyn) := fun h =>
    absurd (h (by decide) _ hpending (by decide)) (by decide)
  obtain ⟨r, hrun, entry, hentry, hmisled⟩ := disturbance_misleads hreach hstep hdisturbed
  obtain ⟨s₀, hinit, hsteps⟩ := hreach.snoc (M := system .plain) hstep
  exact hmisled (hclaim r ⟨s₀, hinit, hsteps.trans hrun⟩ entry hentry)

end HandOver

end CutieProxy
