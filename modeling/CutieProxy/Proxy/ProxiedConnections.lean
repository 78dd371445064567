import CutieProxy.Proxy.Socks5Correct
import CutieProxy.Proxy.TcpHandOver
import CutieProxy.Proxy.TcpTunnel

/-!
# The connections of an application, from its SYN to its bytes

`TcpHandOver` says which destination an accepted connection is given and `TcpTunnel` what a
connection does with the one it has. `ProxiedConnections` runs the router and the servers with all
the connections they started, any of which may take the next step. A redirected connection comes to
the server of the port its SYN was matched with, and that server knows its own upstream proxy.

`bytes_reach_destination` says that a byte passes between an application and a server only through
the proxy the application was matched with, after that proxy was asked with its own credentials for
the destination the application had sent its SYN to.
-/

namespace CutieProxy

open Socks5TcpProxySocket Transition
open SocksLocalRouter (Upstream)

/-- The router and its servers, with the connections they started. -/
structure ProxiedConnections where
  handOver : HandOver := {}
  /-- The connections that wait to be accepted, with the port of the server they came to. -/
  redirected : List (Connection × UInt16) := []
  /-- The connections that were accepted, with the port of the server that did. -/
  served : List (Connection × UInt16) := []
  /-- The connections that were started, by their place in `served`. -/
  started : Table Nat TcpTunnel := Table.empty

namespace ProxiedConnections

/-- What happens to the connections of an application. -/
inductive Event where
  /-- A step of the packet thread, the accept threads or the clean-up thread. -/
  | handOver (e : HandOver.Event)
  /-- The connection to the upstream proxy is there: the accepted connection is started. -/
  | start (i : Nat)
  /-- A completion of a started connection is dispatched. -/
  | tunnel (i : Nat) (e : TcpTunnel.Event)

/-- The redirection lets the packet in flight begin a connection. -/
def begins (api : CNdisApi) (now : TimePoint) (port : UInt16) (packet : IntermediateBuffer)
    (s : ProxiedConnections) : Bool :=
  packet.isSyn && (s.handOver.router.tcpClientToServer api now port packet).1 == .revert

/-- Neither begins nor accepts a connection. -/
def IsOther : HandOver.Event → Prop
  | .redirect _ | .accept _ _ => False
  | _ => True

/-- The steps of the threads; `upstreamOf` is what the server of a port captured. `start` moves the
context of an accepted connection into its socket, once; a connection without a context is closed
instead. -/
inductive Step (api : CNdisApi) (upstreamOf : UInt16 → Upstream) :
    ProxiedConnections → Event → ProxiedConnections → Prop
  | redirect {s : ProxiedConnections} {now : TimePoint} {port : UInt16}
      {packet : IntermediateBuffer} : s.handOver.flight = some (port, packet) →
      Step api upstreamOf s (.handOver (.redirect now))
        { s with
          handOver := s.handOver.redirected api now port packet
          redirected := if s.begins api now port packet then
              s.redirected ++ [(connectionOf packet, port)]
            else s.redirected }
  | accept {s : ProxiedConnections} {c : Connection} {port : UInt16} : (c, port) ∈ s.redirected →
      Step api upstreamOf s (.handOver (.accept (upstreamOf port) c))
        { s with
          handOver := s.handOver.accepted (upstreamOf port) c
          redirected := s.redirected.erase (c, port)
          served := s.served ++ [(c, port)] }
  | other {s : ProxiedConnections} {e : HandOver.Event} {next : HandOver} : IsOther e →
      HandOver.Step api s.handOver e next →
      Step api upstreamOf s (.handOver e) { s with handOver := next }
  | start {s : ProxiedConnections} {i : Nat} {c : Connection} {ctx : NegotiateContext}
      {localSocket remoteSocket : Socket} {x : TcpTunnel} :
      s.handOver.given[i]? = some (c, some ctx) → s.started.find i = none →
      (TcpTunnel.system localSocket remoteSocket ctx).init x →
      Step api upstreamOf s (.start i) { s with started := s.started.insert i x }
  | tunnel {s : ProxiedConnections} {i : Nat} {e : TcpTunnel.Event} {x y : TcpTunnel} :
      s.started.find i = some x → TcpTunnel.Step x e y →
      Step api upstreamOf s (.tunnel i e) { s with started := s.started.insert i y }

/-- The runs from the construction of the router on. -/
def system (api : CNdisApi) (upstreamOf : UInt16 → Upstream) : System ProxiedConnections Event where
  init s := s = {}
  step := Step api upstreamOf

/-- No SYN disturbs a hand-over. -/
def Undisturbed (s : ProxiedConnections) : Event → Prop
  | .handOver e => s.handOver.Undisturbed e
  | _ => True

/-- The runs in which no SYN disturbs a hand-over. -/
abbrev undisturbed (api : CNdisApi) (upstreamOf : UInt16 → Upstream) :
    System ProxiedConnections Event :=
  (system api upstreamOf).restrict Undisturbed

/-- In an earlier state of the run the process whose SYN asks for the connection was matched with
the proxy server of the port. -/
def Matched (api : CNdisApi) (upstreamOf : UInt16 → Upstream) (t : ProxiedConnections)
    (r : Connection × UInt16) : Prop :=
  ∃ s o syn, (undisturbed api upstreamOf).Reachable s ∧ (undisturbed api upstreamOf).Steps s t ∧
    syn.isSyn = true ∧ connectionOf syn = r.1 ∧ s.handOver.router.tcpPortFor o syn = some r.2

/-- The context for a connection at the server of a port. -/
def contextOf (upstreamOf : UInt16 → Upstream) (r : Connection × UInt16) : NegotiateContext :=
  (upstreamOf r.2).negotiateContext r.1.ip r.1.port

/-- What an accepted connection was given. -/
def entryOf (upstreamOf : UInt16 → Upstream) (r : Connection × UInt16) :
    Connection × Option NegotiateContext := (r.1, some (contextOf upstreamOf r))

variable {api : CNdisApi} {upstreamOf : UInt16 → Upstream} {s t : ProxiedConnections} {e : Event}
  {i : Nat} {x : TcpTunnel} {now : TimePoint} {port : UInt16} {packet : IntermediateBuffer}
  {c : Connection}

/-! ## What a connection is started with -/

/-- The connection runs on the context of the accepted one. -/
def RunsOn (upstreamOf : UInt16 → Upstream) (served : List (Connection × UInt16)) (i : Nat)
    (x : TcpTunnel) : Prop :=
  ∃ r localSocket remoteSocket, served[i]? = some r ∧
    (TcpTunnel.system localSocket remoteSocket (contextOf upstreamOf r)).Reachable x

/-- What holds between the steps of an undisturbed run. -/
structure Inv (api : CNdisApi) (upstreamOf : UInt16 → Upstream) (s : ProxiedConnections) :
    Prop where
  handOver : s.handOver.Inv
  pending : (s.redirected.map Prod.fst).Perm s.handOver.pending
  flight : ∀ port packet, s.handOver.flight = some (port, packet) → packet.isSyn = true →
    Matched api upstreamOf s (connectionOf packet, port)
  redirected : ∀ r ∈ s.redirected, Matched api upstreamOf s r
  served : ∀ r ∈ s.served, Matched api upstreamOf s r
  given : s.handOver.given = s.served.map (entryOf upstreamOf)
  runsOn : ∀ i x, s.started.find i = some x → RunsOn upstreamOf s.served i x

/-- What was matched was matched earlier from then on. -/
theorem Matched.later {r : Connection × UInt16} (h : Matched api upstreamOf s r)
    (hquiet : s.Undisturbed e) (hstep : Step api upstreamOf s e t) :
    Matched api upstreamOf t r := by
  obtain ⟨u, o, syn, hreach, hrun, hsyn, hc, hport⟩ := h
  exact ⟨u, o, syn, hreach, hrun.snoc (e := e) ⟨hquiet, hstep⟩, hsyn, hc, hport⟩

theorem Inv.init : Inv api upstreamOf {} where
  handOver := HandOver.Inv.init
  pending := .nil
  flight _ _ hflight := by cases hflight
  redirected := by simp
  served := by simp
  given := rfl
  runsOn := by simp

theorem RunsOn.snoc {served : List (Connection × UInt16)} {r : Connection × UInt16}
    (h : RunsOn upstreamOf served i x) : RunsOn upstreamOf (served ++ [r]) i x := by
  obtain ⟨r', localSocket, remoteSocket, hserved, hreach⟩ := h
  obtain ⟨hi, -⟩ := List.getElem?_eq_some_iff.mp hserved
  refine ⟨r', localSocket, remoteSocket, ?_, hreach⟩
  rw [List.getElem?_append_left hi]
  exact hserved

/-- A connection waits to be accepted just when the redirection let it begin. -/
theorem pending_redirected : (s.handOver.redirected api now port packet).pending =
    if s.begins api now port packet then s.handOver.pending ++ [connectionOf packet]
    else s.handOver.pending := rfl

/-- The redirection begins a connection, or not. -/
theorem Inv.redirect (h : s.Inv api upstreamOf)
    (hflight : s.handOver.flight = some (port, packet))
    (hnext : (s.handOver.redirected api now port packet).Inv)
    (ht : t = { s with
      handOver := s.handOver.redirected api now port packet
      redirected := if s.begins api now port packet then
          s.redirected ++ [(connectionOf packet, port)]
        else s.redirected })
    (hlater : ∀ r, Matched api upstreamOf s r → Matched api upstreamOf t r) :
    t.Inv api upstreamOf := by
  subst ht
  refine ⟨hnext, ?_, fun _ _ hnone => (nomatch hnone), fun r hr => hlater r ?_,
    fun r hr => hlater r (h.served r hr), h.given, h.runsOn⟩
  · dsimp only
    rw [pending_redirected]
    split
    · rw [List.map_append]
      exact h.pending.append_right _
    · exact h.pending
  · dsimp only at hr
    split at hr
    · next hbegins =>
      have hsyn : packet.isSyn = true := (Bool.and_eq_true_iff.mp hbegins).1
      rcases List.mem_append.mp hr with hr | hr
      · exact h.redirected r hr
      · rw [List.mem_singleton.mp hr]
        exact h.flight port packet hflight hsyn
    · exact h.redirected r hr

theorem Inv.mem_pending (h : s.Inv api upstreamOf) (hmem : (c, port) ∈ s.redirected) :
    c ∈ s.handOver.pending :=
  h.pending.subset (List.mem_map_of_mem hmem)

/-- The server of the port accepts the connection. -/
theorem Inv.accept (h : s.Inv api upstreamOf) (hmem : (c, port) ∈ s.redirected)
    (ht : t = { s with
      handOver := s.handOver.accepted (upstreamOf port) c
      redirected := s.redirected.erase (c, port)
      served := s.served ++ [(c, port)] })
    (hlater : ∀ r, Matched api upstreamOf s r → Matched api upstreamOf t r) :
    t.Inv api upstreamOf := by
  subst ht
  have hpending := h.mem_pending hmem
  have heq := HandOver.accepted_eq (u := upstreamOf port) (h.handOver.isRecorded c hpending)
  refine ⟨h.handOver.accepted hpending, ?_, fun port packet hflight hsyn => hlater _ ?_,
    fun r hr => hlater r ?_, fun r hr => hlater r ?_, ?_,
    fun i x hfind => (h.runsOn i x hfind).snoc⟩
  · dsimp only
    rw [heq]
    -- what waited with the connection waits on
    have hcons : (s.redirected.map Prod.fst).Perm
        (c :: (s.redirected.erase (c, port)).map Prod.fst) :=
      (List.perm_cons_erase hmem).map Prod.fst
    have herase := (hcons.symm.trans h.pending).erase c
    rw [List.erase_cons_head] at herase
    exact herase
  · dsimp only at hflight
    rw [heq] at hflight
    exact h.flight port packet hflight hsyn
  · exact h.redirected r (List.mem_of_mem_erase hr)
  · rcases List.mem_append.mp hr with hr | hr
    · exact h.served r hr
    · rw [List.mem_singleton.mp hr]
      exact h.redirected _ hmem
  · dsimp only
    rw [heq, h.given, List.map_append]
    rfl

/-- A step that begins and accepts no connection changes nothing of them; one that records a packet
has matched its process. -/
theorem other_kept {h next : HandOver} {e : HandOver.Event} (hother : IsOther e)
    (hstep : HandOver.Step api h e next) : next.pending = h.pending ∧ next.given = h.given ∧
      (next.flight = h.flight ∨ ∃ o packet port, next.flight = some (port, packet) ∧
        h.router.tcpPortFor o packet = some port) := by
  cases hstep with
  | record hflight hip hport => exact ⟨rfl, rfl, .inr ⟨_, _, _, rfl, hport⟩⟩
  | redirect | accept => exact absurd hother not_false
  | packet | cleanup | configure => exact ⟨rfl, rfl, .inl rfl⟩

/-- Any other step of the threads. -/
theorem Inv.other {e : HandOver.Event} {next : HandOver} (h : s.Inv api upstreamOf)
    (hreach : (undisturbed api upstreamOf).Reachable s) (hother : IsOther e)
    (hstep : HandOver.Step api s.handOver e next) (hnext : next.Inv)
    (hlater : ∀ r, Matched api upstreamOf s r →
      Matched api upstreamOf { s with handOver := next } r) :
    Inv api upstreamOf { s with handOver := next } := by
  obtain ⟨hpending, hgiven, hflight⟩ := other_kept hother hstep
  refine ⟨hnext, ?_, fun port packet hsome hsyn => hlater _ ?_,
    fun r hr => hlater r (h.redirected r hr), fun r hr => hlater r (h.served r hr), ?_, h.runsOn⟩
  · dsimp only
    rw [hpending]
    exact h.pending
  · rcases hflight with hsame | ⟨o, packet', port', hnew, hport⟩
    · exact h.flight port packet (hsame.symm.trans hsome) hsyn
    · cases hnew.symm.trans hsome
      exact ⟨s, o, packet, hreach, .refl s, hsyn, rfl, hport⟩
  · dsimp only
    rw [hgiven]
    exact h.given

/-- A connection that runs on its context takes the place of the one before. -/
theorem Inv.insert (h : s.Inv api upstreamOf) (hruns : RunsOn upstreamOf s.served i x)
    (hlater : ∀ r, Matched api upstreamOf s r →
      Matched api upstreamOf { s with started := s.started.insert i x } r) :
    Inv api upstreamOf { s with started := s.started.insert i x } := by
  refine ⟨h.handOver, h.pending,
    fun port packet hflight hsyn => hlater _ (h.flight port packet hflight hsyn),
    fun r hr => hlater r (h.redirected r hr), fun r hr => hlater r (h.served r hr), h.given,
    fun j y hfind => ?_⟩
  by_cases hj : j = i
  · subst hj
    rw [Table.find_insert_self] at hfind
    cases hfind
    exact hruns
  · rw [Table.find_insert_of_ne hj] at hfind
    exact h.runsOn j y hfind

/-- A step that disturbs no hand-over keeps the invariant. -/
theorem Inv.step (h : s.Inv api upstreamOf) (hreach : (undisturbed api upstreamOf).Reachable s)
    (hquiet : s.Undisturbed e) (hstep : Step api upstreamOf s e t) : t.Inv api upstreamOf := by
  have hlater := fun r (hr : Matched api upstreamOf s r) => hr.later hquiet hstep
  cases hstep with
  | redirect hflight =>
    exact h.redirect hflight (h.handOver.step (e := .redirect _) hquiet (.redirect hflight)) rfl
      hlater
  | accept hmem => exact h.accept hmem rfl hlater
  | other hother hnext => exact h.other hreach hother hnext (h.handOver.step hquiet hnext) hlater
  | start hentry hnone hinit =>
    rw [h.given, List.getElem?_map] at hentry
    obtain ⟨r, hr, hentry⟩ := Option.map_eq_some_iff.mp hentry
    cases hentry
    exact h.insert ⟨r, _, _, hr, .init hinit⟩ hlater
  | tunnel hfind hnext =>
    obtain ⟨r, localSocket, remoteSocket, hr, hrun⟩ := h.runsOn _ _ hfind
    exact h.insert ⟨r, localSocket, remoteSocket, hr, hrun.snoc hnext⟩ hlater

theorem inv_of_reachable (h : (undisturbed api upstreamOf).Reachable s) : s.Inv api upstreamOf := by
  refine (h.restrict_invariant (I := fun s => (undisturbed api upstreamOf).Reachable s ∧
    s.Inv api upstreamOf) ?_ ?_).2
  · rintro s rfl
    exact ⟨.init rfl, Inv.init⟩
  · intro s e t hs hquiet hstep
    exact ⟨hs.1.restrict_snoc (M := system api upstreamOf) hstep hquiet,
      hs.2.step hs.1 hquiet hstep⟩

/-! ## Every run -/

/-- The CONNECT request is the last one a connection was asked for with. -/
theorem connectTo_suffix {ctx : NegotiateContext} {replies : List (List UInt8)} {sent : List UInt8}
    (h : TcpTunnel.Granted ctx replies sent) : TcpTunnel.connectTo ctx <:+ sent := by
  cases h with
  | plain | password => exact List.suffix_append _ _

/-- In every run in which no SYN disturbs a hand-over, whatever the interleaving of the packet
thread, the servers and the completions of their connections, and whichever calls are refused or
fail: a started connection is one that was accepted by the server of a port its process was matched
with earlier, and was given the credentials of that server's proxy; the bytes passed on to a peer
are the first ones received from the other; and a byte passes in either direction only after the
proxy's replies granted the connection it was asked for with these credentials and, last, a CONNECT
request for the destination the application had sent its SYN to. -/
theorem bytes_reach_destination (h : (undisturbed api upstreamOf).Reachable s)
    (hstarted : s.started.find i = some x) :
    ∃ c port, s.served[i]? = some (c, port) ∧ Matched api upstreamOf s (c, port) ∧
      s.handOver.given[i]? =
        some (c, some ((upstreamOf port).negotiateContext c.ip c.port)) ∧
      (∀ b, x.sent b <+: x.received b) ∧
      (∀ b, x.received b ≠ [] →
        TcpTunnel.Granted ((upstreamOf port).negotiateContext c.ip c.port) x.replies
          x.socket.sent ∧
        [5, 1, 0, 1] ++ c.ip.toBytes ++ beBytes c.port <:+ x.socket.sent) := by
  have hinv := inv_of_reachable h
  obtain ⟨⟨c, port⟩, localSocket, remoteSocket, hserved, hreach⟩ := hinv.runsOn i x hstarted
  have hphase := TcpTunnel.phase_of_reachable hreach
  have hgiven : s.handOver.given[i]? = some (entryOf upstreamOf (c, port)) := by
    rw [hinv.given, List.getElem?_map, hserved]
    rfl
  refine ⟨c, port, hserved, hinv.served _ (List.mem_of_getElem? hserved), hgiven,
    hphase.sent_prefix, fun b hreceived => ?_⟩
  have hgranted := hphase.granted (.inl hreceived)
  exact ⟨hgranted, connectTo_suffix hgranted⟩

/-! ## A run -/

/-- A run of a connection, once it is started. -/
theorem reachable_of_tunnel {ctx : NegotiateContext} {localSocket remoteSocket : Socket}
    (hs : (undisturbed api upstreamOf).Reachable s)
    (hentry : s.handOver.given[i]? = some (c, some ctx)) (hnew : s.started.find i = none)
    (hreach : (TcpTunnel.system localSocket remoteSocket ctx).Reachable x) :
    (undisturbed api upstreamOf).Reachable { s with started := s.started.insert i x } := by
  refine hreach.invariant (I := fun x =>
    (undisturbed api upstreamOf).Reachable { s with started := s.started.insert i x }) ?_ ?_
  · intro x hinit
    exact hs.restrict_snoc (M := system api upstreamOf) (Step.start hentry hnew hinit) trivial
  · intro x e y hx hstep
    have hinsert : (s.started.insert i x).insert i y = s.started.insert i y :=
      Function.update_idem ..
    have hnext := hx.restrict_snoc (M := system api upstreamOf)
      (Step.tunnel (i := i) Table.find_insert_self hstep) trivial
    rw [hinsert] at hnext
    exact hnext

open HandOver HandOver.SynRun SocksLocalRouter.ReplyRun

/-- The application's SYN is redirected to the only server, and the connection accepted. -/
def acceptedSyn : ProxiedConnections where
  handOver := afterAccept
  served := [(connectionOf syn, 1080)]

theorem acceptedSyn_reachable : (undisturbed .plain fun _ => upstream).Reachable acceptedSyn := by
  have hconfigured : (undisturbed .plain fun _ => upstream).Reachable
      { handOver := configuredOver } :=
    (System.Reachable.init rfl).restrict_snoc (M := system .plain fun _ => upstream)
      (Step.other (s := {}) (e := .configure _ _) trivial .configure) trivial
  have hrecord : (undisturbed .plain fun _ => upstream).Reachable { handOver := afterRecord } :=
    hconfigured.restrict_snoc (M := system .plain fun _ => upstream)
      (Step.other (e := .record observation syn) trivial (.record rfl (by decide) (by decide)))
      (fun _ _ hc => nomatch hc)
  have hredirect : (undisturbed .plain fun _ => upstream).Reachable
      { handOver := afterRedirect, redirected := [(connectionOf syn, 1080)] } := by
    refine hrecord.restrict_snoc (M := system .plain fun _ => upstream) (Step.redirect rfl) ?_
    rintro port packet hflight hsyn -
    cases hflight
    refine ⟨fun _ hc => (nomatch hc), ?_⟩
    rw [destinationOf, afterRecord, recorded_tcpMapper hsyn, Table.find_insert_self]
    rfl
  have haccept := hredirect.restrict_snoc (M := system .plain fun _ => upstream)
    (@Step.accept _ _ _ (connectionOf syn) 1080 (List.mem_singleton_self _)) trivial
  rw [List.erase_cons_head] at haccept
  exact haccept

/-- The application's first byte, after its connection was asked for. -/
theorem bytes_reach_destination_application :
    ∃ s x, (undisturbed .plain fun _ => upstream).Reachable s ∧ s.started.find 0 = some x ∧
      x.received true = [7] ∧ x.sent true <+: [7] ∧
      Matched .plain (fun _ => upstream) s (connectionOf syn, 1080) ∧
      [5, 1, 0, 1] ++ (connectionOf syn).ip.toBytes ++ beBytes (connectionOf syn).port <:+
        x.socket.sent := by
  have hgiven : acceptedSyn.handOver.given[0]? =
      some (connectionOf syn, some TcpTunnel.plainContext) := by
    rw [acceptedSyn, afterAccept_given]
    rfl
  obtain ⟨x, hreach, hreceived, -⟩ := TcpTunnel.firstByte_reachable
  have hrun := reachable_of_tunnel acceptedSyn_reachable hgiven rfl hreach
  obtain ⟨c, port, hserved, hmatched, -, hsent, hrequest⟩ :=
    bytes_reach_destination hrun Table.find_insert_self
  obtain ⟨rfl, rfl⟩ := Prod.mk.inj (Option.some.inj hserved)
  obtain ⟨-, hsuffix⟩ := hrequest true (by rw [hreceived]; decide)
  have hkept := hsent true
  rw [hreceived] at hkept
  exact ⟨_, x, hrun, Table.find_insert_self, hreceived, hkept, hmatched, hsuffix⟩

end ProxiedConnections

end CutieProxy
