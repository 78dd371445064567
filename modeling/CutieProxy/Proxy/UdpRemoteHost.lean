import CutieProxy.Proxy.Socks5Associate
import CutieProxy.Proxy.Socks5LocalUdpProxyServer
import CutieProxy.Proxy.SocksLocalRouter

/-!
# `connect_to_remote_host` of the UDP server

For a datagram of a port without a proxy socket the server connects to the upstream proxy, asks it
for a relay port and connects a UDP socket to that port. Each of these steps may fail, and the
function then closes the sockets it has opened, except where the UDP socket cannot be created: the
connection to the upstream proxy stays open (`leaves_tcp_open`). The look-up that comes first takes
the record of the port out of `udp_mapper_`, and no way out puts it back. `failure_undone_iff` says
when a call that returns false leaves things as they were.

`connectToRemoteHost_refines` says that the function is that of `Socks5LocalUdpProxyServer`, where
the steps are one answer.
-/

namespace CutieProxy

open SocksLocalRouter (Upstream)

/-- The sockets the function opens. -/
inductive HostSocket where
  | tcp
  | udp
  deriving DecidableEq, Repr

/-- Which of the calls `WSASocket`, `bind` and `connect` succeed for a socket. -/
structure SocketSteps where
  created : Bool
  bound : Bool
  connected : Bool

/-- What the calls of the function return. -/
structure HostCalls where
  tcp : SocketSteps
  /-- The calls of the ASSOCIATE dialogue. -/
  dialogue : SocketCalls
  udp : SocketSteps

/-- A call of the function: what it changes, and the sockets it has opened and closed. -/
structure HostAttempt where
  server : Socks5LocalUdpProxyServer
  router : SocksLocalRouter
  opened : List HostSocket := []
  closed : List HostSocket := []

namespace HostAttempt

/-- `WSASocket`, where it succeeds. -/
def wsaSocket (k : HostSocket) (s : HostAttempt) : HostAttempt :=
  { s with opened := s.opened ++ [k] }

/-- `closesocket`. -/
def closesocket (k : HostSocket) (s : HostAttempt) : HostAttempt :=
  { s with closed := s.closed ++ [k] }

/-- `connect_to_socks5_proxy`: whether it returns a socket. -/
def connectToSocks5Proxy (steps : SocketSteps) (s : HostAttempt) : Bool × HostAttempt :=
  if !steps.created then (false, s)
  else
    let s := s.wsaSocket .tcp
    if !steps.bound then (false, s.closesocket .tcp)
    else if !steps.connected then (false, s.closesocket .tcp)
    else (true, s)

/-- `proxy_sockets_.emplace` and what follows it. A new object that is not entered is destroyed, and
closes its sockets. -/
def emplace (a : UdpAnswers) (s : HostAttempt) : Bool × HostAttempt :=
  match s.server.proxySockets.find s.server.recvFrom with
  | none =>
    let k := s.server.socketCount
    let server := { s.server with
      socketCount := k + 1
      socket := Function.update s.server.socket k ⟨⟨a.now, false⟩, s.server.recvFrom⟩
      proxySockets := s.server.proxySockets.insert s.server.recvFrom k
      proxySocketPtr := some k }
    (true, { s with server := server.wsaRecv a.start k })
  | some _ =>
    let s := (s.closesocket .udp).closesocket .tcp
    (false, (s.closesocket .udp).closesocket .tcp)

/-- The end of `connect_to_remote_host`, from the UDP socket on. -/
def connectUdpSocket (a : UdpAnswers) (steps : SocketSteps) (s : HostAttempt) :
    Bool × HostAttempt :=
  if !steps.created then (false, s)
  else
    let s := s.wsaSocket .udp
    if !steps.bound then (false, (s.closesocket .udp).closesocket .tcp)
    else if !steps.connected then (false, (s.closesocket .udp).closesocket .tcp)
    else s.emplace a

/-- `connect_to_remote_host` from the connection to the upstream proxy on. The dialogue dereferences
the negotiate context. -/
def associateAndConnect (a : UdpAnswers) (calls : HostCalls)
    (negotiateCtx : Option NegotiateContext) (s : HostAttempt) :
    Except Abort (Bool × HostAttempt) :=
  match negotiateCtx with
  | none => .error .nullPointer
  | some negotiateCtx => do
    match ← associateToSocks5Proxy negotiateCtx calls.dialogue with
    | (none, _) => return (false, s.closesocket .tcp)
    | (some _, _) => return s.connectUdpSocket a calls.udp

/-- `connect_to_remote_host`. -/
def connectToRemoteHost (u : Upstream) (address : IpAddressV4) (a : UdpAnswers) (calls : HostCalls)
    (server : Socks5LocalUdpProxyServer) (router : SocksLocalRouter) :
    Except Abort (Bool × HostAttempt) :=
  match server.proxySockets.find server.recvFrom with
  | some k => .ok (true, { server := { server with proxySocketPtr := some k }, router })
  | none =>
    let (remote, router) := router.queryRemotePeerUdp u address server.recvFrom
    match connectToSocks5Proxy calls.tcp { server, router } with
    | (false, s) => .ok (false, s)
    | (true, s) => s.associateAndConnect a calls remote.2.2

/-! ## What a failed call leaves -/

/-- Every socket that was opened has been closed exactly once. -/
def ClosedOnce (s : HostAttempt) : Prop := ∀ k ∈ s.opened, s.closed.count k = 1

/-- A call that returns false has closed what it opened, entered no proxy socket and kept the record
of the port. -/
structure Undone (server : Socks5LocalUdpProxyServer) (router : SocksLocalRouter)
    (after : HostAttempt) : Prop where
  closedOnce : after.ClosedOnce
  proxySockets : after.server.proxySockets = server.proxySockets
  pending : (router.udpMapper.find server.recvFrom).isSome = true →
    (after.router.udpMapper.find server.recvFrom).isSome = true

end HostAttempt

/-- A socket is created, bound and connected. -/
structure SocketSteps.Succeed (steps : SocketSteps) : Prop where
  created : steps.created = true
  bound : steps.bound = true
  connected : steps.connected = true

/-- No step for a port that is recorded fails: both sockets are created, bound and connected, and
the dialogue between them names a port, unless it ends the program. -/
structure NoStepFails (u : Upstream) (calls : HostCalls) : Prop where
  tcp : calls.tcp.Succeed
  associated : ∀ sent,
    associateToSocks5Proxy (u.negotiateContext default 0) calls.dialogue ≠ .ok (none, sent)
  udp : ∀ port sent,
    associateToSocks5Proxy (u.negotiateContext default 0) calls.dialogue = .ok (some port, sent) →
      calls.udp.Succeed

/-- The upstream proxy names a port, and no UDP socket can be created. -/
structure NoUdpSocket (u : Upstream) (calls : HostCalls) : Prop where
  tcp : calls.tcp.Succeed
  associated : ∃ port sent,
    associateToSocks5Proxy (u.negotiateContext default 0) calls.dialogue = .ok (some port, sent)
  notCreated : calls.udp.created = false

/-- Where no step fails, a UDP socket is created. -/
theorem NoStepFails.not_noUdpSocket {u : Upstream} {calls : HostCalls} (h : NoStepFails u calls) :
    ¬ NoUdpSocket u calls := by
  intro hnone
  obtain ⟨port, sent, hport⟩ := hnone.associated
  cases hnone.notCreated.symm.trans (h.udp port sent hport).created

namespace HostAttempt

/-- The sockets a failed call for a recorded port has opened and closed. -/
def Leaves (u : Upstream) (calls : HostCalls) (opened closed : List HostSocket) : Prop :=
  (¬ NoUdpSocket u calls ∧ ∀ k ∈ opened, closed.count k = 1) ∨
    (NoUdpSocket u calls ∧ opened = [.tcp] ∧ closed = [])

variable {u : Upstream} {address : IpAddressV4} {a : UdpAnswers} {calls : HostCalls}
  {server : Socks5LocalUdpProxyServer} {router : SocksLocalRouter} {s after : HostAttempt}
  {steps : SocketSteps}

/-! ## The steps -/

theorem connectToSocks5Proxy_cases (steps : SocketSteps) (s : HostAttempt) :
    (steps.Succeed ∧ s.connectToSocks5Proxy steps = (true, s.wsaSocket .tcp)) ∨
    (¬ steps.Succeed ∧ (s.connectToSocks5Proxy steps = (false, s) ∨
      s.connectToSocks5Proxy steps = (false, (s.wsaSocket .tcp).closesocket .tcp))) := by
  rcases steps with ⟨created, bound, connected⟩
  cases created with
  | false => exact Or.inr ⟨fun h => Bool.noConfusion h.created, Or.inl rfl⟩
  | true =>
    cases bound with
    | false => exact Or.inr ⟨fun h => Bool.noConfusion h.bound, Or.inr rfl⟩
    | true =>
      cases connected with
      | false => exact Or.inr ⟨fun h => Bool.noConfusion h.connected, Or.inr rfl⟩
      | true => exact Or.inl ⟨⟨rfl, rfl, rfl⟩, rfl⟩

/-- A port without a proxy socket gets one. -/
theorem emplace_of_new (h : s.server.proxySockets.find s.server.recvFrom = none) :
    ∃ after, s.emplace a = (true, after) ∧
      s.server.connectToRemoteHost { a with associated := true } = (true, after.server) := by
  unfold emplace Socks5LocalUdpProxyServer.connectToRemoteHost
  rw [h]
  exact ⟨_, rfl, rfl⟩

theorem connectUdpSocket_cases (a : UdpAnswers) (steps : SocketSteps) (s : HostAttempt) :
    (steps.Succeed ∧ s.connectUdpSocket a steps = (s.wsaSocket .udp).emplace a) ∨
    (steps.created = false ∧ s.connectUdpSocket a steps = (false, s)) ∨
    (steps.created = true ∧ ¬ steps.Succeed ∧ s.connectUdpSocket a steps =
      (false, ((s.wsaSocket .udp).closesocket .udp).closesocket .tcp)) := by
  rcases steps with ⟨created, bound, connected⟩
  cases created with
  | false => exact Or.inr (Or.inl ⟨rfl, rfl⟩)
  | true =>
    cases bound with
    | false => exact Or.inr (Or.inr ⟨rfl, fun h => Bool.noConfusion h.bound, rfl⟩)
    | true =>
      cases connected with
      | false => exact Or.inr (Or.inr ⟨rfl, fun h => Bool.noConfusion h.connected, rfl⟩)
      | true => exact Or.inl ⟨⟨rfl, rfl, rfl⟩, rfl⟩

/-! ## A call -/

/-- A port with a proxy socket needs no steps. -/
theorem connectToRemoteHost_held {k : Nat}
    (hfind : server.proxySockets.find server.recvFrom = some k) :
    connectToRemoteHost u address a calls server router =
      .ok (true, { server := { server with proxySocketPtr := some k }, router }) := by
  rw [connectToRemoteHost, hfind]

/-- For a port that is not recorded the connection is tried all the same, and a connection ends the
program. -/
theorem connectToRemoteHost_unrecorded (u : Upstream) (address : IpAddressV4) (a : UdpAnswers)
    (calls : HostCalls) (hfind : server.proxySockets.find server.recvFrom = none)
    (hrecord : router.udpMapper.find server.recvFrom = none) :
    connectToRemoteHost u address a calls server router = .error .nullPointer ∨
      ∃ opened closed, (∀ k ∈ opened, List.count k closed = 1) ∧
        connectToRemoteHost u address a calls server router =
          .ok (false, { server, router, opened, closed }) := by
  unfold connectToRemoteHost
  rw [hfind, SocksLocalRouter.queryRemotePeerUdp_unknown hrecord]
  dsimp only
  obtain ⟨-, heq⟩ | ⟨-, heq | heq⟩ :=
    connectToSocks5Proxy_cases calls.tcp { server, router }
  · rw [heq]
    exact Or.inl rfl
  · rw [heq]
    exact Or.inr ⟨[], [], nofun, rfl⟩
  · rw [heq]
    exact Or.inr ⟨[.tcp], [.tcp], by simp, rfl⟩

/-- With a connection to the upstream proxy and a context for it the call returns true, or ends the
program, when no step fails, and otherwise returns false. -/
theorem associateAndConnect_cases (u : Upstream) (a : UdpAnswers) (calls : HostCalls)
    (htcp : calls.tcp.Succeed) (hfind : s.server.proxySockets.find s.server.recvFrom = none)
    (hopened : s.opened = [.tcp]) (hclosed : s.closed = []) :
    (NoStepFails u calls ∧
      ((∃ e, s.associateAndConnect a calls (some (u.negotiateContext default 0)) = .error e) ∨
        ∃ after, s.associateAndConnect a calls (some (u.negotiateContext default 0)) =
            .ok (true, after) ∧
          s.server.connectToRemoteHost { a with associated := true } = (true, after.server))) ∨
    (¬ NoStepFails u calls ∧ ∃ opened closed, Leaves u calls opened closed ∧
      s.associateAndConnect a calls (some (u.negotiateContext default 0)) =
        .ok (false, { s with opened, closed })) := by
  unfold associateAndConnect
  dsimp only
  cases hdialogue : associateToSocks5Proxy (u.negotiateContext default 0) calls.dialogue with
  | error e =>
    refine Or.inl ⟨⟨htcp, fun sent h => ?_, fun port sent h => ?_⟩, Or.inl ⟨e, rfl⟩⟩
    · cases hdialogue.symm.trans h
    · cases hdialogue.symm.trans h
  | ok answer =>
    rcases answer with ⟨port, sent⟩
    rcases s with ⟨server, router, opened, closed⟩
    subst hopened hclosed
    cases port with
    | none =>
      refine Or.inr ⟨fun h => h.associated sent hdialogue, [.tcp], [.tcp], Or.inl ⟨?_, ?_⟩, rfl⟩
      · rintro ⟨-, ⟨port, sent, h⟩, -⟩
        cases hdialogue.symm.trans h
      · simp
    | some port =>
      obtain ⟨hudp, hend⟩ | ⟨hcreated, hend⟩ | ⟨hcreated, hudp, hend⟩ :=
        connectUdpSocket_cases a calls.udp ⟨server, router, [.tcp], []⟩
      · obtain ⟨after, hnew, hserver⟩ := emplace_of_new (a := a)
          (s := wsaSocket .udp ⟨server, router, [.tcp], []⟩) hfind
        refine Or.inl ⟨⟨htcp, fun sent h => ?_, fun port sent h => hudp⟩,
          Or.inr ⟨after, congrArg Except.ok (hend.trans hnew), hserver⟩⟩
        cases hdialogue.symm.trans h
      · refine Or.inr ⟨fun h => ?_, [.tcp], [],
          Or.inr ⟨⟨htcp, ⟨port, sent, hdialogue⟩, hcreated⟩, rfl, rfl⟩, congrArg Except.ok hend⟩
        cases hcreated.symm.trans (h.udp port sent hdialogue).created
      · refine Or.inr ⟨fun h => hudp (h.udp port sent hdialogue), [.tcp, .udp], [.udp, .tcp],
          Or.inl ⟨fun h => ?_, ?_⟩, congrArg Except.ok hend⟩
        · cases hcreated.symm.trans h.notCreated
        · simp

/-- For a recorded port the call returns true, or ends the program, when no step fails, and
otherwise returns false without the record. -/
theorem connectToRemoteHost_recorded (u : Upstream) (address : IpAddressV4) (a : UdpAnswers)
    (calls : HostCalls) (hfind : server.proxySockets.find server.recvFrom = none)
    (hrecord : (router.udpMapper.find server.recvFrom).isSome = true) :
    (NoStepFails u calls ∧
      ((∃ e, connectToRemoteHost u address a calls server router = .error e) ∨
        ∃ after, connectToRemoteHost u address a calls server router = .ok (true, after) ∧
          server.connectToRemoteHost { a with associated := true } = (true, after.server))) ∨
    (¬ NoStepFails u calls ∧ ∃ opened closed, Leaves u calls opened closed ∧
      connectToRemoteHost u address a calls server router = .ok (false, {
        server
        router := { router with udpMapper := router.udpMapper.erase server.recvFrom }
        opened
        closed })) := by
  unfold connectToRemoteHost
  rw [hfind, SocksLocalRouter.queryRemotePeerUdp_known hrecord]
  dsimp only
  obtain ⟨htcp, heq⟩ | ⟨htcp, heq⟩ := connectToSocks5Proxy_cases calls.tcp
    { server, router := { router with udpMapper := router.udpMapper.erase server.recvFrom } }
  · rw [heq]
    exact associateAndConnect_cases u a calls htcp hfind rfl rfl
  · refine Or.inr ⟨fun h => htcp h.tcp, ?_⟩
    rcases heq with heq | heq
    · rw [heq]
      exact ⟨[], [], Or.inl ⟨fun h => htcp h.tcp, nofun⟩, rfl⟩
    · rw [heq]
      exact ⟨[.tcp], [.tcp], Or.inl ⟨fun h => htcp h.tcp, by simp⟩, rfl⟩

/-- The function does what that of the server does with its steps as one answer. -/
theorem connectToRemoteHost_refines {result : Bool}
    (h : connectToRemoteHost u address a calls server router = .ok (result, after)) :
    server.connectToRemoteHost { a with associated := result } = (result, after.server) := by
  unfold Socks5LocalUdpProxyServer.connectToRemoteHost
  cases hfind : server.proxySockets.find server.recvFrom with
  | some k =>
    cases (connectToRemoteHost_held hfind).symm.trans h
    rfl
  | none =>
    cases hrecord : router.udpMapper.find server.recvFrom with
    | none =>
      obtain heq | ⟨opened, closed, -, heq⟩ := connectToRemoteHost_unrecorded u
        address a calls hfind hrecord
      · cases heq.symm.trans h
      · cases heq.symm.trans h
        rfl
    | some record =>
      obtain ⟨-, ⟨e, heq⟩ | ⟨after, heq, hserver⟩⟩ | ⟨-, opened, closed, -, heq⟩ :=
        connectToRemoteHost_recorded u address a calls hfind (Option.isSome_of_eq_some hrecord)
      · cases heq.symm.trans h
      · cases heq.symm.trans h
        unfold Socks5LocalUdpProxyServer.connectToRemoteHost at hserver
        rw [hfind] at hserver
        exact hserver
      · cases heq.symm.trans h
        rfl

/-- A call that returns false is one for a port without a proxy socket, and changes nothing of the
server: the port is not recorded and the sockets are closed, or it was and a step failed. -/
theorem false_cases
    (h : connectToRemoteHost u address a calls server router = .ok (false, after)) :
    server.proxySockets.find server.recvFrom = none ∧ after.server = server ∧
      ((router.udpMapper.find server.recvFrom = none ∧ after.router = router ∧ after.ClosedOnce) ∨
        ((router.udpMapper.find server.recvFrom).isSome = true ∧ ¬ NoStepFails u calls ∧
          after.router.udpMapper = router.udpMapper.erase server.recvFrom ∧
          Leaves u calls after.opened after.closed)) := by
  cases hfind : server.proxySockets.find server.recvFrom with
  | some k => cases (connectToRemoteHost_held hfind).symm.trans h
  | none =>
    cases hrecord : router.udpMapper.find server.recvFrom with
    | none =>
      obtain heq | ⟨opened, closed, hclosed, heq⟩ := connectToRemoteHost_unrecorded u
        address a calls hfind hrecord
      · cases heq.symm.trans h
      · cases heq.symm.trans h
        exact ⟨rfl, rfl, Or.inl ⟨rfl, rfl, hclosed⟩⟩
    | some record =>
      obtain ⟨-, ⟨e, heq⟩ | ⟨after, heq, -⟩⟩ | ⟨hfails, opened, closed, hleaves, heq⟩ :=
        connectToRemoteHost_recorded u address a calls hfind (Option.isSome_of_eq_some hrecord)
      · cases heq.symm.trans h
      · cases heq.symm.trans h
      · cases heq.symm.trans h
        exact ⟨rfl, rfl, Or.inr ⟨rfl, hfails, rfl, hleaves⟩⟩

/-- A step that fails for a recorded port makes the call return false. -/
theorem returns_false (u : Upstream) (address : IpAddressV4) (a : UdpAnswers) (calls : HostCalls)
    (hfind : ¬ server.proxySockets.find server.recvFrom ≠ none)
    (hrecord : router.udpMapper.find server.recvFrom ≠ none) (hfails : ¬ NoStepFails u calls) :
    ∃ after, connectToRemoteHost u address a calls server router = .ok (false, after) := by
  obtain ⟨hfine, -⟩ | ⟨-, opened, closed, -, heq⟩ := connectToRemoteHost_recorded u address a calls
    (not_not.mp hfind) (Option.isSome_iff_ne_none.mpr hrecord)
  · exact absurd hfine hfails
  · exact ⟨_, heq⟩

/-! ## When a failed call is undone -/

/-- A failed call has closed every socket it opened, once, unless a recorded port has come as far
as the UDP socket and none could be created. -/
theorem closedOnce_iff :
    (∀ after, connectToRemoteHost u address a calls server router = .ok (false, after) →
        after.ClosedOnce) ↔
      server.proxySockets.find server.recvFrom ≠ none ∨
        router.udpMapper.find server.recvFrom = none ∨ ¬ NoUdpSocket u calls := by
  constructor
  · intro h
    refine or_iff_not_imp_left.mpr fun hfind => or_iff_not_imp_left.mpr fun hrecord hsocket => ?_
    obtain ⟨after, hfalse⟩ := returns_false u address a calls hfind hrecord
      fun hfine => hfine.not_noUdpSocket hsocket
    have hclosed := h after hfalse
    obtain ⟨-, -, ⟨hnone, -⟩ | ⟨-, -, -, ⟨hnot, -⟩ | ⟨-, hopened, hleft⟩⟩⟩ := false_cases hfalse
    · exact hrecord hnone
    · exact hnot hsocket
    · have hcount := hclosed .tcp (hopened ▸ List.mem_cons_self)
      rw [hleft] at hcount
      cases hcount
  · intro h after hfalse
    obtain ⟨hfind, -, ⟨-, -, hclosed⟩ | ⟨hsome, -, -, ⟨-, hclosed⟩ | ⟨hsocket, -⟩⟩⟩ :=
      false_cases hfalse
    · exact hclosed
    · exact hclosed
    · rcases h with hheld | hnone | hnot
      · exact absurd hfind hheld
      · exact absurd hnone (Option.isSome_iff_ne_none.mp hsome)
      · exact absurd hsocket hnot

/-- The record of the port is still there after a failed call exactly when there is a proxy socket
for it, there was no record, or no step fails. -/
theorem pending_iff :
    (∀ after, connectToRemoteHost u address a calls server router = .ok (false, after) →
        (router.udpMapper.find server.recvFrom).isSome = true →
          (after.router.udpMapper.find server.recvFrom).isSome = true) ↔
      server.proxySockets.find server.recvFrom ≠ none ∨
        router.udpMapper.find server.recvFrom = none ∨ NoStepFails u calls := by
  constructor
  · intro h
    refine or_iff_not_imp_left.mpr fun hfind => or_iff_not_imp_left.mpr fun hrecord => ?_
    refine not_not.mp fun hfails => ?_
    obtain ⟨after, hfalse⟩ := returns_false u address a calls hfind hrecord hfails
    have hkept := h after hfalse (Option.isSome_iff_ne_none.mpr hrecord)
    obtain ⟨-, -, ⟨hnone, -⟩ | ⟨-, -, htaken, -⟩⟩ := false_cases hfalse
    · exact hrecord hnone
    · -- the look-up took the record
      rw [htaken, Table.find_erase_self] at hkept
      cases hkept
  · intro h after hfalse hsome
    obtain ⟨hfind, -, ⟨hnone, -⟩ | ⟨-, hfails, -⟩⟩ := false_cases hfalse
    · exact absurd hnone (Option.isSome_iff_ne_none.mp hsome)
    · rcases h with hheld | hnone | hfine
      · exact absurd hfind hheld
      · exact absurd hnone (Option.isSome_iff_ne_none.mp hsome)
      · exact absurd hfine hfails

/-- A call that returns false is undone exactly when there is a proxy socket for the port, there was
no record of it, or no step fails. -/
theorem failure_undone_iff (u : Upstream) (address : IpAddressV4) (a : UdpAnswers)
    (calls : HostCalls) (server : Socks5LocalUdpProxyServer) (router : SocksLocalRouter) :
    (∀ after, connectToRemoteHost u address a calls server router = .ok (false, after) →
        Undone server router after) ↔
      server.proxySockets.find server.recvFrom ≠ none ∨
        router.udpMapper.find server.recvFrom = none ∨ NoStepFails u calls := by
  constructor
  · intro h
    exact pending_iff.mp fun after hfalse => (h after hfalse).pending
  · intro h after hfalse
    have hsocket := h.imp_right (Or.imp_right NoStepFails.not_noUdpSocket)
    have hserver := (false_cases hfalse).2.1
    exact ⟨closedOnce_iff.mpr hsocket after hfalse, by rw [hserver], pending_iff.mpr h after hfalse⟩

/-- A dialogue that names port 1080. -/
def naming1080 : SocketCalls where
  send _ := true
  recv call := if call = 0 then some [5, 0] else some [5, 0, 0, 1, 0, 0, 0, 0, 4, 56]

/-- Only the UDP socket is not created. -/
def noUdpSocket : HostCalls where
  tcp := ⟨true, true, true⟩
  dialogue := naming1080
  udp := ⟨false, true, true⟩

/-- The first datagram of port 5000 comes while no UDP socket can be created, and the connection to
the upstream proxy stays open. -/
theorem leaves_tcp_open : ¬ ∀ (u : Upstream) (address : IpAddressV4) (a : UdpAnswers)
    (calls : HostCalls) (server : Socks5LocalUdpProxyServer) (router : SocksLocalRouter)
    (after : HostAttempt),
    connectToRemoteHost u address a calls server router = .ok (false, after) →
      Undone server router after := by
  intro hclaim
  have hclosed := closedOnce_iff.mp fun after h => (hclaim
    ⟨⟨⟨10, 0, 0, 1⟩, 1080, none⟩, none⟩ default { now := 0 } noUdpSocket { recvFrom := 5000 }
    { udpMapper := Table.empty.insert 5000 () } after h).closedOnce
  rcases hclosed with hheld | hnone | hsocket
  · exact hheld rfl
  · rw [Table.find_insert_self] at hnone
    cases hnone
  · exact hsocket ⟨⟨rfl, rfl, rfl⟩, ⟨1080, _, rfl⟩, rfl⟩

end HostAttempt

end CutieProxy
