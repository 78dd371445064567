import CutieProxy.Lib.Transition

/-!
# Starting and stopping the two local servers

`tcp_proxy_server` and `socks5_local_udp_proxy_server` have their server socket from their
constructor, and share the protocol of `end_server_`: `start` returns true at once when the flag is
not set. What they do with the socket differs. `stop` of the TCP server closes it, and a later
`start` does not look; `stop` of the UDP server leaves it open, and associated to the completion
port, so that a later `start` fails to associate it. A `start` of the UDP server that fails leaves
`end_server_` as it is in a server that runs. `start_keeps_word_iff` says which calls do what a
caller relies on.
-/

namespace CutieProxy

open Transition

/-- What is in `server_socket_`. -/
inductive ServerSocket where
  | opened
  /-- A handle that was passed to `closesocket`. -/
  | closed
  /-- `INVALID_SOCKET`. -/
  | invalid
  deriving DecidableEq, Repr

/-- What `start` and `stop` of either server read and write. It is that of a server that was
constructed: its socket is bound, and listens in the TCP server. -/
structure LocalServer where
  endServer : Bool := true
  serverSocket : ServerSocket := .opened
  /-- The server socket was associated to the completion port. -/
  associated : Bool := false
  /-- `completion_key_`, unless it is zero. -/
  completionKey : Option Nat := none
  /-- The accept thread is in its loop on the server socket, or a receive on it is pending. -/
  receiving : Bool := false
  deriving DecidableEq, Repr

/-- What the system makes of the calls of a `start`. -/
structure StartCalls where
  /-- `WSASocket` for the first element of `sock_array_events_` gives a socket. -/
  socket : Bool
  /-- The key of the association, when it succeeds. -/
  association : Option Nat
  /-- The first receive succeeds, or is pending. -/
  receive : Bool
  deriving DecidableEq, Repr

/-- The two classes. -/
inductive ServerClass where
  | tcpProxyServer
  | socks5LocalUdpProxyServer
  deriving DecidableEq, Repr

namespace LocalServer

/-- `start_proxy_thread` runs; `WSAAccept` fails on anything but an open socket, and it returns. -/
def startProxyThread (s : LocalServer) : LocalServer :=
  { s with receiving := s.serverSocket == .opened }

/-- `tcp_proxy_server::start`. The socket that is associated is one of its own. -/
def startTcp (o : StartCalls) (s : LocalServer) : Bool × LocalServer :=
  if s.endServer = false then (true, s)
  else
    let running := { s with endServer := false }
    if o.socket then
      match o.association with
      | some key => (true, { running with completionKey := some key }.startProxyThread)
      | none => (false, { running with endServer := true })
    else (true, running.startProxyThread)

/-- `tcp_proxy_server::stop`. -/
def stopTcp (s : LocalServer) : LocalServer :=
  if s.endServer then s
  else { s with endServer := true, serverSocket := .invalid, receiving := false }

/-- What `associate_socket` returns for the server socket: a second association fails, and so does
one of a closed handle. -/
def associateSocket (o : StartCalls) (s : LocalServer) : Option Nat :=
  if s.serverSocket = .opened ∧ s.associated = false then o.association else none

/-- `closesocket` for the server socket; what is in `server_socket_` stays. -/
def closeServerSocket (s : LocalServer) : LocalServer :=
  { s with serverSocket := .closed, receiving := false }

/-- `socks5_local_udp_proxy_server::start`. -/
def startUdp (o : StartCalls) (s : LocalServer) : Bool × LocalServer :=
  if s.endServer = false then (true, s)
  else
    let running := { s with endServer := false }
    if s.serverSocket ≠ .invalid then
      match s.associateSocket o with
      | some key =>
        let registered := { running with completionKey := some key, associated := true }
        if o.receive then (true, { registered with receiving := true })
        else (false, { registered.closeServerSocket with endServer := false })
      | none => (false, { running.closeServerSocket with endServer := false })
    else (true, running)

/-- `socks5_local_udp_proxy_server::stop`. -/
def stopUdp (s : LocalServer) : LocalServer :=
  if s.endServer then s else { s with endServer := true }

/-- `start` of a server of the class. -/
def start (c : ServerClass) (o : StartCalls) (s : LocalServer) : Bool × LocalServer :=
  match c with
  | .tcpProxyServer => s.startTcp o
  | .socks5LocalUdpProxyServer => s.startUdp o

/-- `stop` of a server of the class. -/
def stop (c : ServerClass) (s : LocalServer) : LocalServer :=
  match c with
  | .tcpProxyServer => s.stopTcp
  | .socks5LocalUdpProxyServer => s.stopUdp

/-- A call. -/
inductive Event where
  | start (o : StartCalls)
  | stop

/-- The server after a call. -/
def after (c : ServerClass) (s : LocalServer) : Event → LocalServer
  | .start o => (s.start c o).2
  | .stop => s.stop c

/-- The sequences of calls on a server that was constructed. -/
def system (c : ServerClass) : System LocalServer Event where
  init s := s = {}
  step s e t := t = s.after c e

/-- The server has an open socket and a completion key, and accepts or receives. -/
structure Serves (s : LocalServer) : Prop where
  socket : s.serverSocket = .opened
  key : s.completionKey.isSome
  receiving : s.receiving = true

/-- What a caller of `start` relies on: the server serves when it returns true, and is stopped when
it returns false. -/
def KeepsWord (c : ServerClass) (o : StartCalls) (s : LocalServer) : Prop :=
  ((s.start c o).1 = true → (s.start c o).2.Serves) ∧
    ((s.start c o).1 = false → (s.start c o).2.endServer = true)

/-- A server that is not running is started with calls that succeed, before it was stopped or its
socket closed; the TCP server may also fail to associate. -/
def Startable (c : ServerClass) (s : LocalServer) : Event → Prop
  | .stop => True
  | .start o =>
    s.endServer = false ∨
      match c with
      | .tcpProxyServer => o.socket = true ∧ (o.association = none ∨ s.serverSocket = .opened)
      | .socks5LocalUdpProxyServer =>
        s.serverSocket = .opened ∧ s.associated = false ∧ o.association ≠ none ∧ o.receive = true

/-! ## What the calls do -/

variable {c : ServerClass} {s : LocalServer} {o : StartCalls} {e : Event}

/-- A `start` of a server that runs. -/
theorem start_running (hrun : s.endServer = false) : s.start c o = (true, s) := by
  cases c with
  | tcpProxyServer => exact if_pos hrun
  | socks5LocalUdpProxyServer => exact if_pos hrun

/-- What a `start` of the TCP server does. -/
theorem startTcp_cases (o : StartCalls) (hstopped : s.endServer = true) :
    (o.socket = false ∧ s.startTcp o = (true, { s with endServer := false }.startProxyThread)) ∨
    (o.socket = true ∧ o.association = none ∧
      s.startTcp o = (false, { s with endServer := true })) ∨
    (o.socket = true ∧ ∃ key, o.association = some key ∧ s.startTcp o =
      (true, { s with endServer := false, completionKey := some key }.startProxyThread)) := by
  have hne : ¬ s.endServer = false := by simp [hstopped]
  obtain ⟨socket, association, receive⟩ := o
  unfold startTcp
  rw [if_neg hne]
  cases socket with
  | false => exact .inl ⟨rfl, rfl⟩
  | true =>
    cases association with
    | none => exact .inr (.inl ⟨rfl, rfl, rfl⟩)
    | some key => exact .inr (.inr ⟨rfl, key, rfl, rfl⟩)

/-- What a `start` of the UDP server does: one that fails leaves a closed socket, and the flag of a
server that runs. -/
theorem startUdp_cases (o : StartCalls) (hstopped : s.endServer = true)
    (hvalid : s.serverSocket ≠ .invalid) :
    (∃ key, s.associateSocket o = some key ∧ o.receive = true ∧
      s.startUdp o = (true, { s with
        endServer := false, completionKey := some key, associated := true, receiving := true })) ∨
    ((s.associateSocket o = none ∨ o.receive = false) ∧ (s.startUdp o).1 = false ∧
      (s.startUdp o).2.endServer = false ∧ (s.startUdp o).2.serverSocket = .closed) := by
  have hne : ¬ s.endServer = false := by simp [hstopped]
  unfold startUdp
  rw [if_neg hne]
  dsimp only
  rw [if_pos hvalid]
  cases hassociation : s.associateSocket o with
  | none => exact .inr ⟨.inl rfl, rfl, rfl, rfl⟩
  | some key =>
    cases hreceive : o.receive with
    | false => exact .inr ⟨.inr rfl, rfl, rfl, rfl⟩
    | true => exact .inl ⟨key, rfl, rfl, rfl⟩

/-- The association of the server socket succeeds. -/
theorem associateSocket_isSome :
    (∃ key, s.associateSocket o = some key) ↔
      s.serverSocket = .opened ∧ s.associated = false ∧ o.association ≠ none := by
  unfold associateSocket
  split
  · next hopen =>
    rw [← Option.isSome_iff_exists, Option.isSome_iff_ne_none]
    exact ⟨fun hsome => ⟨hopen.1, hopen.2, hsome⟩, fun hall => hall.2.2⟩
  · next hclosed =>
    exact iff_of_false (fun ⟨_, hnone⟩ => nomatch hnone) fun hall => hclosed ⟨hall.1, hall.2.1⟩

/-! ## Runs that keep to the condition -/

/-- A server that runs serves; a server that does not has not all it needs to. -/
structure Inv (c : ServerClass) (s : LocalServer) : Prop where
  running : s.endServer = false → s.Serves
  stopped : c = .tcpProxyServer → s.endServer = true → s.serverSocket = .opened →
    s.completionKey = none
  valid : c = .socks5LocalUdpProxyServer → s.serverSocket ≠ .invalid

/-- The TCP server does as it should when it has its socket, and either still has the one it listens
on or fails to associate. -/
theorem startTcp_keepsWord_iff (h : Inv .tcpProxyServer s) (hstopped : s.endServer = true) :
    KeepsWord .tcpProxyServer o s ↔
      o.socket = true ∧ (o.association = none ∨ s.serverSocket = .opened) := by
  unfold KeepsWord start
  dsimp only
  rcases startTcp_cases o hstopped with ⟨hsocket, heq⟩ | ⟨hsocket, hnone, heq⟩ |
    ⟨hsocket, key, hkey, heq⟩
  · rw [heq]
    refine iff_of_false (fun hword => ?_) (by simp [hsocket])
    -- without a new key the server has none, or no socket
    obtain ⟨hopened, hsome, -⟩ := hword.1 rfl
    have hzero : s.completionKey = none := h.stopped rfl hstopped hopened
    simp [startProxyThread, hzero] at hsome
  · rw [heq]
    exact iff_of_true ⟨nofun, fun _ => rfl⟩ ⟨hsocket, .inl hnone⟩
  · rw [heq]
    refine ⟨fun hword => ⟨hsocket, .inr (hword.1 rfl).socket⟩, fun ⟨_, hcalls⟩ => ?_⟩
    have hopened : s.serverSocket = .opened := hcalls.resolve_left (by simp [hkey])
    exact ⟨fun _ => ⟨hopened, rfl, by simp [startProxyThread, hopened]⟩, nofun⟩

/-- The UDP server does as it should when it can associate its socket and receive. -/
theorem startUdp_keepsWord_iff (h : Inv .socks5LocalUdpProxyServer s)
    (hstopped : s.endServer = true) :
    KeepsWord .socks5LocalUdpProxyServer o s ↔
      s.serverSocket = .opened ∧ s.associated = false ∧ o.association ≠ none ∧
        o.receive = true := by
  have hassociates := associateSocket_isSome (s := s) (o := o)
  unfold KeepsWord start
  dsimp only
  rcases startUdp_cases o hstopped (h.valid rfl) with
    ⟨key, hkey, hreceive, heq⟩ | ⟨hcalls, hfailed, hflag, -⟩
  · rw [heq]
    obtain ⟨hopened, hfirst, hassociation⟩ := hassociates.mp ⟨key, hkey⟩
    exact iff_of_true ⟨fun _ => ⟨hopened, rfl, rfl⟩, nofun⟩
      ⟨hopened, hfirst, hassociation, hreceive⟩
  · refine iff_of_false (fun hword => nomatch hflag.symm.trans (hword.2 hfailed)) ?_
    rintro ⟨hopened, hfirst, hassociation, hreceive⟩
    obtain ⟨key, hkey⟩ := hassociates.mpr ⟨hopened, hfirst, hassociation⟩
    rcases hcalls with hnone | hnot
    · cases hkey.symm.trans hnone
    · cases hreceive.symm.trans hnot

/-- A `start` does what its caller relies on just when it meets the condition. -/
theorem Inv.keepsWord_iff (h : Inv c s) : KeepsWord c o s ↔ Startable c s (.start o) := by
  cases hend : s.endServer with
  | false =>
    refine iff_of_true ?_ (.inl hend)
    unfold KeepsWord
    rw [start_running hend]
    exact ⟨fun _ => h.running hend, nofun⟩
  | true =>
    have hne : ¬ s.endServer = false := by simp [hend]
    cases c with
    | tcpProxyServer =>
      rw [startTcp_keepsWord_iff h hend]
      exact (or_iff_right hne).symm
    | socks5LocalUdpProxyServer =>
      rw [startUdp_keepsWord_iff h hend]
      exact (or_iff_right hne).symm

/-- A `start` that meets the condition keeps the invariant. -/
theorem Inv.start (h : Inv c s) (hcond : Startable c s (.start o)) : Inv c (s.start c o).2 := by
  cases hend : s.endServer with
  | false =>
    rw [start_running hend]
    exact h
  | true =>
    have hword := h.keepsWord_iff.mpr hcond
    refine ⟨fun hrun => hword.1 ?_, ?_, ?_⟩
    · cases hresult : (s.start c o).1 with
      | true => rfl
      | false => cases hrun.symm.trans (hword.2 hresult)
    · rintro rfl hstopped hsocket
      change (s.startTcp o).2.endServer = true at hstopped
      change (s.startTcp o).2.serverSocket = .opened at hsocket
      show (s.startTcp o).2.completionKey = none
      rcases startTcp_cases o hend with ⟨-, heq⟩ | ⟨-, -, heq⟩ | ⟨-, key, -, heq⟩
      · rw [heq] at hstopped
        cases hstopped
      · rw [heq] at hsocket ⊢
        exact h.stopped rfl hend hsocket
      · rw [heq] at hstopped
        cases hstopped
    · rintro rfl
      show (s.startUdp o).2.serverSocket ≠ .invalid
      rcases startUdp_cases o hend (h.valid rfl) with ⟨key, -, -, heq⟩ | ⟨-, -, -, hclosed⟩
      · rw [heq]
        exact h.valid rfl
      · rw [hclosed]
        exact nofun

/-- After `stop` the flag is set. -/
theorem endServer_stop : (s.stop c).endServer = true := by
  cases c with
  | tcpProxyServer =>
    show (s.stopTcp).endServer = true
    unfold stopTcp
    split
    · assumption
    · rfl
  | socks5LocalUdpProxyServer =>
    show (s.stopUdp).endServer = true
    unfold stopUdp
    split
    · assumption
    · rfl

theorem Inv.stop (h : Inv c s) : Inv c (s.stop c) := by
  refine ⟨fun hrun => (nomatch endServer_stop.symm.trans hrun), ?_, ?_⟩
  · rintro rfl hstopped hsocket
    change (s.stopTcp).serverSocket = .opened at hsocket
    show (s.stopTcp).completionKey = none
    unfold stopTcp at hsocket ⊢
    split at hsocket
    · next hend =>
      rw [if_pos hend]
      exact h.stopped rfl hend hsocket
    · cases hsocket
  · rintro rfl
    show (s.stopUdp).serverSocket ≠ .invalid
    unfold stopUdp
    split
    · exact h.valid rfl
    · exact h.valid rfl

/-- Every call that meets the condition keeps the invariant. -/
theorem Inv.step (h : Inv c s) (hcond : Startable c s e) : Inv c (s.after c e) := by
  cases e with
  | start o => exact h.start hcond
  | stop => exact h.stop

/-- In a run whose calls meet the condition, a `start` does what its caller relies on just when it
meets the condition too: it serves when it returns true, and is stopped when it returns false. -/
theorem start_keeps_word_iff (h : ((system c).restrict (Startable c)).Reachable s)
    (o : StartCalls) : KeepsWord c o s ↔ Startable c s (.start o) := by
  have hinv : Inv c s := by
    refine h.restrict_invariant (I := Inv c) ?_ ?_
    · rintro s rfl
      exact ⟨nofun, fun _ _ _ => rfl, fun _ => nofun⟩
    · rintro s e t hs hcond rfl
      exact hs.step hcond
  exact hinv.keepsWord_iff

/-! ## The calls that do not -/

/-- After a `start` of the UDP server that fails, every `start` until the next `stop` reports a
server that runs, with a closed socket. -/
theorem failed_startUdp_reports_running (hstopped : s.endServer = true)
    (hvalid : s.serverSocket ≠ .invalid) (hfailed : (s.startUdp o).1 = false) (o' : StartCalls) :
    (s.startUdp o).2.startUdp o' = (true, (s.startUdp o).2) ∧
      (s.startUdp o).2.serverSocket = .closed := by
  rcases startUdp_cases o hstopped hvalid with ⟨key, -, -, heq⟩ | ⟨-, -, hflag, hclosed⟩
  · rw [heq] at hfailed
    cases hfailed
  · exact ⟨start_running (c := .socks5LocalUdpProxyServer) hflag, hclosed⟩

/-- Calls that succeed. -/
def succeeding : StartCalls := ⟨true, some 1, true⟩

/-- The association fails. -/
def notAssociated : StartCalls := ⟨true, none, true⟩

/-- After these calls. -/
def afterAll (c : ServerClass) (calls : List Event) : LocalServer := calls.foldl (after c) {}

/-- A TCP server whose first `start` failed, and a UDP server, that were started and stopped: the
next `start` breaks its word unless it fails to associate, which only the TCP server reports. -/
theorem start_keeps_word_iff_stopped :
    (¬ KeepsWord .tcpProxyServer succeeding
        (afterAll .tcpProxyServer [.start notAssociated, .start succeeding, .stop]) ∧
      KeepsWord .tcpProxyServer notAssociated
        (afterAll .tcpProxyServer [.start notAssociated, .start succeeding, .stop])) ∧
      ¬ KeepsWord .socks5LocalUdpProxyServer succeeding
        (afterAll .socks5LocalUdpProxyServer [.start succeeding, .stop]) := by
  have htcp : ((system .tcpProxyServer).restrict (Startable .tcpProxyServer)).Reachable
      (afterAll .tcpProxyServer [.start notAssociated, .start succeeding, .stop]) := by
    have h₀ : ((system .tcpProxyServer).restrict (Startable .tcpProxyServer)).Reachable {} :=
      .init rfl
    have h₁ := h₀.restrict_snoc (e := .start notAssociated) rfl
      (by exact Or.inr ⟨rfl, Or.inl rfl⟩)
    have h₂ := h₁.restrict_snoc (e := .start succeeding) rfl
      (by exact Or.inr ⟨rfl, Or.inr rfl⟩)
    exact h₂.restrict_snoc (e := .stop) rfl trivial
  have hudp : ((system .socks5LocalUdpProxyServer).restrict
      (Startable .socks5LocalUdpProxyServer)).Reachable
      (afterAll .socks5LocalUdpProxyServer [.start succeeding, .stop]) := by
    have h₀ : ((system .socks5LocalUdpProxyServer).restrict
      (Startable .socks5LocalUdpProxyServer)).Reachable {} := .init rfl
    have h₁ := h₀.restrict_snoc (e := .start succeeding) rfl
      (by exact Or.inr ⟨rfl, rfl, nofun, rfl⟩)
    exact h₁.restrict_snoc (e := .stop) rfl trivial
  refine ⟨⟨fun hword => ?_, (start_keeps_word_iff htcp notAssociated).mpr ?_⟩, fun hword => ?_⟩
  · -- the socket the server listened on is `INVALID_SOCKET`
    rcases (start_keeps_word_iff htcp succeeding).mp hword with hrun | ⟨-, hnone | hopened⟩
    · cases hrun
    · cases hnone
    · cases hopened
  · exact Or.inr ⟨rfl, Or.inl rfl⟩
  · -- the server socket is associated already
    rcases (start_keeps_word_iff hudp succeeding).mp hword with hrun | ⟨-, hassociated, -⟩
    · cases hrun
    · cases hassociated

/-- The first `start` of the UDP server fails to associate its socket. -/
theorem udp_start_breaks_word : ¬ ∀ (c : ServerClass) (s : LocalServer) (o : StartCalls),
    (system c).Reachable s → KeepsWord c o s := by
  intro hclaim
  have hword := hclaim .socks5LocalUdpProxyServer {} notAssociated (.init rfl)
  cases hword.2 rfl

end LocalServer

end CutieProxy
