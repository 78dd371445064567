import CutieProxy.Net.Packet
import CutieProxy.Proxy.UdpDispatch
import Mathlib.Data.Multiset.Count
import Mathlib.Data.Multiset.MapFold

/-!
# The bytes of the datagrams of `socks5_local_udp_proxy_server`

`UdpRelay` is a server with its memory: the buffer and the address of the last datagram the server
socket received, the buffer each proxy socket receives to, and what was copied to the packets. A
receive writes to a buffer when it completes, and the callback copies from the buffer when it is
called, which is later; a send reads its packet when it is carried out, later than the call. Below
the memory there is a run of the server.

Each buffer has one receive at most, so a callback copies the datagram it is called for. What is
sent to the upstream server are datagrams that arrived, in the order of their arrival and each once
at most, and so are what is sent to local clients (`UdpRelay.relays_in_order`).
-/

namespace CutieProxy

open Transition

/-- The call is a receive. -/
def UdpOperation.IsRead : UdpOperation → Prop
  | .serverRead | .remoteRead _ => True
  | .send _ => False

namespace Socks5LocalUdpProxyServer

variable {s t r : Socks5LocalUdpProxyServer} {a : UdpAnswers} {k n : Nat} {c : UdpCompletion}
  {context : SendContext} {op : UdpOperation} {port : UInt16}

/-! ## What a callback adds -/

/-- Receives, sends, time stamps and what was called for removal may differ. -/
structure Calls (s t : Socks5LocalUdpProxyServer) : Prop where
  keeps : Keeps s t
  wsaBuf : t.wsaBuf = s.wsaBuf
  recvFrom : t.recvFrom = s.recvFrom
  packetCount : t.packetCount = s.packetCount
  faulted : t.faulted = s.faulted

theorem Calls.trans (h : Calls s t) (h' : Calls t r) : Calls s r :=
  ⟨h.keeps.trans h'.keeps, h'.wsaBuf.trans h.wsaBuf, h'.recvFrom.trans h.recvFrom,
    h'.packetCount.trans h.packetCount, h'.faulted.trans h.faulted⟩

theorem calls_touch (now : TimePoint) : Calls s (s.touch k now) := ⟨keeps_touch, rfl, rfl, rfl, rfl⟩

theorem calls_closeClient : Calls s (s.closeClient k) := ⟨keeps_closeClient, rfl, rfl, rfl, rfl⟩

/-- A receive of a proxy socket is one receive more at most. -/
theorem calls_wsaRecv (accepted : Bool) (k : Nat) (op : UdpOperation) :
    Calls s (s.wsaRecv accepted k) ∧
    (s.wsaRecv accepted k).sends = s.sends ∧
    (s.wsaRecv accepted k).pending.count op ≤
      s.pending.count op + if op = .remoteRead k then 1 else 0 := by
  unfold wsaRecv
  split
  · refine ⟨⟨⟨rfl, rfl, fun _ => rfl, rfl⟩, rfl, rfl, rfl, rfl⟩, rfl, ?_⟩
    exact Nat.le_of_eq (Multiset.count_cons op (.remoteRead k) s.pending)
  · exact ⟨calls_closeClient, rfl, Nat.le_add_right _ _⟩

/-- A send is no receive. -/
theorem calls_wsaSend (accepted : Bool) (context : SendContext) (op : UdpOperation) :
    Calls s (s.wsaSend accepted context) ∧
    (s.wsaSend accepted context).sends = s.sends ++
      [⟨context.proxySocket, context.isLocal, context.wsaBuf, s.recvFrom⟩] ∧
    (op.IsRead → (s.wsaSend accepted context).pending.count op = s.pending.count op) := by
  unfold wsaSend
  dsimp only
  split
  · refine ⟨⟨⟨rfl, rfl, fun _ => rfl, rfl⟩, rfl, rfl, rfl, rfl⟩, rfl, fun hop => ?_⟩
    have hne : op ≠ .send s.contextCount := by
      rintro rfl
      exact hop
    exact Multiset.count_cons_of_ne hne s.pending
  · refine ⟨Calls.trans ?_ calls_closeClient, rfl, fun _ => rfl⟩
    exact ⟨⟨rfl, rfl, fun _ => rfl, rfl⟩, rfl, rfl, rfl, rfl⟩

/-- A datagram of a local client goes out with the packet of the server's context, or not. -/
theorem forwardToRemote_adds (op : UdpOperation) : Keeps s (s.forwardToRemote a k) ∧
    (s.forwardToRemote a k).wsaBuf = none ∧ (s.forwardToRemote a k).packetCount = s.packetCount ∧
    ((s.forwardToRemote a k).sends = s.sends ∨
      (s.forwardToRemote a k).sends = s.sends ++ [⟨k, false, s.wsaBuf, s.recvFrom⟩]) ∧
    (op.IsRead → (s.forwardToRemote a k).pending.count op = s.pending.count op) := by
  have htouch : Keeps s (s.touch k a.now) := keeps_touch
  unfold forwardToRemote
  dsimp only
  split
  · obtain ⟨hcalls, hsends, hreads⟩ := calls_wsaSend (s := { s.touch k a.now with wsaBuf := none })
      a.send ⟨k, false, s.wsaBuf⟩ op
    exact ⟨⟨hcalls.keeps.1.trans htouch.1, hcalls.keeps.2.trans htouch.2,
      fun j => (hcalls.keeps.3 j).trans (htouch.3 j), hcalls.keeps.4.trans htouch.4⟩,
      hcalls.wsaBuf, hcalls.packetCount, Or.inr hsends, hreads⟩
  · split
    · exact ⟨⟨htouch.1, htouch.2, htouch.3, htouch.4⟩, rfl, rfl, Or.inl rfl, fun _ => rfl⟩
    · next hbuf =>
      exact ⟨⟨htouch.1, htouch.2, htouch.3, htouch.4⟩, hbuf, rfl, Or.inl rfl, fun _ => rfl⟩

/-- A datagram of the upstream server goes out with a new packet, or not. -/
theorem forwardToLocal_adds (op : UdpOperation) : Keeps s (s.forwardToLocal a n k) ∧
    (s.forwardToLocal a n k).wsaBuf = s.wsaBuf ∧
    ((s.forwardToLocal a n k).sends = s.sends ∧
        (s.forwardToLocal a n k).packetCount = s.packetCount ∨
      (s.forwardToLocal a n k).sends = s.sends ++ [⟨k, true, none, s.recvFrom⟩] ∧
        (s.forwardToLocal a n k).packetCount = s.packetCount ∨
      (s.forwardToLocal a n k).sends = s.sends ++ [⟨k, true, some s.packetCount, s.recvFrom⟩] ∧
        (s.forwardToLocal a n k).packetCount = s.packetCount + 1) ∧
    (op.IsRead → (s.forwardToLocal a n k).pending.count op ≤
      s.pending.count op + if op = .remoteRead k then 1 else 0) := by
  unfold forwardToLocal
  dsimp only
  split
  · obtain ⟨hcalls, hsends, hreads⟩ := calls_wsaSend (s := s.touch k a.now) false ⟨k, true, none⟩ op
    have hall := (calls_touch (s := s) (k := k) a.now).trans hcalls
    exact ⟨⟨hall.keeps.1, hall.keeps.2, hall.keeps.3, hall.keeps.4⟩, hall.wsaBuf,
      Or.inr (Or.inl ⟨hsends, hall.packetCount⟩),
      fun hop => (hreads hop).le.trans (Nat.le_add_right _ _)⟩
  · split
    · obtain ⟨hcalls, hsends, hreads⟩ := calls_wsaSend
        (s := { s.touch k a.now with packetCount := (s.touch k a.now).packetCount + 1 })
        a.send ⟨k, true, some (s.touch k a.now).packetCount⟩ op
      generalize wsaSend a.send ⟨k, true, some (s.touch k a.now).packetCount⟩
        { s.touch k a.now with packetCount := (s.touch k a.now).packetCount + 1 } = u
        at hcalls hsends hreads ⊢
      obtain ⟨hrecv, hsends', hreads'⟩ := calls_wsaRecv (s := u) a.recv k op
      have hall := hcalls.trans hrecv
      have htouch : Keeps s (s.touch k a.now) := keeps_touch
      refine ⟨⟨hall.keeps.1.trans htouch.1, hall.keeps.2.trans htouch.2,
        fun j => (hall.keeps.3 j).trans (htouch.3 j), hall.keeps.4.trans htouch.4⟩, hall.wsaBuf,
        Or.inr (Or.inr ⟨hsends'.trans hsends, hall.packetCount⟩), fun hop => ?_⟩
      rw [hreads hop] at hreads'
      exact hreads'
    · obtain ⟨hrecv, hsends, hreads⟩ := calls_wsaRecv (s := s.touch k a.now) a.recv k op
      have hall := (calls_touch (s := s) (k := k) a.now).trans hrecv
      exact ⟨hall.keeps, hall.wsaBuf, Or.inl ⟨hsends, hall.packetCount⟩, fun _ => hreads⟩

/-- A proxy socket is found under its own port. -/
def Found (s : Socks5LocalUdpProxyServer) : Prop :=
  ∀ p k, s.proxySockets.find p = some k → k < s.socketCount ∧ (s.socket k).localPort = p

theorem Found.of_keeps (h : s.Found) (hkeeps : Keeps s t) : t.Found := by
  intro p k hfind
  rw [hkeeps.proxySockets] at hfind
  rw [hkeeps.socketCount, hkeeps.localPort]
  exact h p k hfind

/-- A datagram that goes out in a callback: the packet of one of a local client goes through the
proxy socket of its port, that of one of the upstream server comes from the proxy socket that
received it. -/
def Carries (t : Socks5LocalUdpProxyServer) (c : UdpCompletion) (x : UdpSend) : Prop :=
  (∃ port n, c = .serverRead port n true ∧ x.isLocal = false ∧ x.source = port ∧
      x.proxySocket < t.socketCount ∧ (t.socket x.proxySocket).localPort = port) ∨
    ∃ n, c = .remoteRead x.proxySocket n true ∧ x.isLocal = true

/-- What a callback adds to a server: receives in place of the one that completed, a proxy socket, a
packet and a send with it. -/
structure Adds (c : UdpCompletion) (s t : Socks5LocalUdpProxyServer) : Prop where
  queue : t.queue = s.queue
  serverReads : t.pending.count .serverRead ≤
    s.pending.count .serverRead + if c.operation = .serverRead then 1 else 0
  remoteReads : ∀ k, t.pending.count (.remoteRead k) ≤ s.pending.count (.remoteRead k) +
    if c.operation = .remoteRead k ∨ k = s.socketCount ∧ s.socketCount < t.socketCount then 1 else 0
  sockets : t.socketCount = s.socketCount ∨ t.socketCount = s.socketCount + 1 ∧
    ∃ port n, c = .serverRead port n true ∧ (t.socket s.socketCount).localPort = port
  localPort : ∀ k < s.socketCount, (t.socket k).localPort = (s.socket k).localPort
  found : t.Found
  packets : t.packetCount = s.packetCount ∨ t.packetCount = s.packetCount + 1
  sends : t.sends = s.sends ∨ ∃ x, t.sends = s.sends ++ [x] ∧
    (x.packet = none ∨ x.packet = some s.packetCount ∧ t.packetCount = s.packetCount + 1 ∧
      t.Carries c x)
  wsaBuf : t.faulted = false → t.wsaBuf = none

/-- A callback that faults before it calls a member, or calls none. -/
theorem Adds.of_keeps (hkeeps : Keeps s t) (hfound : s.Found) (hsends : t.sends = s.sends)
    (hpacket : t.packetCount = s.packetCount) (hpending : t.pending = s.pending)
    (hbuf : t.faulted = false → t.wsaBuf = none) : Adds c s t where
  queue := hkeeps.queue
  serverReads := hpending ▸ Nat.le_add_right _ _
  remoteReads _ := hpending ▸ Nat.le_add_right _ _
  sockets := Or.inl hkeeps.socketCount
  localPort k _ := hkeeps.localPort k
  found := hfound.of_keeps hkeeps
  packets := Or.inl hpacket
  sends := Or.inl hsends
  wsaBuf := hbuf

/-- The completion of a receive of a proxy socket. -/
theorem adds_remoteRead {status : Bool} (hfound : s.Found) (hbuf : s.wsaBuf = none) :
    Adds (.remoteRead k n status) s (s.callback a (.remoteRead k n status)) := by
  cases status with
  | false => exact .of_keeps (.refl s) hfound rfl rfl rfl fun _ => hbuf
  | true =>
    rw [callback_remoteRead]
    cases hheld : s.isHeld k with
    | false =>
      rw [dispatch_removed hheld]
      exact .of_keeps ⟨rfl, rfl, fun _ => rfl, rfl⟩ hfound rfl rfl rfl nofun
    | true =>
      rw [dispatch_held hheld]
      generalize hu : ({ s with dispatches := s.dispatches ++ [⟨true, some k, true⟩] } :
        Socks5LocalUdpProxyServer) = u
      have hsame : Keeps s u ∧ u.wsaBuf = none ∧ u.sends = s.sends ∧
          u.packetCount = s.packetCount ∧ u.pending = s.pending := by
        subst hu
        exact ⟨⟨rfl, rfl, fun _ => rfl, rfl⟩, hbuf, rfl, rfl, rfl⟩
      obtain ⟨hkeeps, hubuf, husends, hucount, hupending⟩ := hsame
      have hadds (op : UdpOperation) := forwardToLocal_adds (s := u) (a := a) (n := n) (k := k) op
      have hall := hkeeps.trans (hadds .serverRead).1
      obtain ⟨-, hbuf', hsends, -⟩ := hadds .serverRead
      refine ⟨hall.queue, ?_, fun j => ?_, Or.inl hall.socketCount, fun j _ => hall.localPort j,
        hfound.of_keeps hall, ?_, ?_, fun _ => hbuf'.trans hubuf⟩
      · have := (hadds .serverRead).2.2.2 trivial
        rw [hupending] at this
        exact this
      · have := (hadds (.remoteRead j)).2.2.2 trivial
        rw [hupending] at this
        refine this.trans (Nat.add_le_add_left ?_ _)
        rcases eq_or_ne j k with rfl | hj
        · rw [if_pos rfl]
          exact (if_pos (Or.inl rfl)).ge
        · rw [if_neg (by simpa using hj)]
          exact Nat.zero_le _
      · rw [← hucount]
        exact hsends.elim (fun h => Or.inl h.2) (·.elim (fun h => Or.inl h.2) fun h => Or.inr h.2)
      · rw [← husends, ← hucount]
        rcases hsends with ⟨h, -⟩ | ⟨h, -⟩ | ⟨h, hcount⟩
        · exact Or.inl h
        · exact Or.inr ⟨_, h, Or.inl rfl⟩
        · exact Or.inr ⟨_, h, Or.inr ⟨rfl, hcount, Or.inr ⟨n, rfl, rfl⟩⟩⟩

/-- The completion of a send. -/
theorem adds_send {i : Nat} {status : Bool} (hfound : s.Found) (hbuf : s.wsaBuf = none) :
    Adds (.send i status) s (s.callback a (.send i status)) := by
  cases status with
  | false => exact .of_keeps (.refl s) hfound rfl rfl rfl fun _ => hbuf
  | true =>
    rw [callback_send]
    cases hheld : s.isHeld (s.context i).proxySocket with
    | false =>
      rw [dispatch_removed hheld]
      exact .of_keeps ⟨rfl, rfl, fun _ => rfl, rfl⟩ hfound rfl rfl rfl nofun
    | true =>
      rw [dispatch_held hheld]
      exact .of_keeps ⟨rfl, rfl, fun _ => rfl, rfl⟩ hfound rfl rfl rfl fun _ => hbuf

/-- What the look-up for a datagram of a port adds: a proxy socket and its receive. -/
structure Prepares (port : UInt16) (s t : Socks5LocalUdpProxyServer) : Prop where
  queue : t.queue = s.queue
  serverReads : t.pending.count .serverRead ≤ s.pending.count .serverRead
  remoteReads : ∀ k, t.pending.count (.remoteRead k) ≤ s.pending.count (.remoteRead k) +
    if k = s.socketCount ∧ s.socketCount < t.socketCount then 1 else 0
  sockets : t.socketCount = s.socketCount ∨ t.socketCount = s.socketCount + 1 ∧
    (t.socket s.socketCount).localPort = port
  localPort : ∀ k < s.socketCount, (t.socket k).localPort = (s.socket k).localPort
  found : t.Found
  sends : t.sends = s.sends
  recvFrom : t.recvFrom = port

theorem Prepares.of_eq (h : Prepares port s t) (hqueue : r.queue = t.queue)
    (hpending : r.pending = t.pending) (hcount : r.socketCount = t.socketCount)
    (hsocket : ∀ k, (r.socket k).localPort = (t.socket k).localPort)
    (hsockets : r.proxySockets = t.proxySockets) (hsends : r.sends = t.sends)
    (hfrom : r.recvFrom = t.recvFrom) : Prepares port s r where
  queue := hqueue.trans h.queue
  serverReads := hpending ▸ h.serverReads
  remoteReads k := by
    rw [hpending, hcount]
    exact h.remoteReads k
  sockets := by
    rw [hcount, hsocket]
    exact h.sockets
  localPort k hk := (hsocket k).trans (h.localPort k hk)
  found p k hfind := by
    rw [hsockets] at hfind
    rw [hcount, hsocket]
    exact h.found p k hfind
  sends := hsends.trans h.sends
  recvFrom := hfrom.trans h.recvFrom

theorem found_create {port : UInt16} (object : UdpProxySocketObject) (hfound : s.Found)
    (hport : object.localPort = port) : (s.create port object).Found := by
  intro p k hfind
  rcases eq_or_ne p port with rfl | hp
  · obtain rfl : s.socketCount = k := Option.some.inj (Table.find_insert_self.symm.trans hfind)
    exact ⟨Nat.lt_succ_self _, (congrArg _ (Function.update_self ..)).trans hport⟩
  · obtain ⟨hk, hlocal⟩ := hfound p k ((Table.find_insert_of_ne hp).symm.trans hfind)
    exact ⟨Nat.lt_succ_of_lt hk, (congrArg _ (create_socket object hk)).trans hlocal⟩

theorem prepares_connectToRemoteHost (hfound : s.Found) :
    Prepares s.recvFrom s (s.connectToRemoteHost a).2 ∧
    (s.connectToRemoteHost a).2.wsaBuf = s.wsaBuf ∧
    (s.connectToRemoteHost a).2.packetCount = s.packetCount ∧
    ((s.connectToRemoteHost a).1 = true → ∃ k, (s.connectToRemoteHost a).2.proxySocketPtr = some k ∧
      (s.connectToRemoteHost a).2.proxySockets.find s.recvFrom = some k) := by
  have hself : Prepares s.recvFrom s s := ⟨rfl, Nat.le_refl _, fun _ => Nat.le_add_right _ _,
    Or.inl rfl, fun _ _ => rfl, hfound, rfl, rfl⟩
  obtain ⟨k, hfind, heq⟩ | ⟨hnone, heq⟩ | heq := connectToRemoteHost_cases (s := s) (a := a)
  · rw [heq]
    exact ⟨hself.of_eq rfl rfl rfl (fun _ => rfl) rfl rfl rfl, rfl, rfl, fun _ => ⟨k, rfl, hfind⟩⟩
  · rw [heq]
    have hcreate := found_create ⟨⟨a.now, false⟩, s.recvFrom⟩ hfound rfl
    have hfind : (s.create s.recvFrom ⟨⟨a.now, false⟩, s.recvFrom⟩).proxySockets.find s.recvFrom =
        some s.socketCount := Table.find_insert_self
    have hnew : ((s.create s.recvFrom ⟨⟨a.now, false⟩, s.recvFrom⟩).socket
        s.socketCount).localPort = s.recvFrom := congrArg _ (Function.update_self ..)
    have hold : ∀ j < s.socketCount, ((s.create s.recvFrom ⟨⟨a.now, false⟩, s.recvFrom⟩).socket
        j).localPort = (s.socket j).localPort := fun j hj => congrArg _ (create_socket _ hj)
    generalize hu : s.create s.recvFrom ⟨⟨a.now, false⟩, s.recvFrom⟩ = u at hcreate hfind hnew hold
    have hsame : u.queue = s.queue ∧ u.pending = s.pending ∧ u.socketCount = s.socketCount + 1 ∧
        u.sends = s.sends ∧ u.recvFrom = s.recvFrom ∧ u.wsaBuf = s.wsaBuf ∧
        u.packetCount = s.packetCount ∧ u.proxySocketPtr = some s.socketCount := by
      subst hu
      exact ⟨rfl, rfl, rfl, rfl, rfl, rfl, rfl, rfl⟩
    obtain ⟨hqueue, hpending, hcount, hsends, hfrom, hbuf, hpackets, hptr⟩ := hsame
    have hrecv (op : UdpOperation) := calls_wsaRecv (s := u) a.start s.socketCount op
    obtain ⟨hcalls, hsends', -⟩ := hrecv .serverRead
    have hcount' := hcalls.keeps.socketCount.trans hcount
    have hptr' : (u.wsaRecv a.start s.socketCount).proxySocketPtr = u.proxySocketPtr := by
      unfold wsaRecv
      split <;> rfl
    refine ⟨⟨hcalls.keeps.queue.trans hqueue, ?_, fun j => ?_, Or.inr ⟨hcount', ?_⟩, fun j hj => ?_,
      hcreate.of_keeps hcalls.keeps, hsends'.trans hsends, hcalls.recvFrom.trans hfrom⟩,
      hcalls.wsaBuf.trans hbuf, hcalls.packetCount.trans hpackets, fun _ => ⟨s.socketCount, ?_, ?_⟩⟩
    · have := (hrecv .serverRead).2.2
      rw [if_neg (by simp), hpending] at this
      exact this
    · have := (hrecv (.remoteRead j)).2.2
      rw [hpending] at this
      refine this.trans (Nat.add_le_add_left ?_ _)
      rcases eq_or_ne j s.socketCount with rfl | hj
      · rw [if_pos rfl]
        exact (if_pos ⟨rfl, (Nat.lt_succ_self _).trans_eq hcount'.symm⟩).ge
      · rw [if_neg (by simpa using hj)]
        exact Nat.zero_le _
    · rw [hcalls.keeps.localPort, hnew]
    · rw [hcalls.keeps.localPort, hold j hj]
    · exact hptr'.trans hptr
    · rw [hcalls.keeps.proxySockets, hfind]
  · rw [heq]
    exact ⟨hself, rfl, rfl, nofun⟩

/-- The look-up and the packet for a datagram. -/
theorem prepares_prepare (hfound : s.Found) (hbuf : s.wsaBuf = none) :
    Prepares s.recvFrom s (s.prepare a).2 ∧
    ((s.prepare a).1 = false → (s.prepare a).2.wsaBuf = none ∧
      ((s.prepare a).2.packetCount = s.packetCount)) ∧
    ((s.prepare a).1 = true → (s.prepare a).2.wsaBuf = some s.packetCount ∧
      (s.prepare a).2.packetCount = s.packetCount + 1 ∧
      ∃ k, (s.prepare a).2.proxySocketPtr = some k ∧
        (s.prepare a).2.proxySockets.find s.recvFrom = some k) := by
  obtain ⟨hprepares, hbuf', hpackets, hptr⟩ := prepares_connectToRemoteHost (a := a) hfound
  unfold Socks5LocalUdpProxyServer.prepare
  split
  · next u hu =>
    rw [hu] at hprepares hbuf' hpackets hptr
    dsimp only at hprepares hbuf' hpackets hptr
    have hsame {v : Socks5LocalUdpProxyServer} (hqueue : v.queue = u.queue)
        (hpending : v.pending = u.pending) (hcount : v.socketCount = u.socketCount)
        (hsocket : v.socket = u.socket) (hsockets : v.proxySockets = u.proxySockets)
        (hsends : v.sends = u.sends) (hfrom : v.recvFrom = u.recvFrom) :
        Prepares s.recvFrom s v :=
      hprepares.of_eq hqueue hpending hcount (fun k => by rw [hsocket]) hsockets hsends hfrom
    unfold takePacket
    dsimp only
    split
    · refine ⟨hsame rfl rfl rfl rfl rfl rfl rfl, nofun, fun _ => ?_⟩
      exact ⟨congrArg some hpackets, congrArg (· + 1) hpackets, hptr rfl⟩
    · exact ⟨hsame rfl rfl rfl rfl rfl rfl rfl, fun _ => ⟨rfl, hpackets⟩, nofun⟩
  · next u hu =>
    rw [hu] at hprepares hbuf' hpackets
    exact ⟨hprepares, fun _ => ⟨hbuf'.trans hbuf, hpackets⟩, nofun⟩

/-- The receive at the end of a callback of the server. -/
theorem Prepares.adds {numBytes : Nat} {status : Bool} (h : Prepares port s t)
    (hkeeps : Keeps t r) (hreads : ∀ op : UdpOperation, op.IsRead → r.pending.count op =
      t.pending.count op)
    (hsocket : status = false → t.socketCount = s.socketCount)
    (hpackets : r.packetCount = s.packetCount ∨ r.packetCount = s.packetCount + 1)
    (hsends : r.sends = s.sends ∨ ∃ x, r.sends = s.sends ++ [x] ∧ (x.packet = none ∨
      x.packet = some s.packetCount ∧ r.packetCount = s.packetCount + 1 ∧
        r.Carries (.serverRead port numBytes status) x))
    (hbuf : r.faulted = false → r.wsaBuf = none) :
    Adds (.serverRead port numBytes status) s (r.wsaRecvFrom a.recv) := by
  have hrearm : Keeps r (r.wsaRecvFrom a.recv) ∧ (r.wsaRecvFrom a.recv).sends = r.sends ∧
      (r.wsaRecvFrom a.recv).dispatches = r.dispatches := wsaRecvFrom_spec a.recv
  have hsame : (r.wsaRecvFrom a.recv).packetCount = r.packetCount ∧
      (r.wsaRecvFrom a.recv).faulted = r.faulted ∧ (r.wsaRecvFrom a.recv).wsaBuf = r.wsaBuf := by
    unfold wsaRecvFrom
    split <;> exact ⟨rfl, rfl, rfl⟩
  have hcount (op : UdpOperation) : (r.wsaRecvFrom a.recv).pending.count op ≤
      r.pending.count op + if op = .serverRead then 1 else 0 := by
    unfold wsaRecvFrom
    split
    · exact (Multiset.count_cons op .serverRead r.pending).le
    · exact Nat.le_add_right _ _
  have hall := hkeeps.trans hrearm.1
  refine ⟨hall.queue.trans h.queue, ?_, fun k => ?_, ?_, fun k hk => ?_, h.found.of_keeps hall,
    hsame.1 ▸ hpackets, ?_, fun hf => hsame.2.2.trans (hbuf (hsame.2.1.symm.trans hf))⟩
  · refine (hcount .serverRead).trans ?_
    rw [hreads .serverRead trivial]
    exact Nat.add_le_add_right h.serverReads _
  · refine (hcount (.remoteRead k)).trans ?_
    rw [hreads (.remoteRead k) trivial, if_neg (by simp), hall.socketCount]
    refine (h.remoteReads k).trans (Nat.add_le_add_left ?_ _)
    by_cases hk : k = s.socketCount ∧ s.socketCount < t.socketCount
    · rw [if_pos hk]
      exact (if_pos (Or.inr hk)).ge
    · rw [if_neg hk]
      exact Nat.zero_le _
  · rw [hall.socketCount, hall.localPort]
    refine h.sockets.imp_right fun ⟨hnew, hport⟩ => ⟨hnew, port, numBytes, ?_, hport⟩
    cases status with
    | true => rfl
    | false => exact absurd (hsocket rfl) (by omega)
  · rw [hall.localPort, h.localPort k hk]
  · rw [hrearm.2.1, hsame.1]
    refine hsends.imp_right fun ⟨x, hx, hpacket⟩ => ⟨x, hx, hpacket.imp_right ?_⟩
    rintro ⟨hsome, hnew, hcarries⟩
    refine ⟨hsome, hnew, hcarries.imp_left ?_⟩
    rintro ⟨p, m, hc, hlocal, hsource, hlt, hport⟩
    refine ⟨p, m, hc, hlocal, hsource, ?_, ?_⟩
    · rw [hrearm.1.socketCount]
      exact hlt
    · rw [hrearm.1.localPort]
      exact hport

/-- The call of `process_receive_buffer_complete` for a datagram of a local client, which has a
packet if it was looked up. -/
theorem Prepares.dispatch (h : Prepares port s t)
    (hbuf : t.wsaBuf = none ∧ t.packetCount = s.packetCount ∨
      t.wsaBuf = some s.packetCount ∧ t.packetCount = s.packetCount + 1 ∧
        ∃ k, t.proxySocketPtr = some k ∧ t.proxySockets.find port = some k) :
    Adds (.serverRead port n true) s
      ((t.dispatch true t.proxySocketPtr (forwardToRemote a)).wsaRecvFrom a.recv) := by
  have hpackets : t.packetCount = s.packetCount ∨ t.packetCount = s.packetCount + 1 :=
    hbuf.imp And.right fun h => h.2.1
  have hfault {u : Socks5LocalUdpProxyServer} (hu : Keeps t u) (hpending : u.pending = t.pending)
      (hcount : u.packetCount = t.packetCount) (hsends : u.sends = t.sends)
      (hfaulted : u.faulted = true) : Adds (.serverRead port n true) s (u.wsaRecvFrom a.recv) :=
    h.adds hu (fun _ _ => by rw [hpending]) nofun (hcount ▸ hpackets)
      (Or.inl (hsends.trans h.sends)) fun hf => absurd (hfaulted.symm.trans hf) nofun
  cases hptr : t.proxySocketPtr with
  | none => exact hfault ⟨rfl, rfl, fun _ => rfl, rfl⟩ rfl rfl rfl rfl
  | some k =>
    cases hheld : t.isHeld k with
    | false =>
      rw [dispatch_removed hheld]
      exact hfault ⟨rfl, rfl, fun _ => rfl, rfl⟩ rfl rfl rfl rfl
    | true =>
      rw [dispatch_held hheld]
      generalize hu : ({ t with dispatches := t.dispatches ++ [⟨true, some k, true⟩] } :
        Socks5LocalUdpProxyServer) = u
      have hsame : Keeps t u ∧ u.wsaBuf = t.wsaBuf ∧ u.sends = t.sends ∧ u.recvFrom = t.recvFrom ∧
          u.packetCount = t.packetCount ∧ u.pending = t.pending := by
        subst hu
        exact ⟨⟨rfl, rfl, fun _ => rfl, rfl⟩, rfl, rfl, rfl, rfl, rfl⟩
      obtain ⟨hkeeps, hubuf, husends, hufrom, hucount, hupending⟩ := hsame
      have hadds (op : UdpOperation) := forwardToRemote_adds (s := u) (a := a) (k := k) op
      obtain ⟨hmember, hbuf', hcount, hsends, -⟩ := hadds .serverRead
      have hall := hkeeps.trans hmember
      refine h.adds hall (fun op hop => ?_) nofun ?_ ?_ fun _ => hbuf'
      · rw [(hadds op).2.2.2.2 hop, hupending]
      · rw [hcount, hucount]
        exact hpackets
      · rw [husends, h.sends] at hsends
        refine hsends.imp_right fun hx => ⟨_, hx, ?_⟩
        rcases hbuf with ⟨hnone, -⟩ | ⟨hsome, hnew, j, hj, hfind⟩
        · exact Or.inl (hubuf.trans hnone)
        · obtain rfl : k = j := Option.some.inj (hptr.symm.trans hj)
          obtain ⟨hlt, hport⟩ := h.found port k hfind
          refine Or.inr ⟨hubuf.trans hsome, hcount.trans (hucount.trans hnew), Or.inl
            ⟨port, n, rfl, rfl, hufrom.trans h.recvFrom, ?_, ?_⟩⟩
          · rw [hall.socketCount]
            exact hlt
          · rw [hall.localPort]
            exact hport

/-- The completion of a receive of the server. -/
theorem adds_serverRead {status : Bool} (hfound : s.Found) (hbuf : s.wsaBuf = none) :
    Adds (.serverRead port n status) s (s.callback a (.serverRead port n status)) := by
  generalize hfrom : ({ s with recvFrom := port } : Socks5LocalUdpProxyServer) = u
  have hself : Prepares port s u := by
    subst hfrom
    exact ⟨rfl, Nat.le_refl _, fun _ => Nat.le_add_right _ _, Or.inl rfl, fun _ _ => rfl, hfound,
      rfl, rfl⟩
  have hsame : u.wsaBuf = none ∧ u.packetCount = s.packetCount ∧ u.socketCount = s.socketCount := by
    subst hfrom
    exact ⟨hbuf, rfl, rfl⟩
  cases status with
  | false =>
    have hcallback : s.callback a (.serverRead port n false) = u.wsaRecvFrom a.recv :=
      hfrom ▸ rfl
    rw [hcallback]
    exact hself.adds (.refl u) (fun _ _ => rfl) (fun _ => hsame.2.2) (Or.inl hsame.2.1)
      (Or.inl hself.sends) fun _ => hsame.1
  | true =>
    rcases eq_or_ne n 0 with rfl | hn
    · have hcallback : s.callback a (.serverRead port 0 true) =
          (u.dispatch true u.proxySocketPtr (forwardToRemote a)).wsaRecvFrom a.recv := hfrom ▸ rfl
      rw [hcallback]
      exact hself.dispatch (Or.inl ⟨hsame.1, hsame.2.1⟩)
    · have hcallback : s.callback a (.serverRead port n true) =
          (if (u.prepare a).1 then (u.prepare a).2.dispatch true (u.prepare a).2.proxySocketPtr
            (forwardToRemote a) else (u.prepare a).2).wsaRecvFrom a.recv := by
        have hne : (n != 0) = true := bne_iff_ne.mpr hn
        unfold callback
        simp only [Bool.true_and, hne, if_true, hfrom]
      have hprepare := prepares_prepare (s := u) (a := a) hself.found hsame.1
      rw [hself.recvFrom] at hprepare
      obtain ⟨hprepares, hfail, hsuccess⟩ := hprepare
      have hprepares' : Prepares port s (u.prepare a).2 := by
        subst hfrom
        exact ⟨hprepares.queue, hprepares.serverReads, hprepares.remoteReads, hprepares.sockets,
          hprepares.localPort, hprepares.found, hprepares.sends, hprepares.recvFrom⟩
      rw [hcallback]
      cases hresult : (u.prepare a).1 with
      | false =>
        obtain ⟨hnone, hcount⟩ := hfail hresult
        exact hprepares'.adds (.refl _) (fun _ _ => rfl) nofun (Or.inl (hcount.trans hsame.2.1))
          (Or.inl hprepares'.sends) fun _ => hnone
      | true =>
        obtain ⟨hsome, hcount, hfind⟩ := hsuccess hresult
        rw [hsame.2.1] at hsome hcount
        exact hprepares'.dispatch (Or.inr ⟨hsome, hcount, hfind⟩)

/-- A callback adds what it does, whatever it is called for. -/
theorem adds_callback (hfound : s.Found) (hbuf : s.wsaBuf = none) :
    Adds c s (s.callback a c) := by
  cases c with
  | serverRead => exact adds_serverRead hfound hbuf
  | remoteRead => exact adds_remoteRead hfound hbuf
  | send => exact adds_send hfound hbuf

end Socks5LocalUdpProxyServer

/-! ## The memory of a server -/

/-- A datagram and the peer it comes from. -/
structure UdpMessage where
  peer : IpEndpoint IpAddressV4
  bytes : List UInt8

/-- A server with its memory, what its socket received, and what its proxy sockets received. -/
structure UdpRelay where
  server : Socks5LocalUdpProxyServer
  /-- `recv_from_sa_`. -/
  recvFromSa : IpEndpoint IpAddressV4
  /-- `server_receive_buffer_`. -/
  serverReceiveBuffer : List UInt8
  /-- `from_remote_to_local_buffer_` of the proxy sockets. -/
  fromRemoteToLocalBuffer : Nat → List UInt8
  /-- `local_address_sa_` of the proxy sockets. -/
  localAddressSa : Nat → IpEndpoint IpAddressV4
  /-- The packets. -/
  packet : Nat → List UInt8
  arrived : List UdpMessage
  received : Nat → List (List UInt8)

namespace UdpRelay

/-- A buffer after a receive. -/
def overwrite (bytes buffer : List UInt8) : List UInt8 := bytes ++ buffer.drop bytes.length

/-- What a callback copies to the packet it allocates. -/
def copied (c : UdpCompletion) (s : UdpRelay) : List UInt8 :=
  match c with
  | .serverRead _ numBytes _ => s.serverReceiveBuffer.take numBytes
  | .remoteRead k numBytes _ => (s.fromRemoteToLocalBuffer k).take numBytes
  | .send _ _ => []

/-- The memory after a callback that leaves the server `t`: the packet it allocated is filled, and
the proxy socket it made has the address of the datagram. -/
def ran (c : UdpCompletion) (t : Socks5LocalUdpProxyServer) (s : UdpRelay) : UdpRelay :=
  { s with
    server := t
    packet := if t.packetCount = s.server.packetCount then s.packet
      else Function.update s.packet s.server.packetCount (s.copied c)
    localAddressSa := if t.socketCount = s.server.socketCount then s.localAddressSa
      else Function.update s.localAddressSa s.server.socketCount s.recvFromSa }

/-- What happens to a server and its memory. -/
inductive Event where
  /-- The receive of the server completes. -/
  | serverRead (source : IpEndpoint IpAddressV4) (bytes : List UInt8) (status : Bool)
  /-- The receive of a proxy socket completes. -/
  | remoteRead (k : Nat) (bytes : List UInt8) (status : Bool)
  /-- A send completes. -/
  | sent (context : Nat) (status : Bool)
  | callback (a : UdpAnswers) (c : UdpCompletion)
  | clear (now : TimePoint)

/-- The datagram that arrives at the socket of the server, with the port it comes from. -/
def Event.arrival : Event → List (UInt16 × List UInt8)
  | .serverRead source bytes true => [(source.port, bytes)]
  | _ => []

/-- One step of the server and its memory. -/
inductive Step : UdpRelay → Event → UdpRelay → Prop
  | serverRead {s : UdpRelay} {t : Socks5LocalUdpProxyServer} (source : IpEndpoint IpAddressV4)
      (bytes : List UInt8) (status : Bool) :
      Socks5LocalUdpProxyServer.Step s.server
        (.complete (.serverRead source.port bytes.length status)) t →
      Step s (.serverRead source bytes status)
        { s with
          server := t
          recvFromSa := source
          serverReceiveBuffer := overwrite bytes s.serverReceiveBuffer
          arrived := if status then s.arrived ++ [⟨source, bytes⟩] else s.arrived }
  | remoteRead {s : UdpRelay} {t : Socks5LocalUdpProxyServer} (k : Nat) (bytes : List UInt8)
      (status : Bool) :
      Socks5LocalUdpProxyServer.Step s.server (.complete (.remoteRead k bytes.length status)) t →
      Step s (.remoteRead k bytes status)
        { s with
          server := t
          fromRemoteToLocalBuffer := Function.update s.fromRemoteToLocalBuffer k
            (overwrite bytes (s.fromRemoteToLocalBuffer k))
          received := if status then Function.update s.received k (s.received k ++ [bytes])
            else s.received }
  | sent {s : UdpRelay} {t : Socks5LocalUdpProxyServer} (context : Nat) (status : Bool) :
      Socks5LocalUdpProxyServer.Step s.server (.complete (.send context status)) t →
      Step s (.sent context status) { s with server := t }
  | callback {s : UdpRelay} {t : Socks5LocalUdpProxyServer} (a : UdpAnswers) (c : UdpCompletion) :
      Socks5LocalUdpProxyServer.Step s.server (.callback a c) t →
      Step s (.callback a c) (s.ran c t)
  | clear {s : UdpRelay} {t : Socks5LocalUdpProxyServer} (now : TimePoint) :
      Socks5LocalUdpProxyServer.Step s.server (.clear now) t →
      Step s (.clear now) { s with server := t }

/-- The runs of a server whose first `WSARecvFrom` was accepted, from any memory. -/
def system : System UdpRelay Event where
  init s := s.server = { pending := {.serverRead} } ∧ s.arrived = [] ∧ ∀ k, s.received k = []
  step := Step

/-! ## What was sent -/

/-- The bytes of a send. -/
def carried (s : UdpRelay) (x : UdpSend) : Option (List UInt8) := x.packet.map s.packet

/-- A datagram for the upstream server, and the port of the client it is of. -/
def toUpstream (s : UdpRelay) (x : UdpSend) : Option (UInt16 × List UInt8) :=
  if x.isLocal then none else (s.carried x).map (Prod.mk x.source)

/-- A datagram a proxy socket sends to its client. -/
def toClient (k : Nat) (s : UdpRelay) (x : UdpSend) : Option (List UInt8) :=
  if x.isLocal ∧ x.proxySocket = k then s.carried x else none

/-- What was sent to the upstream server. -/
def upstream (s : UdpRelay) : List (UInt16 × List UInt8) := s.server.sends.filterMap s.toUpstream

/-- What a proxy socket sent to its client. -/
def downstream (k : Nat) (s : UdpRelay) : List (List UInt8) :=
  s.server.sends.filterMap (s.toClient k)

/-- What arrived at the socket of the server, with the ports it came from. -/
def arrivals (s : UdpRelay) : List (UInt16 × List UInt8) :=
  s.arrived.map fun d => (d.peer.port, d.bytes)

/-! ## The invariant -/

variable {s u : UdpRelay} {t : Socks5LocalUdpProxyServer} {e : Event} {c : UdpCompletion}
  {op : UdpOperation} {k n : Nat}

/-- The receives of a kind the system holds, and those that completed and were not dispatched. -/
def reads (op : UdpOperation) (s : UdpRelay) : Nat :=
  s.server.pending.count op + (s.server.queue.map UdpCompletion.operation).count op

/-- What holds between the steps. -/
structure Inv (s : UdpRelay) : Prop where
  found : s.server.Found
  wsaBuf : s.server.faulted = false → s.server.wsaBuf = none
  oneServerRead : s.reads .serverRead ≤ 1
  oneRemoteRead : ∀ k, s.reads (.remoteRead k) ≤ if k < s.server.socketCount then 1 else 0
  packets : ∀ x ∈ s.server.sends, ∀ p, x.packet = some p → p < s.server.packetCount
  sources : ∀ x ∈ s.server.sends, x.packet.isSome = true → x.proxySocket < s.server.socketCount ∧
    (x.isLocal = false → (s.server.socket x.proxySocket).localPort = x.source)
  addresses : ∀ k < s.server.socketCount,
    (s.localAddressSa k).port = (s.server.socket k).localPort ∧
      ∃ d ∈ s.arrived, d.peer = s.localAddressSa k
  upstream : s.upstream.Sublist s.arrivals
  downstream : ∀ k, (s.downstream k).Sublist (s.received k)
  serverBuffer : ∀ port n, .serverRead port n true ∈ s.server.queue →
    s.recvFromSa.port = port ∧ (∃ d ∈ s.arrived, d.peer = s.recvFromSa) ∧
      (s.upstream ++ [(port, s.serverReceiveBuffer.take n)]).Sublist s.arrivals
  remoteBuffer : ∀ k n, .remoteRead k n true ∈ s.server.queue →
    (s.downstream k ++ [(s.fromRemoteToLocalBuffer k).take n]).Sublist (s.received k)

theorem Inv.remoteReads_le_one (h : s.Inv) (k : Nat) : s.reads (.remoteRead k) ≤ 1 := by
  refine (h.oneRemoteRead k).trans ?_
  split <;> omega

theorem one_le_count (h : c ∈ s.server.queue) :
    1 ≤ (s.server.queue.map UdpCompletion.operation).count c.operation :=
  Multiset.one_le_count_iff_mem.mpr (Multiset.mem_map_of_mem _ h)

theorem take_overwrite (bytes buffer : List UInt8) :
    (overwrite bytes buffer).take bytes.length = bytes := List.take_left' rfl

/-- When a receive completes, no completion of it waits. -/
theorem notMem_of_pending {rest : Multiset UdpOperation}
    (hone : s.reads c.operation ≤ 1) (hpending : s.server.pending = c.operation ::ₘ rest)
    {c' : UdpCompletion} (h : c'.operation = c.operation) : c' ∉ s.server.queue := by
  intro hmem
  have := one_le_count hmem
  rw [reads, hpending, Multiset.count_cons_self] at hone
  rw [h] at this
  omega

/-- A completion moves a call from the system to the queue. -/
theorem reads_complete {rest : Multiset UdpOperation}
    (hpending : s.server.pending = c.operation ::ₘ rest)
    (ht : u.server.pending = rest ∧ u.server.queue = c ::ₘ s.server.queue) :
    u.reads op = s.reads op := by
  rw [reads, reads, ht.1, ht.2, hpending, Multiset.map_cons, Multiset.count_cons,
    Multiset.count_cons]
  omega

/-- What was sent stays the same while the packets do. -/
theorem upstream_append {xs : List UdpSend} (hsends : u.server.sends = s.server.sends ++ xs)
    (hcarried : ∀ x ∈ s.server.sends, u.carried x = s.carried x) :
    u.upstream = s.upstream ++ xs.filterMap u.toUpstream := by
  rw [upstream, upstream, hsends, List.filterMap_append]
  refine congrArg (· ++ _) (List.filterMap_congr fun x hx => ?_)
  rw [toUpstream, toUpstream, hcarried x hx]

theorem downstream_append {xs : List UdpSend} (hsends : u.server.sends = s.server.sends ++ xs)
    (hcarried : ∀ x ∈ s.server.sends, u.carried x = s.carried x) :
    u.downstream k = s.downstream k ++ xs.filterMap (u.toClient k) := by
  rw [downstream, downstream, hsends, List.filterMap_append]
  refine congrArg (· ++ _) (List.filterMap_congr fun x hx => ?_)
  rw [toClient, toClient, hcarried x hx]

theorem upstream_congr (hsends : u.server.sends = s.server.sends)
    (hcarried : ∀ x ∈ s.server.sends, u.carried x = s.carried x) : u.upstream = s.upstream :=
  (upstream_append (hsends.trans (List.append_nil _).symm) hcarried).trans (List.append_nil _)

theorem downstream_congr (hsends : u.server.sends = s.server.sends)
    (hcarried : ∀ x ∈ s.server.sends, u.carried x = s.carried x) :
    u.downstream k = s.downstream k :=
  (downstream_append (hsends.trans (List.append_nil _).symm) hcarried).trans (List.append_nil _)

/-- The completion of a call. One of a receive writes to the buffer of it only. -/
theorem Inv.complete {rest : Multiset UdpOperation} (h : s.Inv)
    (hpending : s.server.pending = c.operation ::ₘ rest)
    (hserver : u.server = { s.server with pending := rest, queue := c ::ₘ s.server.queue })
    (hpacket : u.packet = s.packet) (haddress : u.localAddressSa = s.localAddressSa)
    (harrived : s.arrived <+: u.arrived) (hreceived : ∀ k, s.received k <+: u.received k)
    (hserverBuffer : ∀ port n, c = .serverRead port n true →
      u.recvFromSa.port = port ∧ (∃ d ∈ u.arrived, d.peer = u.recvFromSa) ∧
        (s.upstream ++ [(port, u.serverReceiveBuffer.take n)]).Sublist u.arrivals)
    (hremoteBuffer : ∀ k n, c = .remoteRead k n true →
      (s.downstream k ++ [(u.fromRemoteToLocalBuffer k).take n]).Sublist (u.received k))
    (hserverKept : c.operation ≠ .serverRead → u.recvFromSa = s.recvFromSa ∧
      u.serverReceiveBuffer = s.serverReceiveBuffer)
    (hremoteKept : ∀ k, c.operation ≠ .remoteRead k →
      u.fromRemoteToLocalBuffer k = s.fromRemoteToLocalBuffer k) : u.Inv := by
  have hreads (op : UdpOperation) : u.reads op = s.reads op :=
    reads_complete hpending (by rw [hserver]; exact ⟨rfl, rfl⟩)
  have hqueue : u.server.queue = c ::ₘ s.server.queue := by rw [hserver]
  have hsame : u.server.sends = s.server.sends ∧ u.server.socketCount = s.server.socketCount ∧
      u.server.socket = s.server.socket ∧ u.server.packetCount = s.server.packetCount := by
    rw [hserver]
    exact ⟨rfl, rfl, rfl, rfl⟩
  obtain ⟨hsends, hcount, hsocket, hpackets⟩ := hsame
  have hcarried : ∀ x ∈ s.server.sends, u.carried x = s.carried x := fun x _ => by
    rw [carried, carried, hpacket]
  have hup := upstream_congr hsends hcarried
  have hdown (k : Nat) := downstream_congr (k := k) hsends hcarried
  have harrivals : s.arrivals.Sublist u.arrivals := (harrived.sublist).map _
  refine ⟨?_, ?_, (hreads _).trans_le h.oneServerRead, fun k => ?_, ?_, ?_, fun k hk => ?_, ?_,
    fun k => ?_, fun port n hmem => ?_, fun k n hmem => ?_⟩
  · rw [hserver]
    exact h.found
  · rw [hserver]
    exact h.wsaBuf
  · rw [hreads, hcount]
    exact h.oneRemoteRead k
  · rw [hsends, hpackets]
    exact h.packets
  · rw [hsends, hcount, hsocket]
    exact h.sources
  · rw [hcount] at hk
    obtain ⟨hport, d, hd, hpeer⟩ := h.addresses k hk
    rw [haddress, hsocket]
    exact ⟨hport, d, harrived.subset hd, hpeer⟩
  · rw [hup]
    exact h.upstream.trans harrivals
  · rw [hdown]
    exact (h.downstream k).trans (hreceived k).sublist
  · rw [hup]
    rw [hqueue] at hmem
    rcases Multiset.mem_cons.mp hmem with hc | hmem
    · exact hserverBuffer port n hc.symm
    · have hother : c.operation ≠ .serverRead := fun hop =>
        have hsame : (UdpCompletion.serverRead port n true).operation = c.operation := hop.symm
        notMem_of_pending (by rw [hop]; exact h.oneServerRead) hpending hsame hmem
      obtain ⟨hfrom, hbuffer⟩ := hserverKept hother
      obtain ⟨hport, ⟨d, hd, hpeer⟩, hsub⟩ := h.serverBuffer port n hmem
      rw [hfrom, hbuffer]
      exact ⟨hport, ⟨d, harrived.subset hd, hpeer⟩, hsub.trans harrivals⟩
  · rw [hdown]
    rw [hqueue] at hmem
    rcases Multiset.mem_cons.mp hmem with hc | hmem
    · exact hremoteBuffer k n hc.symm
    · have hother : c.operation ≠ .remoteRead k := fun hop => by
        have hone : s.reads c.operation ≤ 1 := by
          rw [hop]
          exact h.remoteReads_le_one k
        have hsame : (UdpCompletion.remoteRead k n true).operation = c.operation := hop.symm
        exact notMem_of_pending hone hpending hsame hmem
      rw [hremoteKept k hother]
      exact (h.remoteBuffer k n hmem).trans (hreceived k).sublist

/-- The completion of a receive of the server. -/
theorem Inv.serverRead (h : s.Inv) (source : IpEndpoint IpAddressV4) (bytes : List UInt8)
    (status : Bool) (hstep : Socks5LocalUdpProxyServer.Step s.server
      (.complete (.serverRead source.port bytes.length status)) t) :
    Inv { s with
      server := t
      recvFromSa := source
      serverReceiveBuffer := overwrite bytes s.serverReceiveBuffer
      arrived := if status then s.arrived ++ [⟨source, bytes⟩] else s.arrived } := by
  cases hstep with
  | complete hpending haborted =>
    have harrived : s.arrived <+: if status then s.arrived ++ [⟨source, bytes⟩] else s.arrived := by
      split
      · exact List.prefix_append _ _
      · exact List.prefix_rfl
    refine h.complete hpending rfl rfl rfl harrived (fun _ => List.prefix_rfl)
      (fun port n hc => ?_) nofun (fun hother => absurd rfl hother) fun _ _ => rfl
    cases hc
    dsimp only
    rw [arrivals, if_pos rfl, List.map_append, take_overwrite]
    refine ⟨rfl, ⟨_, List.mem_append_right _ (List.mem_singleton_self _), rfl⟩, ?_⟩
    exact List.Sublist.append h.upstream (List.Sublist.refl _)

/-- The completion of a receive of a proxy socket. -/
theorem Inv.remoteRead (h : s.Inv) (k : Nat) (bytes : List UInt8) (status : Bool)
    (hstep : Socks5LocalUdpProxyServer.Step s.server
      (.complete (.remoteRead k bytes.length status)) t) :
    Inv { s with
      server := t
      fromRemoteToLocalBuffer := Function.update s.fromRemoteToLocalBuffer k
        (overwrite bytes (s.fromRemoteToLocalBuffer k))
      received := if status then Function.update s.received k (s.received k ++ [bytes])
        else s.received } := by
  cases hstep with
  | complete hpending haborted =>
    refine h.complete hpending rfl rfl rfl List.prefix_rfl (fun j => ?_) nofun (fun j n hc => ?_)
      (fun _ => ⟨rfl, rfl⟩) fun j hj => Function.update_of_ne
        (fun hjk => hj (congrArg UdpOperation.remoteRead hjk.symm)) ..
    · dsimp only
      split
      · rcases eq_or_ne j k with rfl | hj
        · rw [Function.update_self]
          exact List.prefix_append _ _
        · simp only [Function.update_of_ne hj, List.prefix_rfl]
      · exact List.prefix_rfl
    · cases hc
      dsimp only
      rw [if_pos rfl, Function.update_self, Function.update_self, take_overwrite]
      exact List.Sublist.append (h.downstream k) (List.Sublist.refl _)

/-- The completion of a send. -/
theorem Inv.sent (h : s.Inv) (context : Nat) (status : Bool)
    (hstep : Socks5LocalUdpProxyServer.Step s.server (.complete (.send context status)) t) :
    Inv { s with server := t } := by
  cases hstep with
  | complete hpending haborted =>
    exact h.complete hpending rfl rfl rfl List.prefix_rfl (fun _ => List.prefix_rfl) nofun nofun
      (fun _ => ⟨rfl, rfl⟩) fun _ _ => rfl

/-- A pass of `clear_thread`. -/
theorem Inv.clear (h : s.Inv) (now : TimePoint)
    (hstep : Socks5LocalUdpProxyServer.Step s.server (.clear now) t) :
    Inv { s with server := t } := by
  cases hstep with
  | clear hlive =>
    exact ⟨fun p k hfind => h.found p k (Table.find_sweep.mp hfind).1, h.wsaBuf, h.oneServerRead,
      h.oneRemoteRead, h.packets, h.sources, h.addresses, h.upstream, h.downstream, h.serverBuffer,
      h.remoteBuffer⟩

/-! ## The callback -/

theorem packet_ran (hnew : t.packetCount = s.server.packetCount + 1) :
    (s.ran c t).packet = Function.update s.packet s.server.packetCount (s.copied c) :=
  if_neg (by omega)

theorem localAddressSa_ran (hnew : t.socketCount = s.server.socketCount + 1) :
    (s.ran c t).localAddressSa =
      Function.update s.localAddressSa s.server.socketCount s.recvFromSa :=
  if_neg (by omega)

/-- What was sent before a callback keeps its packets. -/
theorem carried_ran (h : s.Inv) {x : UdpSend} (hx : x ∈ s.server.sends) :
    (s.ran c t).carried x = s.carried x := by
  rw [carried, carried]
  cases hpacket : x.packet with
  | none => rfl
  | some p =>
    have hp := h.packets x hx p hpacket
    unfold ran
    dsimp only [Option.map_some]
    split
    · rfl
    · rw [Function.update_of_ne (Nat.ne_of_lt hp)]

open Socks5LocalUdpProxyServer in
/-- A callback sends the datagram it is called for, or nothing. -/
theorem sent_ran (h : s.Inv) (hsends : t.sends = s.server.sends ∨
      ∃ x, t.sends = s.server.sends ++ [x] ∧ (x.packet = none ∨
        x.packet = some s.server.packetCount ∧ t.packetCount = s.server.packetCount + 1 ∧
          t.Carries c x)) :
    ((s.ran c t).upstream = s.upstream ∨ ∃ port n, c = .serverRead port n true ∧
      (s.ran c t).upstream = s.upstream ++ [(port, s.serverReceiveBuffer.take n)]) ∧
    ∀ k, (s.ran c t).downstream k = s.downstream k ∨ ∃ n, c = .remoteRead k n true ∧
      (s.ran c t).downstream k = s.downstream k ++ [(s.fromRemoteToLocalBuffer k).take n] := by
  rcases hsends with hsends | ⟨x, hsends, hx⟩
  · exact ⟨Or.inl (upstream_congr hsends fun _ => carried_ran h),
      fun k => Or.inl (downstream_congr hsends fun _ => carried_ran h)⟩
  · have hup : (s.ran c t).upstream = s.upstream ++ [x].filterMap (s.ran c t).toUpstream :=
      upstream_append hsends fun _ => carried_ran h
    have hdown (k : Nat) : (s.ran c t).downstream k =
        s.downstream k ++ [x].filterMap ((s.ran c t).toClient k) :=
      downstream_append hsends fun _ => carried_ran h
    simp only [hup, hdown]
    rcases hx with hnone | ⟨hsome, hnew, hcarries⟩
    · simp [toUpstream, toClient, carried, hnone]
    · have hcarried : (s.ran c t).carried x = some (s.copied c) := by
        rw [carried, hsome, Option.map_some, packet_ran hnew, Function.update_self]
      rcases hcarries with ⟨port, n, rfl, hlocal, rfl, -, -⟩ | ⟨n, rfl, hlocal⟩
      · refine ⟨Or.inr ⟨x.source, n, rfl, ?_⟩, fun k => Or.inl ?_⟩
        · simp [toUpstream, hlocal, hcarried, copied]
        · simp [toClient, hlocal]
      · refine ⟨Or.inl ?_, fun k => ?_⟩
        · simp [toUpstream, hlocal]
        · rcases eq_or_ne x.proxySocket k with rfl | hk
          · exact Or.inr ⟨n, rfl, by simp [toClient, hlocal, hcarried, copied]⟩
          · exact Or.inl (by simp [toClient, hk])

section Ran

variable {rest : Multiset UdpCompletion}

/-- The receives of a kind, with the completion a callback is called for. -/
theorem reads_before (hqueue : s.server.queue = c ::ₘ rest) (op : UdpOperation) :
    s.reads op = s.server.pending.count op +
      ((rest.map UdpCompletion.operation).count op + if c.operation = op then 1 else 0) := by
  rw [reads, hqueue, Multiset.map_cons, Multiset.count_cons, if_congr eq_comm rfl rfl]

/-- The receives of a kind after the callback. -/
theorem reads_ran (hqueue : t.queue = rest) (op : UdpOperation) :
    (s.ran c t).reads op =
      t.pending.count op + (rest.map UdpCompletion.operation).count op := by
  rw [← hqueue]
  rfl

/-- The completion of a receive that is the only one of its kind was the last of its kind. -/
theorem notMem_of_taken (hqueue : s.server.queue = c ::ₘ rest) (hone : s.reads c.operation ≤ 1)
    {c' : UdpCompletion} (h : c'.operation = c.operation) : c' ∉ rest := by
  intro hmem
  have hrest := Multiset.one_le_count_iff_mem.mpr
    (Multiset.mem_map_of_mem UdpCompletion.operation hmem)
  rw [reads_before hqueue, if_pos rfl, ← h] at hone
  omega

/-- A proxy socket that receives was made. -/
theorem Inv.remoteRead_lt (h : s.Inv) (hmem : c ∈ s.server.queue)
    (hc : c.operation = .remoteRead k) : k < s.server.socketCount := by
  by_contra hlt
  have hnone := h.oneRemoteRead k
  have hone := one_le_count hmem
  rw [if_neg hlt, reads, ← hc] at hnone
  omega

variable (hadds : Socks5LocalUdpProxyServer.Adds c { s.server with queue := rest } t)
include hadds

theorem socketCount_ran : s.server.socketCount ≤ t.socketCount :=
  hadds.sockets.elim (·.ge) fun hnew => hnew.1 ▸ Nat.le_succ _

/-- The server receives one datagram at a time. -/
theorem Inv.serverReads_ran (h : s.Inv) (hqueue : s.server.queue = c ::ₘ rest) :
    (s.ran c t).reads .serverRead ≤ 1 := by
  have hone := h.oneServerRead
  have hadded := hadds.serverReads
  have hrest : t.queue = rest := hadds.queue
  rw [reads_before hqueue] at hone
  rw [reads_ran hrest]
  dsimp only at hadded
  omega

/-- So does every proxy socket, from when it is made. -/
theorem Inv.remoteReads_ran (h : s.Inv) (hqueue : s.server.queue = c ::ₘ rest) (k : Nat) :
    (s.ran c t).reads (.remoteRead k) ≤ if k < t.socketCount then 1 else 0 := by
  have hone := h.oneRemoteRead k
  have hadded := hadds.remoteReads k
  have hcount := socketCount_ran hadds
  have hrest : t.queue = rest := hadds.queue
  rw [reads_before hqueue] at hone
  rw [reads_ran hrest]
  dsimp only at hadded
  by_cases hc : c.operation = .remoteRead k
  · have hk := h.remoteRead_lt (hqueue ▸ Multiset.mem_cons_self c rest) hc
    rw [if_pos hk, if_pos hc] at hone
    rw [if_pos (Or.inl hc)] at hadded
    exact (by omega : _ ≤ 1).trans (if_pos (hk.trans_le hcount)).ge
  · by_cases hnew : k = s.server.socketCount ∧ s.server.socketCount < t.socketCount
    · rw [if_neg (Nat.not_lt.mpr hnew.1.ge)] at hone
      rw [if_pos (Or.inr hnew)] at hadded
      exact (by omega : _ ≤ 1).trans (if_pos (hnew.1 ▸ hnew.2)).ge
    · rw [if_neg (not_or.mpr ⟨hc, hnew⟩)] at hadded
      refine ((by omega : _ ≤ _).trans hone).trans ?_
      split
      · next hk => exact (if_pos (hk.trans_le hcount)).ge
      · exact Nat.zero_le _

/-- What was sent was sent with packets that were allocated. -/
theorem Inv.packets_ran (h : s.Inv) :
    ∀ x ∈ t.sends, ∀ p, x.packet = some p → p < t.packetCount := by
  have hpackets : s.server.packetCount ≤ t.packetCount :=
    hadds.packets.elim (·.ge) fun hnew => hnew ▸ Nat.le_succ _
  have hold : ∀ x ∈ s.server.sends, ∀ p, x.packet = some p → p < t.packetCount :=
    fun x hx p hp => (h.packets x hx p hp).trans_le hpackets
  rcases hadds.sends with hsends | ⟨x, hsends, hx⟩
  · rw [hsends]
    exact hold
  · rw [hsends]
    intro y hy p hp
    rcases List.mem_append.mp hy with hy | hy
    · exact hold y hy p hp
    · obtain rfl := List.mem_singleton.mp hy
      rcases hx with hnone | ⟨hsome, hnew, -⟩
      · cases hnone.symm.trans hp
      · obtain rfl := Option.some.inj (hsome.symm.trans hp)
        exact (Nat.lt_succ_self _).trans_eq hnew.symm

/-- A datagram goes through the proxy socket of the port it came from. -/
theorem Inv.sources_ran (h : s.Inv) (hqueue : s.server.queue = c ::ₘ rest) :
    ∀ x ∈ t.sends, x.packet.isSome = true → x.proxySocket < t.socketCount ∧
      (x.isLocal = false → (t.socket x.proxySocket).localPort = x.source) := by
  have hcount := socketCount_ran hadds
  have hold : ∀ x ∈ s.server.sends, x.packet.isSome = true → x.proxySocket < t.socketCount ∧
      (x.isLocal = false → (t.socket x.proxySocket).localPort = x.source) := fun x hx hp => by
    obtain ⟨hlt, hsource⟩ := h.sources x hx hp
    exact ⟨hlt.trans_le hcount, fun hl => (hadds.localPort _ hlt).trans (hsource hl)⟩
  rcases hadds.sends with hsends | ⟨x, hsends, hx⟩
  · rw [hsends]
    exact hold
  · rw [hsends]
    intro y hy hp
    rcases List.mem_append.mp hy with hy | hy
    · exact hold y hy hp
    · obtain rfl := List.mem_singleton.mp hy
      rcases hx with hnone | ⟨-, -, ⟨port, n, -, -, hsource, hlt, hport⟩ | ⟨n, hc, hlocal⟩⟩
      · rw [hnone] at hp
        cases hp
      · exact ⟨hlt, fun _ => hport.trans hsource.symm⟩
      · have hlt := h.remoteRead_lt (k := y.proxySocket)
          (hqueue ▸ Multiset.mem_cons_self c rest) (hc ▸ rfl)
        exact ⟨hlt.trans_le hcount, fun hl => absurd (hlocal.symm.trans hl) nofun⟩

/-- A proxy socket sends to an address of its port that a datagram came from. -/
theorem Inv.addresses_ran (h : s.Inv) (hmem : c ∈ s.server.queue) (hk : k < t.socketCount) :
    ((s.ran c t).localAddressSa k).port = (t.socket k).localPort ∧
      ∃ d ∈ s.arrived, d.peer = (s.ran c t).localAddressSa k := by
  rcases hadds.sockets with hsame | ⟨hnew, port, n, rfl, hport⟩
  · have hlt : k < s.server.socketCount := hsame ▸ hk
    have haddress : (s.ran c t).localAddressSa = s.localAddressSa := if_pos hsame
    rw [haddress]
    exact (h.addresses k hlt).imp_left (·.trans (hadds.localPort k hlt).symm)
  · rw [localAddressSa_ran hnew]
    rcases Nat.lt_or_eq_of_le (Nat.le_of_lt_succ (hk.trans_eq hnew)) with hlt | rfl
    · rw [Function.update_of_ne (Nat.ne_of_lt hlt)]
      exact (h.addresses k hlt).imp_left (·.trans (hadds.localPort k hlt).symm)
    · rw [Function.update_self]
      obtain ⟨hfrom, hpeer, -⟩ := h.serverBuffer port n hmem
      exact ⟨hfrom.trans hport.symm, hpeer⟩

end Ran

/-- A callback, which takes a completion and adds what it does. -/
theorem Inv.callback (h : s.Inv) (a : UdpAnswers)
    (hstep : Socks5LocalUdpProxyServer.Step s.server (.callback a c) t) : (s.ran c t).Inv := by
  cases hstep with
  | @callback _ rest _ hlive hqueue =>
    have hadds := Socks5LocalUdpProxyServer.adds_callback (a := a) (c := c)
      (s := { s.server with queue := rest }) h.found (h.wsaBuf hlive)
    generalize Socks5LocalUdpProxyServer.callback a c { s.server with queue := rest } = t at hadds
    have hmem : c ∈ s.server.queue := hqueue ▸ Multiset.mem_cons_self c rest
    have hrest : t.queue = rest := hadds.queue
    have hsub : ∀ {c' : UdpCompletion}, c' ∈ rest → c' ∈ s.server.queue := fun hc' =>
      hqueue ▸ Multiset.mem_cons_of_mem hc'
    obtain ⟨hup, hdown⟩ := sent_ran h hadds.sends
    refine ⟨hadds.found, hadds.wsaBuf, h.serverReads_ran hadds hqueue,
      h.remoteReads_ran hadds hqueue, h.packets_ran hadds, h.sources_ran hadds hqueue,
      fun k hk => h.addresses_ran hadds hmem hk, ?_, fun k => ?_, fun port n hread => ?_,
      fun k n hread => ?_⟩
    · rcases hup with hup | ⟨port, n, rfl, hup⟩
      · rw [hup]
        exact h.upstream
      · rw [hup]
        exact (h.serverBuffer port n hmem).2.2
    · rcases hdown k with hdown | ⟨n, rfl, hdown⟩
      · rw [hdown]
        exact h.downstream k
      · rw [hdown]
        exact h.remoteBuffer k n hmem
    · have htaken : .serverRead port n true ∈ rest := hrest ▸ hread
      rcases hup with hup | ⟨port', n', rfl, -⟩
      · rw [hup]
        exact h.serverBuffer port n (hsub htaken)
      · exact absurd htaken (notMem_of_taken hqueue h.oneServerRead rfl)
    · have htaken : .remoteRead k n true ∈ rest := hrest ▸ hread
      rcases hdown k with hdown | ⟨n', rfl, -⟩
      · rw [hdown]
        exact h.remoteBuffer k n (hsub htaken)
      · exact absurd htaken (notMem_of_taken hqueue (h.remoteReads_le_one k) rfl)

theorem Inv.init (h : system.init s) : s.Inv := by
  obtain ⟨hserver, harrived, hreceived⟩ := h
  have hempty : s.server.sends = [] ∧ s.server.socketCount = 0 ∧ s.server.queue = 0 ∧
      s.server.pending = {.serverRead} := by
    rw [hserver]
    exact ⟨rfl, rfl, rfl, rfl⟩
  obtain ⟨hsends, hcount, hqueue, hpending⟩ := hempty
  have hreads (op : UdpOperation) : s.reads op = if op = .serverRead then 1 else 0 := by
    rw [reads, hqueue, hpending]
    exact Multiset.count_singleton op UdpOperation.serverRead
  refine ⟨?_, fun _ => ?_, (hreads _).le, fun k => ?_, ?_, ?_, fun k hk => ?_, ?_, fun k => ?_, ?_,
    ?_⟩
  · rw [hserver]
    exact nofun
  · rw [hserver]
  · rw [hreads, hcount]
    exact Nat.le_refl 0
  · rw [hsends]
    exact nofun
  · rw [hsends]
    exact nofun
  · rw [hcount] at hk
    cases hk
  · rw [UdpRelay.upstream, hsends]
    exact List.nil_sublist _
  · rw [UdpRelay.downstream, hsends]
    exact List.nil_sublist _
  · simp [hqueue]
  · simp [hqueue]

theorem Inv.step (h : s.Inv) (hstep : Step s e u) : u.Inv := by
  cases hstep with
  | serverRead source bytes status hstep => exact h.serverRead source bytes status hstep
  | remoteRead k bytes status hstep => exact h.remoteRead k bytes status hstep
  | sent context status hstep => exact h.sent context status hstep
  | callback a c hstep => exact h.callback a hstep
  | clear now hstep => exact h.clear now hstep

/-- A step keeps the proxy sockets there are and what they received, and only a successful receive
of the server adds to what arrived. -/
theorem Inv.keeps_step (h : s.Inv) (hstep : Step s e u) :
    (∀ k, s.received k <+: u.received k) ∧ s.server.socketCount ≤ u.server.socketCount ∧
      (∀ k < s.server.socketCount,
        (u.server.socket k).localPort = (s.server.socket k).localPort) ∧
      u.arrivals = s.arrivals ++ e.arrival := by
  cases hstep with
  | serverRead source bytes status hstep =>
    cases hstep
    refine ⟨fun _ => List.prefix_rfl, Nat.le_refl _, fun _ _ => rfl, ?_⟩
    cases status <;> simp [arrivals, Event.arrival]
  | remoteRead k bytes status hstep =>
    cases hstep
    refine ⟨fun j => ?_, Nat.le_refl _, fun _ _ => rfl, (List.append_nil _).symm⟩
    cases status with
    | false => exact List.prefix_rfl
    | true =>
      rcases eq_or_ne j k with rfl | hj
      · simp
      · simp [hj]
  | sent context status hstep =>
    cases hstep
    exact ⟨fun _ => List.prefix_rfl, Nat.le_refl _, fun _ _ => rfl, (List.append_nil _).symm⟩
  | callback a c hstep =>
    cases hstep with
    | @callback _ rest _ hlive hqueue =>
      have hadds := Socks5LocalUdpProxyServer.adds_callback (a := a) (c := c)
        (s := { s.server with queue := rest }) h.found (h.wsaBuf hlive)
      refine ⟨fun _ => List.prefix_rfl, ?_, hadds.localPort, (List.append_nil _).symm⟩
      exact hadds.sockets.elim (·.ge) fun hnew => (Nat.le_succ _).trans_eq hnew.1.symm
  | clear now hstep =>
    cases hstep
    exact ⟨fun _ => List.prefix_rfl, Nat.le_refl _, fun _ _ => rfl, (List.append_nil _).symm⟩

/-- In every run: the datagrams that went to the upstream server are ones that arrived at the
socket of the server, with their bytes, in the order of their arrival and each once at most; those a
proxy socket sent to its client are ones it received, likewise. A datagram went through the proxy
socket of the port it came from, and a proxy socket sends to an address of that port, which a
datagram came from. -/
theorem relays_in_order (h : system.Reachable s) :
    s.upstream.Sublist s.arrivals ∧ (∀ k, (s.downstream k).Sublist (s.received k)) ∧
      (∀ x ∈ s.server.sends, x.packet.isSome = true → x.isLocal = false →
        (s.server.socket x.proxySocket).localPort = x.source) ∧
      ∀ k < s.server.socketCount, (s.localAddressSa k).port = (s.server.socket k).localPort ∧
        ∃ d ∈ s.arrived, d.peer = s.localAddressSa k := by
  have hinv : s.Inv := h.invariant (fun _ => Inv.init) fun _ _ _ => Inv.step
  exact ⟨hinv.upstream, hinv.downstream, fun x hx hpacket => (hinv.sources x hx hpacket).2,
    hinv.addresses⟩

/-- A query of one byte from port 5000, and its answer. -/
theorem relays_in_order_query : ∃ s, system.Reachable s ∧ s.upstream = [(5000, [7])] ∧
    s.downstream 0 = [[8]] ∧ s.upstream.Sublist s.arrivals ∧
    (s.downstream 0).Sublist (s.received 0) := by
  have hinit : system.Reachable ⟨{ pending := {.serverRead} }, ⟨⟨10, 0, 0, 2⟩, 53, none⟩, [],
      fun _ => [], fun _ => ⟨⟨10, 0, 0, 2⟩, 53, none⟩, fun _ => [], [], fun _ => []⟩ :=
    System.Reachable.init ⟨rfl, rfl, fun _ => rfl⟩
  have hread := hinit.snoc (Step.serverRead ⟨⟨10, 0, 0, 2⟩, 5000, none⟩ [7] true
    (@Socks5LocalUdpProxyServer.Step.complete _ (.serverRead 5000 1 true) 0 rfl nofun))
  have hcall := hread.snoc (Step.callback ⟨0, true, true, true, true, true, true⟩ _
    (@Socks5LocalUdpProxyServer.Step.callback _ (.serverRead 5000 1 true) 0 _ rfl rfl))
  have hanswer := hcall.snoc (Step.remoteRead 0 [8] true
    (@Socks5LocalUdpProxyServer.Step.complete _ (.remoteRead 0 1 true) {.serverRead, .send 0}
      (by decide)
      (fun hclosed => Bool.noConfusion (show true = false from hclosed))))
  have hback := hanswer.snoc (Step.callback ⟨0, true, true, true, true, true, true⟩ _
    (@Socks5LocalUdpProxyServer.Step.callback _ (.remoteRead 0 1 true) 0 _ rfl rfl))
  obtain ⟨hup, hdown, -⟩ := relays_in_order hback
  exact ⟨_, hback, rfl, rfl, hup, hdown 0⟩

end UdpRelay

end CutieProxy
