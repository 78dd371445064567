import CutieProxy.Proxy.Socks5LocalUdpProxyServer

/-!
# Where the datagrams of local clients go

A datagram of at least one byte is forwarded through the proxy socket its port is looked up to, or
not at all; one of no byte skips the look-up and goes to whatever the context of the server still
points to, with no packet. `forwarded_through_own_socket` excludes datagrams of no byte, and
removals of a proxy socket a successful receive of which is still to be dispatched
(`DispatchSound`); `empty_datagram_misdispatched` and `removed_receiver_dispatched` show what they
lead to.
-/

namespace CutieProxy

open Transition

namespace Socks5LocalUdpProxyServer

variable {s t r : Socks5LocalUdpProxyServer} {e : Event} {a : UdpAnswers} {k n : Nat}
  {context : SendContext} {now : TimePoint}

/-- No datagram of no byte is received (one of the upstream server goes no further without a send
context), and no proxy socket is removed while a successful receive of it waits for its callback. -/
def DispatchSound (s : Socks5LocalUdpProxyServer) : Event → Prop
  | .callback _ (.serverRead _ numBytes status) => status = true → numBytes ≠ 0
  | .callback a (.remoteRead _ numBytes status) =>
    status = true → a.context = true → numBytes ≠ 0
  | .clear now =>
    ∀ k n, .remoteRead k n true ∈ s.queue → (s.socket k).isReadyForRemoval now = false
  | _ => True

/-! ## What the members of a proxy socket leave -/

/-- The proxy sockets, their ports and the completions that wait are the same. -/
structure Keeps (s t : Socks5LocalUdpProxyServer) : Prop where
  proxySockets : t.proxySockets = s.proxySockets
  socketCount : t.socketCount = s.socketCount
  localPort : ∀ k, (t.socket k).localPort = (s.socket k).localPort
  queue : t.queue = s.queue

theorem Keeps.refl (s : Socks5LocalUdpProxyServer) : Keeps s s := ⟨rfl, rfl, fun _ => rfl, rfl⟩

theorem Keeps.trans (h : Keeps s t) (h' : Keeps t r) : Keeps s r :=
  ⟨h'.proxySockets.trans h.proxySockets, h'.socketCount.trans h.socketCount,
    fun k => (h'.localPort k).trans (h.localPort k), h'.queue.trans h.queue⟩

theorem Keeps.isHeld (h : Keeps s t) (k : Nat) : t.isHeld k = s.isHeld k := by
  unfold Socks5LocalUdpProxyServer.isHeld
  rw [h.proxySockets, h.localPort]

theorem keeps_modifySocket {f : UdpProxySocketObject → UdpProxySocketObject}
    (hf : ∀ x, (f x).localPort = x.localPort) : Keeps s (s.modifySocket k f) := by
  refine ⟨rfl, rfl, fun j => ?_, rfl⟩
  rcases eq_or_ne j k with rfl | hj
  · simp [modifySocket, hf]
  · simp [modifySocket, hj]

theorem keeps_closeClient : Keeps s (s.closeClient k) := keeps_modifySocket fun _ => rfl

theorem keeps_touch : Keeps s (s.touch k now) := keeps_modifySocket fun _ => rfl

theorem wsaRecv_spec (accepted : Bool) : Keeps s (s.wsaRecv accepted k) ∧
    (s.wsaRecv accepted k).sends = s.sends ∧
    (s.wsaRecv accepted k).dispatches = s.dispatches := by
  unfold wsaRecv
  split
  · exact ⟨⟨rfl, rfl, fun _ => rfl, rfl⟩, rfl, rfl⟩
  · exact ⟨keeps_closeClient, rfl, rfl⟩

theorem wsaRecvFrom_spec (accepted : Bool) : Keeps s (s.wsaRecvFrom accepted) ∧
    (s.wsaRecvFrom accepted).sends = s.sends ∧
    (s.wsaRecvFrom accepted).dispatches = s.dispatches := by
  unfold wsaRecvFrom
  split
  · exact ⟨⟨rfl, rfl, fun _ => rfl, rfl⟩, rfl, rfl⟩
  · exact ⟨.refl s, rfl, rfl⟩

theorem wsaSend_spec {accepted : Bool} : Keeps s (s.wsaSend accepted context) ∧
    (s.wsaSend accepted context).sends = s.sends ++
      [⟨context.proxySocket, context.isLocal, context.wsaBuf, s.recvFrom⟩] ∧
    (s.wsaSend accepted context).dispatches = s.dispatches := by
  unfold wsaSend
  dsimp only
  split
  · exact ⟨⟨rfl, rfl, fun _ => rfl, rfl⟩, rfl, rfl⟩
  · refine ⟨Keeps.trans ?_ keeps_closeClient, rfl, rfl⟩
    exact ⟨rfl, rfl, fun _ => rfl, rfl⟩

/-- A datagram of a local client is sent once at most, with the packet of the server's context. -/
theorem forwardToRemote_spec : Keeps s (s.forwardToRemote a k) ∧
    (∀ x ∈ (s.forwardToRemote a k).sends, x ∈ s.sends ∨ x = ⟨k, false, s.wsaBuf, s.recvFrom⟩) ∧
    (s.forwardToRemote a k).dispatches = s.dispatches := by
  have htouch : Keeps s (s.touch k a.now) := keeps_touch
  unfold forwardToRemote
  dsimp only
  split
  · refine ⟨htouch.trans (Keeps.trans ?_ wsaSend_spec.1), fun x hx => ?_, wsaSend_spec.2.2⟩
    · exact ⟨rfl, rfl, fun _ => rfl, rfl⟩
    · rw [wsaSend_spec.2.1] at hx
      rcases List.mem_append.mp hx with hx | hx
      · exact Or.inl hx
      · exact Or.inr (List.mem_singleton.mp hx)
  · split
    · exact ⟨⟨htouch.1, htouch.2, htouch.3, htouch.4⟩, fun x hx => Or.inl hx, rfl⟩
    · exact ⟨⟨htouch.1, htouch.2, htouch.3, htouch.4⟩, fun x hx => Or.inl hx, rfl⟩

/-- A datagram of the upstream server is sent once at most, with a packet of its own. -/
theorem forwardToLocal_spec (hn : a.context = true → n ≠ 0) : Keeps s (s.forwardToLocal a n k) ∧
    (∀ x ∈ (s.forwardToLocal a n k).sends,
      x ∈ s.sends ∨ x.proxySocket = k ∧ x.isLocal = true ∧ x.packet.isSome = true) ∧
    (s.forwardToLocal a n k).dispatches = s.dispatches := by
  have htouch : Keeps s (s.touch k a.now) := keeps_touch
  unfold forwardToLocal
  dsimp only
  rw [if_neg (by simpa using hn)]
  split
  · refine ⟨htouch.trans (Keeps.trans (Keeps.trans ?_ wsaSend_spec.1) (wsaRecv_spec _).1),
      fun x hx => ?_, (wsaRecv_spec _).2.2.trans wsaSend_spec.2.2⟩
    · exact ⟨rfl, rfl, fun _ => rfl, rfl⟩
    · rw [(wsaRecv_spec _).2.1, wsaSend_spec.2.1] at hx
      rcases List.mem_append.mp hx with hx | hx
      · exact Or.inl hx
      · rw [List.mem_singleton.mp hx]
        exact Or.inr ⟨rfl, rfl, rfl⟩
  · refine ⟨htouch.trans (wsaRecv_spec _).1, fun x hx => ?_, (wsaRecv_spec _).2.2⟩
    rw [(wsaRecv_spec _).2.1] at hx
    exact Or.inl hx

theorem dispatch_held {receive : Bool} (h : s.isHeld k = true)
    {member : Nat → Socks5LocalUdpProxyServer → Socks5LocalUdpProxyServer} :
    s.dispatch receive (some k) member =
      member k { s with dispatches := s.dispatches ++ [⟨receive, some k, true⟩] } := by
  unfold dispatch
  simp only [Option.any_some, h, if_true]

theorem dispatch_removed {receive : Bool} (h : s.isHeld k = false)
    {member : Nat → Socks5LocalUdpProxyServer → Socks5LocalUdpProxyServer} :
    s.dispatch receive (some k) member =
      { s with dispatches := s.dispatches ++ [⟨receive, some k, false⟩], faulted := true } := by
  unfold dispatch
  simp only [Option.any_some, h, Bool.false_eq_true, if_false]

/-! ## What a callback leaves -/

/-- What holds between the steps of a run that dispatches soundly. -/
structure Served (s : Socks5LocalUdpProxyServer) : Prop where
  /-- A proxy socket is found under its own port. -/
  found : ∀ p k, s.proxySockets.find p = some k → k < s.socketCount ∧ (s.socket k).localPort = p
  /-- A successful receive that waits is one of a proxy socket that was not removed. -/
  reads : ∀ k n, .remoteRead k n true ∈ s.queue → s.isHeld k = true
  /-- What was sent had a packet, and went through the proxy socket of its source. -/
  sent : ∀ x ∈ s.sends, x.packet.isSome = true ∧ x.proxySocket < s.socketCount ∧
    (x.isLocal = false → (s.socket x.proxySocket).localPort = x.source)
  /-- Receives were dispatched to proxy sockets that were not removed. -/
  dispatched : ∀ d ∈ s.dispatches, d.receive = true → d.held = true

/-- The members of a proxy socket keep what was served, if what they send is right. -/
theorem Served.of_keeps (h : s.Served) (hkeeps : Keeps s t)
    (hsends : ∀ x ∈ t.sends, x ∈ s.sends ∨ x.packet.isSome = true ∧ x.proxySocket < s.socketCount ∧
      (x.isLocal = false → (s.socket x.proxySocket).localPort = x.source))
    (hdispatches : ∀ d ∈ t.dispatches, d ∈ s.dispatches ∨ (d.receive = true → d.held = true)) :
    t.Served := by
  refine ⟨fun p k hfind => ?_, fun k n hmem => ?_, fun x hx => ?_, fun d hd => ?_⟩
  · rw [hkeeps.proxySockets] at hfind
    rw [hkeeps.socketCount, hkeeps.localPort]
    exact h.found p k hfind
  · rw [hkeeps.queue] at hmem
    rw [hkeeps.isHeld]
    exact h.reads k n hmem
  · rw [hkeeps.socketCount, hkeeps.localPort]
    exact (hsends x hx).elim (h.sent x) id
  · exact (hdispatches d hd).elim (h.dispatched d) id

section create

variable {port : UInt16} (object : UdpProxySocketObject)

/-- A new proxy socket for a port. -/
def create (port : UInt16) (object : UdpProxySocketObject) (s : Socks5LocalUdpProxyServer) :
    Socks5LocalUdpProxyServer :=
  { s with
    socketCount := s.socketCount + 1
    socket := Function.update s.socket s.socketCount object
    proxySockets := s.proxySockets.insert port s.socketCount
    proxySocketPtr := some s.socketCount }

theorem create_socket {j : Nat} (hj : j < s.socketCount) :
    (s.create port object).socket j = s.socket j :=
  Function.update_of_ne (Nat.ne_of_lt hj) ..

/-- A new proxy socket for a port that has none replaces no other. -/
theorem Served.isHeld_create (h : s.Served) (hnone : s.proxySockets.find port = none) {j : Nat}
    (hheld : s.isHeld j = true) : (s.create port object).isHeld j = true := by
  have hfind := beq_iff_eq.mp hheld
  have hp : (s.socket j).localPort ≠ port := fun hp => by
    rw [hp, hnone] at hfind
    cases hfind
  unfold Socks5LocalUdpProxyServer.isHeld
  rw [create_socket object (h.found _ j hfind).1]
  exact beq_iff_eq.mpr ((Table.find_insert_of_ne hp).trans hfind)

theorem Served.create (h : s.Served) (hnone : s.proxySockets.find port = none)
    (hport : object.localPort = port) : (s.create port object).Served := by
  refine ⟨fun p j hfind => ?_,
    fun j n hmem => h.isHeld_create object hnone (h.reads j n hmem), fun x hx => ?_, h.dispatched⟩
  · rcases eq_or_ne p port with rfl | hp
    · obtain rfl : s.socketCount = j := Option.some.inj (Table.find_insert_self.symm.trans hfind)
      refine ⟨Nat.lt_succ_self _, ?_⟩
      show (Function.update s.socket s.socketCount object s.socketCount).localPort = p
      rw [Function.update_self, hport]
    · obtain ⟨hj, hlocal⟩ := h.found p j ((Table.find_insert_of_ne hp).symm.trans hfind)
      exact ⟨Nat.lt_succ_of_lt hj, (create_socket object hj).symm ▸ hlocal⟩
  · obtain ⟨hpacket, hlt, hsource⟩ := h.sent x hx
    refine ⟨hpacket, Nat.lt_succ_of_lt hlt, fun hlocal => ?_⟩
    rw [create_socket object hlt, hsource hlocal]

end create

/-- The look-up finds a proxy socket, makes one or fails. -/
theorem connectToRemoteHost_cases : (∃ k, s.proxySockets.find s.recvFrom = some k ∧
      s.connectToRemoteHost a = (true, { s with proxySocketPtr := some k })) ∨
    (s.proxySockets.find s.recvFrom = none ∧ s.connectToRemoteHost a = (true,
      (s.create s.recvFrom ⟨⟨a.now, false⟩, s.recvFrom⟩).wsaRecv a.start s.socketCount)) ∨
    s.connectToRemoteHost a = (false, s) := by
  unfold Socks5LocalUdpProxyServer.connectToRemoteHost
  split
  · next k hfind => exact Or.inl ⟨k, hfind, rfl⟩
  · next hnone =>
    split
    · exact Or.inr (Or.inl ⟨hnone, rfl⟩)
    · exact Or.inr (Or.inr rfl)

/-- The look-up finds a proxy socket of the datagram's source, or makes one. -/
theorem Served.connectToRemoteHost (h : s.Served) :
    (s.connectToRemoteHost a).2.Served ∧
      ((s.connectToRemoteHost a).1 = true →
        ∃ k, (s.connectToRemoteHost a).2.proxySocketPtr = some k ∧
          (s.connectToRemoteHost a).2.proxySockets.find
            (s.connectToRemoteHost a).2.recvFrom = some k) := by
  obtain ⟨k, hfind, heq⟩ | ⟨hnone, heq⟩ | heq := connectToRemoteHost_cases (s := s) (a := a)
  · rw [heq]
    exact ⟨⟨h.found, h.reads, h.sent, h.dispatched⟩, fun _ => ⟨k, rfl, hfind⟩⟩
  · rw [heq]
    have hcreate := h.create ⟨⟨a.now, false⟩, s.recvFrom⟩ hnone rfl
    have hfind : (s.create s.recvFrom ⟨⟨a.now, false⟩, s.recvFrom⟩).proxySockets.find
        (s.create s.recvFrom ⟨⟨a.now, false⟩, s.recvFrom⟩).recvFrom = some s.socketCount :=
      Table.find_insert_self
    have hptr : (s.create s.recvFrom ⟨⟨a.now, false⟩, s.recvFrom⟩).proxySocketPtr =
        some s.socketCount := rfl
    generalize s.create s.recvFrom ⟨⟨a.now, false⟩, s.recvFrom⟩ = u at hcreate hfind hptr ⊢
    obtain ⟨hkeeps, hsends, hdispatches⟩ := wsaRecv_spec (s := u) (k := s.socketCount) a.start
    have hsame : (u.wsaRecv a.start s.socketCount).proxySocketPtr = u.proxySocketPtr ∧
        (u.wsaRecv a.start s.socketCount).recvFrom = u.recvFrom := by
      unfold wsaRecv
      split <;> exact ⟨rfl, rfl⟩
    refine ⟨hcreate.of_keeps hkeeps (fun x hx => Or.inl (hsends ▸ hx))
      fun d hd => Or.inl (hdispatches ▸ hd), fun _ => ⟨s.socketCount, ?_, ?_⟩⟩
    · rw [hsame.1, hptr]
    · rw [hsame.2, hkeeps.proxySockets, hfind]
  · rw [heq]
    exact ⟨h, nofun⟩

/-- The look-up and the packet for a datagram. -/
theorem Served.prepare (h : s.Served) :
    (s.prepare a).2.Served ∧
      ((s.prepare a).1 = true → ∃ k, (s.prepare a).2.proxySocketPtr = some k ∧
        (s.prepare a).2.proxySockets.find (s.prepare a).2.recvFrom = some k ∧
        (s.prepare a).2.wsaBuf.isSome = true) := by
  obtain ⟨hserved, hfound⟩ := h.connectToRemoteHost (a := a)
  unfold Socks5LocalUdpProxyServer.prepare
  split
  · next t ht =>
    rw [ht] at hserved hfound
    obtain ⟨k, hptr, hfind⟩ := hfound rfl
    unfold takePacket
    dsimp only
    split
    · exact ⟨⟨hserved.found, hserved.reads, hserved.sent, hserved.dispatched⟩,
        fun _ => ⟨k, hptr, hfind, rfl⟩⟩
    · exact ⟨⟨hserved.found, hserved.reads, hserved.sent, hserved.dispatched⟩, nofun⟩
  · next t ht =>
    rw [ht] at hserved
    exact ⟨hserved, nofun⟩

/-- A member of a proxy socket that was not removed is called. -/
theorem Served.dispatch (h : s.Served) {receive : Bool} {target : Option Nat}
    {member : Nat → Socks5LocalUdpProxyServer → Socks5LocalUdpProxyServer}
    (htarget : receive = true → target.any (fun k => s.isHeld k) = true)
    (hmember : ∀ k (t : Socks5LocalUdpProxyServer), target = some k → t.sends = s.sends →
      Keeps s t → t.wsaBuf = s.wsaBuf → t.recvFrom = s.recvFrom → Keeps t (member k t) ∧
        (∀ x ∈ (member k t).sends, x ∈ s.sends ∨ x.packet.isSome = true ∧
          x.proxySocket < s.socketCount ∧
          (x.isLocal = false → (s.socket x.proxySocket).localPort = x.source)) ∧
        (member k t).dispatches = t.dispatches) :
    (s.dispatch receive target member).Served := by
  have hrecord : ∀ d ∈ s.dispatches ++ [⟨receive, target, target.any fun k => s.isHeld k⟩],
      d ∈ s.dispatches ∨ (d.receive = true → d.held = true) := fun d hd => by
    rcases List.mem_append.mp hd with hd | hd
    · exact Or.inl hd
    · rw [List.mem_singleton.mp hd]
      exact Or.inr htarget
  cases target with
  | none => exact h.of_keeps ⟨rfl, rfl, fun _ => rfl, rfl⟩ (fun x hx => Or.inl hx) hrecord
  | some k =>
    cases hheld : s.isHeld k with
    | false =>
      rw [Option.any_some, hheld] at hrecord
      rw [dispatch_removed hheld]
      exact h.of_keeps ⟨rfl, rfl, fun _ => rfl, rfl⟩ (fun x hx => Or.inl hx) hrecord
    | true =>
      rw [Option.any_some, hheld] at hrecord
      rw [dispatch_held hheld]
      obtain ⟨hkeeps, hsends, hdispatches⟩ := hmember k { s with
        dispatches := s.dispatches ++ [⟨receive, some k, true⟩] } rfl rfl
        ⟨rfl, rfl, fun _ => rfl, rfl⟩ rfl rfl
      refine h.of_keeps ⟨hkeeps.1, hkeeps.2, hkeeps.3, hkeeps.4⟩ hsends fun d hd => ?_
      rw [hdispatches] at hd
      exact hrecord d hd

theorem callback_remoteRead : s.callback a (.remoteRead k n true) =
    s.dispatch true (some k) (forwardToLocal a n) := rfl

theorem callback_send {c : Nat} : s.callback a (.send c true) =
    s.dispatch false (some (s.context c).proxySocket) fun _ => releaseIoContext c := rfl

/-- What is found in the table is held. -/
theorem Served.isHeld (h : s.Served) {p : UInt16} (hfind : s.proxySockets.find p = some k) :
    s.isHeld k = true := by
  unfold Socks5LocalUdpProxyServer.isHeld
  rw [(h.found p k hfind).2, hfind]
  exact beq_self_eq_true _

/-- The completion of a receive of the server, of at least one byte. -/
theorem Served.serverRead (h : s.Served) {port : UInt16} {status : Bool}
    (hn : status = true → n ≠ 0) : (s.callback a (.serverRead port n status)).Served := by
  have hfrom : Served { s with recvFrom := port } := ⟨h.found, h.reads, h.sent, h.dispatched⟩
  have hrearm : ∀ {u : Socks5LocalUdpProxyServer}, u.Served → (u.wsaRecvFrom a.recv).Served :=
    fun {u} hu => by
      obtain ⟨hkeeps, hsends, hdispatches⟩ := wsaRecvFrom_spec (s := u) a.recv
      exact hu.of_keeps hkeeps (fun x hx => Or.inl (hsends ▸ hx))
        fun d hd => Or.inl (hdispatches ▸ hd)
  unfold callback
  cases status with
  | false => exact hrearm hfrom
  | true =>
    obtain ⟨hserved, hfound⟩ := hfrom.prepare (a := a)
    have hne : (n != 0) = true := bne_iff_ne.mpr (hn rfl)
    simp only [Bool.true_and, hne, if_true]
    generalize Socks5LocalUdpProxyServer.prepare a { s with recvFrom := port } = u
      at hserved hfound ⊢
    obtain ⟨result, u⟩ := u
    cases result with
    | false => exact hrearm hserved
    | true =>
      obtain ⟨k, hptr, hfind, hbuf⟩ := hfound rfl
      dsimp only at hserved hptr hfind hbuf ⊢
      refine hrearm
        (hserved.dispatch (fun _ => ?_) fun j t hj hsends hkeeps hwsaBuf hrecvFrom => ?_)
      · rw [hptr]
        exact hserved.isHeld hfind
      · obtain rfl : k = j := Option.some.inj (hptr.symm.trans hj)
        obtain ⟨hmember, hforward, hdispatches⟩ := forwardToRemote_spec (s := t) (a := a) (k := k)
        refine ⟨hmember, fun x hx => ?_, hdispatches⟩
        rcases hforward x hx with hx | rfl
        · exact Or.inl (hsends ▸ hx)
        · obtain ⟨hlt, hport⟩ := hserved.found _ k hfind
          exact Or.inr ⟨by rw [hwsaBuf]; exact hbuf, hlt, fun _ => by rw [hrecvFrom]; exact hport⟩

/-- A sound step keeps what was served. -/
theorem Served.step (h : s.Served) (hsound : s.DispatchSound e) (hstep : Step s e t) :
    t.Served := by
  cases hstep with
  | complete hpending haborted =>
    refine ⟨h.found, fun k n hmem => ?_, h.sent, h.dispatched⟩
    rcases Multiset.mem_cons.mp hmem with rfl | hmem
    · cases hheld : s.isHeld k with
      | true => exact hheld
      | false => cases haborted hheld
    · exact h.reads k n hmem
  | callback a hlive hqueue =>
    rename_i c rest
    have hrest : Served { s with queue := rest } :=
      ⟨h.found, fun k n hmem => h.reads k n (hqueue ▸ Multiset.mem_cons_of_mem hmem), h.sent,
        h.dispatched⟩
    cases c with
    | serverRead port n status => exact hrest.serverRead hsound
    | remoteRead k n status =>
      cases status with
      | false => exact hrest
      | true =>
        have hheld : s.isHeld k = true := h.reads k n (hqueue ▸ Multiset.mem_cons_self ..)
        rw [callback_remoteRead]
        refine hrest.dispatch (fun _ => hheld) fun j t hj hsends hkeeps hwsaBuf hrecvFrom => ?_
        cases hj
        obtain ⟨hmember, hforward, hdispatches⟩ := forwardToLocal_spec (s := t) (a := a) (k := k)
          (hsound rfl)
        refine ⟨hmember, fun x hx => ?_, hdispatches⟩
        rcases hforward x hx with hx | ⟨hk, hlocal, hpacket⟩
        · exact Or.inl (hsends ▸ hx)
        · have hlt := (h.found _ k (beq_iff_eq.mp hheld)).1
          exact Or.inr ⟨hpacket, hk ▸ hlt, fun hremote => absurd (hlocal.symm.trans hremote) nofun⟩
    | send c status =>
      cases status with
      | false => exact hrest
      | true =>
        rw [callback_send]
        refine hrest.dispatch nofun fun j t hj hsends hkeeps hwsaBuf hrecvFrom => ?_
        exact ⟨⟨rfl, rfl, fun _ => rfl, rfl⟩, fun x hx => Or.inl (hsends ▸ hx), rfl⟩
  | clear now hlive =>
    refine ⟨fun p k hfind => h.found p k (Table.find_sweep.mp hfind).1, fun k n hmem => ?_, h.sent,
      h.dispatched⟩
    have hfind := beq_iff_eq.mp (h.reads k n hmem)
    exact beq_iff_eq.mpr (Table.find_sweep.mpr ⟨hfind, hsound k n hmem⟩)

/-- In runs that receive no datagram of no byte and remove no proxy socket with a successful receive
to be dispatched: every datagram of a local client that is forwarded goes out, with a packet,
through a proxy socket created for its own port, and receives are dispatched to proxy sockets that
were not removed only. -/
theorem forwarded_through_own_socket (h : (system.restrict DispatchSound).Reachable s) :
    (∀ x ∈ s.sends, x.packet.isSome = true ∧
      (x.isLocal = false → (s.socket x.proxySocket).localPort = x.source)) ∧
    ∀ d ∈ s.dispatches, d.receive = true → d.held = true := by
  have hserved : s.Served := h.restrict_invariant
    (fun s hs => by cases hs; exact ⟨nofun, nofun, nofun, nofun⟩)
    fun _ _ _ hs hsound hstep => hs.step hsound hstep
  refine ⟨fun x hx => ?_, hserved.dispatched⟩
  obtain ⟨hpacket, -, hsource⟩ := hserved.sent x hx
  exact ⟨hpacket, hsource⟩

/-! ## Runs that are not sound -/

/-- A datagram of no byte is dispatched to a null pointer or a removed proxy socket, or sent without
a packet. -/
theorem empty_datagram_misdispatched {port : UInt16} (hbuf : s.wsaBuf = none)
    (hcontext : a.context = true) :
    (∃ d ∈ (s.callback a (.serverRead port 0 true)).dispatches,
      d.receive = true ∧ d.held = false) ∨
    ∃ x ∈ (s.callback a (.serverRead port 0 true)).sends, x.packet = none := by
  have hcallback : s.callback a (.serverRead port 0 true) =
      wsaRecvFrom a.recv (dispatch true s.proxySocketPtr (forwardToRemote a)
        { s with recvFrom := port }) := rfl
  rw [hcallback, (wsaRecvFrom_spec _).2.1, (wsaRecvFrom_spec _).2.2]
  generalize hu : ({ s with recvFrom := port } : Socks5LocalUdpProxyServer) = u
  have hubuf : u.wsaBuf = none := hu ▸ hbuf
  cases s.proxySocketPtr with
  | none =>
    exact Or.inl
      ⟨⟨true, none, false⟩, List.mem_append_right _ (List.mem_singleton_self _), rfl, rfl⟩
  | some k =>
    cases hheld : u.isHeld k with
    | false =>
      refine Or.inl ⟨⟨true, some k, false⟩, ?_, rfl, rfl⟩
      rw [dispatch_removed hheld]
      exact List.mem_append_right _ (List.mem_singleton_self _)
    | true =>
      refine Or.inr ⟨⟨k, false, u.wsaBuf, u.recvFrom⟩, ?_, hubuf⟩
      rw [dispatch_held hheld]
      unfold forwardToRemote
      simp only [hcontext, if_true]
      rw [wsaSend_spec.2.1]
      exact List.mem_append_right _ (List.mem_singleton_self _)

/-- A successful receive of a proxy socket that is removed can be dispatched to it. -/
theorem removed_receiver_dispatched (hlive : s.faulted = false)
    (hmem : .remoteRead k n true ∈ s.queue)
    (hready : (s.socket k).isReadyForRemoval now = true) :
    ∃ t, system.Steps (s.clear now) t ∧ ∃ d ∈ t.dispatches, d.receive = true ∧ d.held = false := by
  obtain ⟨rest, hqueue⟩ := Multiset.exists_cons_of_mem hmem
  have hheld : (s.clear now).isHeld k = false := by
    rw [Bool.eq_false_iff]
    intro hheld
    have hfresh := (Table.find_sweep.mp (beq_iff_eq.mp hheld)).2
    exact absurd (hready.symm.trans hfresh) nofun
  have hstep : Step (s.clear now) (.callback ⟨now, true, true, true, true, true, true⟩
      (.remoteRead k n true)) _ := .callback _ hlive hqueue
  refine ⟨_, (System.Steps.refl (M := system) _).snoc hstep, ⟨true, some k, false⟩, ?_, rfl, rfl⟩
  have hheld' : isHeld k { s.clear now with queue := rest } = false := hheld
  rw [callback_remoteRead, dispatch_removed hheld']
  exact List.mem_append_right _ (List.mem_singleton_self _)

/-! ## Two runs -/

/-- One byte from port 5000 is forwarded through its proxy socket. -/
theorem forwarded_through_own_socket_one_byte :
    ∃ s, (system.restrict DispatchSound).Reachable s ∧ (s.socket 0).localPort = 5000 ∧
      s.sends = [⟨0, false, some 0, 5000⟩] ∧ ∀ x ∈ s.sends, x.packet.isSome = true := by
  have hinit : (system.restrict DispatchSound).Reachable { pending := {.serverRead} } :=
    System.Reachable.init rfl
  have hread := hinit.restrict_snoc
    (@Step.complete _ (.serverRead 5000 1 true) 0 rfl nofun) trivial
  have hcall := hread.restrict_snoc
    (@Step.callback _ (.serverRead 5000 1 true) 0 ⟨0, true, true, true, true, true, true⟩ rfl rfl)
    nofun
  exact ⟨_, hcall, rfl, rfl, fun x hx => ((forwarded_through_own_socket hcall).1 x hx).1⟩

/-- The first datagram has no byte: the callback dispatches it to a null pointer. -/
theorem empty_datagram_to_null :
    ∃ s, system.Reachable s ∧ s.dispatches = [⟨true, none, false⟩] := by
  have hinit : system.Reachable { pending := {.serverRead} } := System.Reachable.init rfl
  have hread := hinit.snoc (@Step.complete _ (.serverRead 5000 0 true) 0 rfl nofun)
  have hcall := hread.snoc
    (@Step.callback _ (.serverRead 5000 0 true) 0 ⟨0, true, true, true, true, true, true⟩ rfl rfl)
  exact ⟨_, hcall, rfl⟩

end Socks5LocalUdpProxyServer

end CutieProxy
