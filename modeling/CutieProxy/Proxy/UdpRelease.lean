import CutieProxy.Lib.Ledger
import CutieProxy.Proxy.UdpDispatch

/-!
# What the UDP proxy server releases

The contexts and packets that were allocated are those that were released, each once, and those of
the sends that were not dispatched yet (`Owned`). `released_when_ended` is about runs in which every
send is accepted and successful, nothing of no byte arrives, and `clear_thread` removes no proxy
socket that a completion can still be dispatched to (`ReleaseSound`); `refused_send_leaks`,
`aborted_send_leaks` and `removed_sender_dispatched` show what the other runs lead to.
-/

namespace CutieProxy

open Transition

/-- The context of a call, if it has an allocated one. -/
def UdpOperation.context? : UdpOperation → Option Nat
  | .send c => some c
  | _ => none

/-- The context of a completion. -/
def UdpCompletion.context? (x : UdpCompletion) : Option Nat := x.operation.context?

namespace Socks5LocalUdpProxyServer

variable {s t : Socks5LocalUdpProxyServer} {e : Event} {a : UdpAnswers} {k p c : Nat}
  {hand : Multiset Nat} {rest : Multiset UdpCompletion} {now : TimePoint}

/-- The contexts of the sends that are pending or wait for their callback. -/
def flights (s : Socks5LocalUdpProxyServer) : Multiset Nat :=
  s.pending.filterMap UdpOperation.context? + s.queue.filterMap UdpCompletion.context?

/-- The packets of these sends. -/
def flightPackets (s : Socks5LocalUdpProxyServer) : Multiset Nat :=
  s.flights.filterMap fun c => (s.context c).wsaBuf

/-- Sends are accepted and successful, no datagram of no byte is received, and a proxy socket is
removed when no successful receive and no send of it waits to be dispatched. -/
def ReleaseSound (s : Socks5LocalUdpProxyServer) : Event → Prop
  | .complete (.send _ status) => status = true
  | .callback a (.serverRead _ numBytes status) => status = true → numBytes ≠ 0 ∧ a.send = true
  | .callback a (.remoteRead _ numBytes status) =>
    status = true → a.context = true → numBytes ≠ 0 ∧ a.send = true
  | .clear now =>
    (∀ k n, .remoteRead k n true ∈ s.queue → (s.socket k).isReadyForRemoval now = false) ∧
    ∀ c ∈ s.flights, (s.socket (s.context c).proxySocket).isReadyForRemoval now = false
  | _ => True

/-- What is sound for the releases is sound for the dispatches of receives. -/
theorem ReleaseSound.dispatchSound (h : s.ReleaseSound e) : s.DispatchSound e := by
  cases e with
  | complete c => trivial
  | callback a c =>
    cases c with
    | serverRead port n status => exact fun hstatus => (h hstatus).1
    | remoteRead k n status => exact fun hstatus hcontext => (h hstatus hcontext).1
    | send c status => trivial
  | clear now => exact h.1

/-- Every context and every packet is with the system, with the callback (`hand`), or was
released. -/
structure Owned (s : Socks5LocalUdpProxyServer) (hand : Multiset Nat) : Prop where
  contexts : s.released + s.flights = Multiset.range s.contextCount
  packets : s.freed + hand + s.flightPackets = Multiset.range s.packetCount
  targets : ∀ c ∈ s.flights, s.isHeld (s.context c).proxySocket = true
  successful : ∀ c, .send c false ∉ s.queue
  dispatched : ∀ d ∈ s.dispatches, d.held = true

/-- What is allocated, released and on its way is the same, and no proxy socket is removed. -/
structure Frame (s t : Socks5LocalUdpProxyServer) : Prop where
  isHeld : ∀ k, s.isHeld k = true → t.isHeld k = true
  flights : t.flights = s.flights
  queue : t.queue = s.queue
  context : t.context = s.context
  contextCount : t.contextCount = s.contextCount
  released : t.released = s.released
  packetCount : t.packetCount = s.packetCount
  freed : t.freed = s.freed
  wsaBuf : t.wsaBuf = s.wsaBuf
  dispatches : t.dispatches = s.dispatches

theorem Owned.of_frame (h : s.Owned hand) (hframe : Frame s t) : t.Owned hand := by
  refine ⟨?_, ?_, fun c hc => ?_, ?_, ?_⟩
  · rw [hframe.released, hframe.flights, hframe.contextCount, h.contexts]
  · unfold flightPackets
    rw [hframe.freed, hframe.flights, hframe.context, hframe.packetCount]
    exact h.packets
  · rw [hframe.flights] at hc
    rw [hframe.context]
    exact hframe.isHeld _ (h.targets c hc)
  · rw [hframe.queue]
    exact h.successful
  · rw [hframe.dispatches]
    exact h.dispatched

/-- A context that was not allocated yet is not on its way. -/
theorem Owned.lt (h : s.Owned hand) (hc : c ∈ s.flights) : c < s.contextCount :=
  Ledger.lt_of_mem h.contexts (Multiset.mem_add.mpr (Or.inr hc))

theorem Owned.record (h : s.Owned hand) {receive : Bool} {target : Option Nat} :
    Owned { s with dispatches := s.dispatches ++ [⟨receive, target, true⟩] } hand := by
  refine ⟨h.contexts, h.packets, h.targets, h.successful, fun d hd => ?_⟩
  rcases List.mem_append.mp hd with hd | hd
  · exact h.dispatched d hd
  · rw [List.mem_singleton.mp hd]

/-! ## The calls -/

theorem frame_touch (k : Nat) (now : TimePoint) : Frame s (s.touch k now) :=
  ⟨fun j hj => (keeps_touch.isHeld j).trans hj, rfl, rfl, rfl, rfl, rfl, rfl, rfl, rfl, rfl⟩

theorem frame_wsaRecv (accepted : Bool) : Frame s (s.wsaRecv accepted k) := by
  unfold wsaRecv
  split
  · refine ⟨fun _ hj => hj, ?_, rfl, rfl, rfl, rfl, rfl, rfl, rfl, rfl⟩
    exact congrArg (· + _) (Multiset.filterMap_cons_none _ _ rfl)
  · refine ⟨fun j hj => ?_, rfl, rfl, rfl, rfl, rfl, rfl, rfl, rfl, rfl⟩
    exact (keeps_closeClient.isHeld j).trans hj

theorem frame_wsaRecvFrom (accepted : Bool) : Frame s (s.wsaRecvFrom accepted) := by
  unfold wsaRecvFrom
  split
  · refine ⟨fun _ hj => hj, ?_, rfl, rfl, rfl, rfl, rfl, rfl, rfl, rfl⟩
    exact congrArg (· + _) (Multiset.filterMap_cons_none _ _ rfl)
  · exact ⟨fun _ hj => hj, rfl, rfl, rfl, rfl, rfl, rfl, rfl, rfl, rfl⟩

/-- A send that is accepted takes its packet along. -/
theorem Owned.wsaSend (h : s.Owned {p}) (hheld : s.isHeld k = true) {isLocal : Bool} :
    (s.wsaSend true ⟨k, isLocal, some p⟩).Owned 0 := by
  have hold : ∀ {j}, j ∈ s.flights →
      Function.update s.context s.contextCount ⟨k, isLocal, some p⟩ j = s.context j :=
    fun hj => Function.update_of_ne (Nat.ne_of_lt (h.lt hj)) ..
  have hself : Function.update s.context s.contextCount ⟨k, isLocal, some p⟩ s.contextCount =
    ⟨k, isLocal, some p⟩ := Function.update_self ..
  have hflights : (s.wsaSend true ⟨k, isLocal, some p⟩).flights = s.contextCount ::ₘ s.flights := by
    show (UdpOperation.send s.contextCount ::ₘ s.pending).filterMap UdpOperation.context? + _ = _
    rw [Multiset.filterMap_cons_some UdpOperation.context? _ _ rfl, Multiset.cons_add]
    rfl
  have hpackets : (s.wsaSend true ⟨k, isLocal, some p⟩).flightPackets = p ::ₘ s.flightPackets := by
    unfold flightPackets
    rw [hflights]
    show Multiset.filterMap (fun c => (Function.update s.context s.contextCount _ c).wsaBuf) _ = _
    rw [Multiset.filterMap_cons_some
      (fun c => (Function.update s.context s.contextCount _ c).wsaBuf)
      _ _ (congrArg SendContext.wsaBuf hself)]
    exact congrArg (p ::ₘ ·) (Ledger.filterMap_congr fun j hj => congrArg _ (hold hj))
  refine ⟨?_, ?_, fun j hj => ?_, h.successful, h.dispatched⟩
  · rw [hflights, Multiset.add_cons]
    exact Ledger.cons_eq_range h.contexts
  · rw [hpackets, Multiset.add_zero, Multiset.add_cons, ← Multiset.cons_add,
      ← Multiset.singleton_add, Multiset.add_comm {p}]
    exact h.packets
  · rw [hflights] at hj
    rcases Multiset.mem_cons.mp hj with rfl | hj
    · show s.isHeld (Function.update s.context s.contextCount _ s.contextCount).proxySocket = true
      rw [hself]
      exact hheld
    · show s.isHeld (Function.update s.context s.contextCount _ j).proxySocket = true
      rw [hold hj]
      exact h.targets j hj

/-! ## The steps of a callback -/

/-- The look-up allocates no context and no packet. -/
theorem Served.frame_connectToRemoteHost (h : s.Served) :
    Frame s (s.connectToRemoteHost a).2 := by
  obtain ⟨j, hfind, heq⟩ | ⟨hnone, heq⟩ | heq := connectToRemoteHost_cases (s := s) (a := a)
  · rw [heq]
    exact ⟨fun _ hj => hj, rfl, rfl, rfl, rfl, rfl, rfl, rfl, rfl, rfl⟩
  · rw [heq]
    have hrecv := frame_wsaRecv (k := s.socketCount)
      (s := s.create s.recvFrom ⟨⟨a.now, false⟩, s.recvFrom⟩) a.start
    exact { hrecv with isHeld := fun j hj => hrecv.isHeld j (h.isHeld_create _ hnone hj) }
  · rw [heq]
    exact ⟨fun _ hj => hj, rfl, rfl, rfl, rfl, rfl, rfl, rfl, rfl, rfl⟩

/-- The packet for a datagram is in the server's context. -/
theorem Owned.takePacket (h : s.Owned 0) (hbuf : s.wsaBuf = none) :
    (s.takePacket a).2.Owned (Multiset.ofList (s.takePacket a).2.wsaBuf.toList) ∧
      ((s.takePacket a).1 = false → (s.takePacket a).2.wsaBuf = none) := by
  have hfreed : s.freed + s.flightPackets = Multiset.range s.packetCount := by
    rw [← h.packets, Multiset.add_zero]
  unfold Socks5LocalUdpProxyServer.takePacket
  rw [hbuf]
  dsimp only
  split
  · refine ⟨⟨h.contexts, ?_, h.targets, h.successful, h.dispatched⟩, nofun⟩
    show 0 + s.freed + {s.packetCount} + s.flightPackets = Multiset.range (s.packetCount + 1)
    rw [← Ledger.cons_eq_range hfreed, Multiset.zero_add, Multiset.add_comm s.freed,
      Multiset.singleton_add, Multiset.cons_add]
  · refine ⟨⟨h.contexts, ?_, h.targets, h.successful, h.dispatched⟩, fun _ => rfl⟩
    show 0 + s.freed + 0 + s.flightPackets = Multiset.range s.packetCount
    rw [Multiset.zero_add, Multiset.add_zero, hfreed]

/-- The packet of a datagram goes with the send, or back to the pool. -/
theorem Owned.forwardToRemote (h : s.Owned {p}) (hbuf : s.wsaBuf = some p)
    (hheld : s.isHeld k = true) (hsend : a.send = true) :
    (s.forwardToRemote a k).Owned 0 ∧ (s.forwardToRemote a k).wsaBuf = none := by
  have htouch := h.of_frame (frame_touch k a.now)
  have hheld' : (s.touch k a.now).isHeld k = true := (keeps_touch.isHeld k).trans hheld
  have hbuf' : (s.touch k a.now).wsaBuf = some p := hbuf
  unfold Socks5LocalUdpProxyServer.forwardToRemote
  generalize s.touch k a.now = u at htouch hheld' hbuf' ⊢
  dsimp only
  rw [hbuf']
  split
  · rw [hsend]
    have htaken : Owned { u with wsaBuf := none } {p} :=
      ⟨htouch.contexts, htouch.packets, htouch.targets, htouch.successful, htouch.dispatched⟩
    exact ⟨htaken.wsaSend hheld', rfl⟩
  · refine ⟨⟨htouch.contexts, ?_, htouch.targets, htouch.successful, htouch.dispatched⟩, rfl⟩
    show p ::ₘ u.freed + 0 + u.flightPackets = Multiset.range u.packetCount
    rw [← htouch.packets, Multiset.add_zero, ← Multiset.singleton_add, Multiset.add_comm {p}]

/-- A datagram of the upstream server gets a packet, which goes with the send. -/
theorem Owned.forwardToLocal {n : Nat} (h : s.Owned 0) (hheld : s.isHeld k = true)
    (hsound : a.context = true → n ≠ 0 ∧ a.send = true) :
    (s.forwardToLocal a n k).Owned 0 ∧ (s.forwardToLocal a n k).wsaBuf = s.wsaBuf := by
  have htouch := h.of_frame (frame_touch k a.now)
  have hheld' : (s.touch k a.now).isHeld k = true := (keeps_touch.isHeld k).trans hheld
  have hbuf : (s.touch k a.now).wsaBuf = s.wsaBuf := rfl
  unfold Socks5LocalUdpProxyServer.forwardToLocal
  rw [← hbuf]
  generalize s.touch k a.now = u at htouch hheld' ⊢
  have hne : ¬ (a.context && n == 0) = true := by
    simpa using fun hcontext => (hsound hcontext).1
  dsimp only
  rw [if_neg hne]
  refine ⟨Owned.of_frame ?_ (frame_wsaRecv _), ?_⟩
  · split
    · next hallocated =>
      rw [Bool.and_eq_true] at hallocated
      rw [(hsound hallocated.1).2]
      have hnew : Owned { u with packetCount := u.packetCount + 1 } {u.packetCount} := by
        refine ⟨htouch.contexts, ?_, htouch.targets, htouch.successful, htouch.dispatched⟩
        show u.freed + {u.packetCount} + u.flightPackets = Multiset.range (u.packetCount + 1)
        rw [← Ledger.cons_eq_range htouch.packets, Multiset.add_zero, Multiset.add_comm u.freed,
          Multiset.singleton_add, Multiset.cons_add]
      exact hnew.wsaSend hheld'
    · exact htouch
  · rw [(frame_wsaRecv _).wsaBuf]
    split
    · unfold Socks5LocalUdpProxyServer.wsaSend
      dsimp only
      split <;> rfl
    · rfl

theorem Owned.prepare (h : s.Owned 0) (hserved : s.Served) (hbuf : s.wsaBuf = none) :
    (s.prepare a).2.Owned (Multiset.ofList (s.prepare a).2.wsaBuf.toList) ∧
      ((s.prepare a).1 = false → (s.prepare a).2.wsaBuf = none) := by
  have hframe := hserved.frame_connectToRemoteHost (a := a)
  have hconnect := h.of_frame hframe
  have hnone := hframe.wsaBuf.trans hbuf
  unfold Socks5LocalUdpProxyServer.prepare
  split
  · next t ht =>
    rw [ht] at hconnect hnone
    exact hconnect.takePacket hnone
  · next t ht =>
    rw [ht] at hconnect hnone
    rw [hnone]
    exact ⟨hconnect, fun _ => rfl⟩

/-! ## The steps of a run -/

theorem Owned.serverRead (h : s.Owned 0) (hserved : s.Served) (hbuf : s.wsaBuf = none)
    {port : UInt16} {n : Nat} {status : Bool} (hsound : status = true → n ≠ 0 ∧ a.send = true) :
    (s.callback a (.serverRead port n status)).Owned 0 ∧
      (s.callback a (.serverRead port n status)).wsaBuf = none := by
  have hfrom : Owned { s with recvFrom := port } 0 :=
    ⟨h.contexts, h.packets, h.targets, h.successful, h.dispatched⟩
  have hfrom' : Served { s with recvFrom := port } :=
    ⟨hserved.found, hserved.reads, hserved.sent, hserved.dispatched⟩
  have hrearm : ∀ {u : Socks5LocalUdpProxyServer}, u.Owned 0 ∧ u.wsaBuf = none →
      (u.wsaRecvFrom a.recv).Owned 0 ∧ (u.wsaRecvFrom a.recv).wsaBuf = none := fun hu =>
    ⟨hu.1.of_frame (frame_wsaRecvFrom _), (frame_wsaRecvFrom _).wsaBuf.trans hu.2⟩
  unfold callback
  cases status with
  | false => exact hrearm ⟨hfrom, hbuf⟩
  | true =>
    obtain ⟨hn, hsend⟩ := hsound rfl
    obtain ⟨hprepared, hfailed⟩ := hfrom.prepare hfrom' hbuf (a := a)
    obtain ⟨hserved', hfound⟩ := hfrom'.prepare (a := a)
    have hne : (n != 0) = true := bne_iff_ne.mpr hn
    simp only [Bool.true_and, hne, if_true]
    generalize Socks5LocalUdpProxyServer.prepare a { s with recvFrom := port } = u
      at hprepared hfailed hserved' hfound ⊢
    obtain ⟨result, u⟩ := u
    cases result with
    | false =>
      have hnone := hfailed rfl
      dsimp only at hnone hprepared
      rw [hnone] at hprepared
      exact hrearm ⟨hprepared, hnone⟩
    | true =>
      obtain ⟨k, hptr, hfind, hsome⟩ := hfound rfl
      dsimp only at hprepared hserved' hptr hfind hsome ⊢
      obtain ⟨p, hp⟩ := Option.isSome_iff_exists.mp hsome
      have hheld := hserved'.isHeld hfind
      rw [hp] at hprepared
      rw [hptr, if_pos rfl, dispatch_held hheld]
      exact hrearm (hprepared.record.forwardToRemote hp hheld hsend)

/-- A completion that leaves the queue takes its context along. -/
theorem flights_send {status : Bool} (hqueue : s.queue = .send c status ::ₘ rest) :
    s.flights = c ::ₘ flights { s with queue := rest } := by
  unfold flights
  rw [hqueue, Multiset.filterMap_cons_some UdpCompletion.context? _ _ rfl, Multiset.add_cons]

theorem flights_of_none {x : UdpCompletion} (hqueue : s.queue = x ::ₘ rest)
    (hx : x.context? = none) : s.flights = flights { s with queue := rest } := by
  unfold flights
  rw [hqueue, Multiset.filterMap_cons_none _ _ hx]

/-- A completion of a receive leaves the queue. -/
theorem Owned.dequeue (h : s.Owned hand) {x : UdpCompletion} (hqueue : s.queue = x ::ₘ rest)
    (hx : x.context? = none) : Owned { s with queue := rest } hand := by
  have hflights := flights_of_none hqueue hx
  refine ⟨hflights ▸ h.contexts, ?_, hflights ▸ h.targets, fun c hc => ?_, h.dispatched⟩
  · unfold flightPackets
    rw [← hflights]
    exact h.packets
  · exact h.successful c (hqueue ▸ Multiset.mem_cons_of_mem hc)

/-- `release_io_context` frees the packet of the context. -/
theorem releaseIoContext_freed (c : Nat) : (s.releaseIoContext c).freed =
    Multiset.ofList (s.context c).wsaBuf.toList + s.freed := by
  unfold releaseIoContext
  dsimp only
  cases (s.context c).wsaBuf with
  | some p => rfl
  | none => exact (Multiset.zero_add _).symm

/-- A send that completed is released with its packet. -/
theorem Owned.releaseIoContext (h : s.Owned 0) (hqueue : s.queue = .send c true ::ₘ rest) :
    Owned (releaseIoContext c { s with queue := rest }) 0 := by
  have hflights := flights_send hqueue
  have hpackets := h.packets
  unfold flightPackets at hpackets
  rw [hflights] at hpackets
  refine ⟨?_, ?_, fun j hj => h.targets j (hflights ▸ Multiset.mem_cons_of_mem hj), fun j hj => ?_,
    h.dispatched⟩
  · show c ::ₘ s.released + flights { s with queue := rest } = Multiset.range s.contextCount
    rw [← h.contexts, hflights, Multiset.add_cons, Multiset.cons_add]
  · rw [releaseIoContext_freed]
    show Multiset.ofList (s.context c).wsaBuf.toList + s.freed + 0 +
      flightPackets { s with queue := rest } = Multiset.range s.packetCount
    rw [← hpackets]
    cases hbuf : (s.context c).wsaBuf with
    | some p =>
      rw [Multiset.filterMap_cons_some (fun c => (s.context c).wsaBuf) _ _ hbuf, Multiset.add_cons,
        Multiset.add_zero, Multiset.add_zero, Multiset.add_assoc]
      exact Multiset.singleton_add ..
    | none =>
      rw [Multiset.filterMap_cons_none (f := fun c => (s.context c).wsaBuf) _ _ hbuf]
      exact congrArg (· + 0 + _) (Multiset.zero_add _)
  · exact h.successful j (hqueue ▸ Multiset.mem_cons_of_mem hj)

/-- A sound step keeps what is owned. -/
theorem Owned.step (h : s.Owned 0) (hbuf : s.wsaBuf = none) (hserved : s.Served)
    (hsound : s.ReleaseSound e) (hstep : Step s e t) : t.Owned 0 ∧ t.wsaBuf = none := by
  cases hstep with
  | complete hpending haborted =>
    rename_i x waiting
    have hflights : flights { s with pending := waiting, queue := x ::ₘ s.queue } = s.flights := by
      unfold flights
      rw [hpending, Multiset.filterMap_cons, Multiset.filterMap_cons, ← Multiset.add_assoc,
        Multiset.add_comm (waiting.filterMap _)]
      rfl
    refine ⟨⟨?_, ?_, ?_, fun c hc => ?_, h.dispatched⟩, hbuf⟩
    · rw [hflights]
      exact h.contexts
    · unfold flightPackets
      rw [hflights]
      exact h.packets
    · rw [hflights]
      exact h.targets
    · rcases Multiset.mem_cons.mp hc with rfl | hc
      · cases hsound
      · exact h.successful c hc
  | callback a hlive hqueue =>
    rename_i x rest
    cases x with
    | serverRead port n status =>
      refine Owned.serverRead (h.dequeue hqueue rfl) ⟨hserved.found, fun k m hmem => ?_,
        hserved.sent, hserved.dispatched⟩ hbuf hsound
      exact hserved.reads k m (hqueue ▸ Multiset.mem_cons_of_mem hmem)
    | remoteRead k n status =>
      have hrest := h.dequeue hqueue rfl
      cases status with
      | false => exact ⟨hrest, hbuf⟩
      | true =>
        have hheld : s.isHeld k = true := hserved.reads k n (hqueue ▸ Multiset.mem_cons_self ..)
        have hheld' : isHeld k { s with queue := rest } = true := hheld
        rw [callback_remoteRead, dispatch_held hheld']
        obtain ⟨howned, hsame⟩ := hrest.record.forwardToLocal hheld' (hsound rfl)
        exact ⟨howned, hsame.trans hbuf⟩
    | send c status =>
      cases status with
      | false => exact absurd (hqueue ▸ Multiset.mem_cons_self ..) (h.successful c)
      | true =>
        have hheld : isHeld (s.context c).proxySocket { s with queue := rest } = true :=
          h.targets c (flights_send hqueue ▸ Multiset.mem_cons_self ..)
        rw [callback_send, dispatch_held hheld]
        exact ⟨(h.releaseIoContext hqueue).record, hbuf⟩
  | clear now hlive =>
    refine ⟨⟨h.contexts, h.packets, fun c hc => ?_, h.successful, h.dispatched⟩, hbuf⟩
    have hfind := beq_iff_eq.mp (h.targets c hc)
    exact beq_iff_eq.mpr (Table.find_sweep.mpr ⟨hfind, hsound.2 c hc⟩)

theorem owned_of_reachable (h : (system.restrict ReleaseSound).Reachable s) : s.Owned 0 := by
  have hrun : s.Owned 0 ∧ s.wsaBuf = none ∧ s.Served := by
    refine h.restrict_invariant (I := fun s => s.Owned 0 ∧ s.wsaBuf = none ∧ s.Served)
      (fun s hs => ?_) fun s e t hs hsound hstep => ?_
    · cases hs
      exact ⟨⟨rfl, rfl, nofun, nofun, nofun⟩, rfl, ⟨nofun, nofun, nofun, nofun⟩⟩
    · obtain ⟨howned, hbuf, hserved⟩ := hs
      obtain ⟨howned', hbuf'⟩ := howned.step hbuf hserved hsound hstep
      exact ⟨howned', hbuf', hserved.step hsound.dispatchSound hstep⟩
  exact hrun.1

/-- In runs in which no send is refused or aborted, nothing of no byte is received and no proxy
socket is removed that a completion is to be dispatched to: every dispatch is to a proxy socket in
`proxy_sockets_`, and every context and every packet that was allocated was released once, but for
those of a send that is pending or waits for its callback, which were not. -/
theorem released_when_ended (h : (system.restrict ReleaseSound).Reachable s) :
    (∀ d ∈ s.dispatches, d.held = true) ∧
    (∀ c < s.contextCount, s.released.count c = if c ∈ s.flights then 0 else 1) ∧
    ∀ p < s.packetCount, s.freed.count p = if p ∈ s.flightPackets then 0 else 1 := by
  have howned := owned_of_reachable h
  refine ⟨howned.dispatched, fun c hc => Ledger.count_eq howned.contexts hc, fun p hp => ?_⟩
  have hpackets := howned.packets
  rw [Multiset.add_zero] at hpackets
  exact Ledger.count_eq hpackets hp

/-! ## Runs that are not sound -/

/-- The context of a send that is refused is not on its way and was not released. -/
theorem refused_send_leaks (h : s.Owned hand) {context : SendContext} :
    s.contextCount < (s.wsaSend false context).contextCount ∧
      s.contextCount ∉ (s.wsaSend false context).flights ∧
      s.contextCount ∉ (s.wsaSend false context).released := by
  refine ⟨Nat.lt_succ_self _, fun hmem => Nat.lt_irrefl _ (h.lt hmem), fun hmem => ?_⟩
  exact Nat.lt_irrefl _ (Ledger.lt_of_mem h.contexts (Multiset.mem_add.mpr (Or.inl hmem)))

/-- The context of a send that is aborted is dropped by the callback. -/
theorem aborted_send_leaks (h : s.Owned hand) (hlive : s.faulted = false)
    (hmem : .send c ∈ s.pending) :
    ∃ t, system.Steps s t ∧ c < t.contextCount ∧ c ∉ t.flights ∧ c ∉ t.released := by
  obtain ⟨waiting, hpending⟩ := Multiset.exists_cons_of_mem hmem
  have hflights : s.flights = c ::ₘ flights { s with pending := waiting } := by
    unfold flights
    rw [hpending, Multiset.filterMap_cons_some UdpOperation.context? _ _ rfl, Multiset.cons_add]
  have hc : c ∈ s.flights := hflights ▸ Multiset.mem_cons_self ..
  have hnodup : (s.released + c ::ₘ flights { s with pending := waiting }).Nodup := by
    rw [← hflights, h.contexts]
    exact Multiset.nodup_range _
  rw [Multiset.add_cons, Multiset.nodup_cons, Multiset.mem_add, not_or] at hnodup
  have hcomplete : Step s (.complete (.send c false)) _ := .complete hpending fun _ => rfl
  have hcallback := @Step.callback { s with
    pending := waiting
    queue := .send c false ::ₘ s.queue } (.send c false) s.queue
    ⟨0, true, true, true, true, true, true⟩ hlive rfl
  refine ⟨_, (System.Steps.refl (M := system) s |>.snoc hcomplete).snoc hcallback, h.lt hc,
    hnodup.1.2, hnodup.1.1⟩

/-- A successful send of a proxy socket that is removed can be dispatched to it. -/
theorem removed_sender_dispatched (hlive : s.faulted = false) (hmem : .send c true ∈ s.queue)
    (hready : (s.socket (s.context c).proxySocket).isReadyForRemoval now = true) :
    ∃ t, system.Steps (s.clear now) t ∧ ∃ d ∈ t.dispatches, d.held = false := by
  obtain ⟨rest, hqueue⟩ := Multiset.exists_cons_of_mem hmem
  have hheld : isHeld (s.context c).proxySocket { s.clear now with queue := rest } = false := by
    rw [Bool.eq_false_iff]
    intro hheld
    have hfresh := (Table.find_sweep.mp (beq_iff_eq.mp hheld)).2
    exact absurd (hready.symm.trans hfresh) nofun
  have hstep : Step (s.clear now) (.callback ⟨now, true, true, true, true, true, true⟩
      (.send c true)) _ := .callback _ hlive hqueue
  refine ⟨_, (System.Steps.refl (M := system) _).snoc hstep,
    ⟨false, some (s.context c).proxySocket, false⟩, ?_, rfl⟩
  rw [callback_send]
  have hremoved : dispatch false (some (s.context c).proxySocket) (fun _ => releaseIoContext c)
      { s.clear now with queue := rest } = _ := dispatch_removed hheld
  refine hremoved ▸ ?_
  exact List.mem_append_right _ (List.mem_singleton_self _)

/-! ## Two runs -/

/-- One byte from port 5000 is sent, and the send completes: its context and its packet were
released once. -/
theorem released_when_ended_one_byte :
    ∃ s, (system.restrict ReleaseSound).Reachable s ∧ s.contextCount = 1 ∧ s.packetCount = 1 ∧
      s.released.count 0 = 1 ∧ s.freed.count 0 = 1 := by
  have hinit : (system.restrict ReleaseSound).Reachable { pending := {.serverRead} } :=
    System.Reachable.init rfl
  have hread := hinit.restrict_snoc
    (@Step.complete _ (.serverRead 5000 1 true) 0 rfl nofun) trivial
  have hcall := hread.restrict_snoc
    (@Step.callback _ (.serverRead 5000 1 true) 0 ⟨0, true, true, true, true, true, true⟩ rfl rfl)
    fun _ => ⟨nofun, rfl⟩
  have hswap := Multiset.cons_swap UdpOperation.serverRead (.send 0) {.remoteRead 0}
  have hsent := hcall.restrict_snoc (@Step.complete _ (.send 0 true) _ hswap nofun) rfl
  have hend := hsent.restrict_snoc
    (@Step.callback _ (.send 0 true) 0 ⟨0, true, true, true, true, true, true⟩ rfl rfl) trivial
  obtain ⟨-, hreleased, hfreed⟩ := released_when_ended hend
  exact ⟨_, hend, rfl, rfl, hreleased 0 Nat.zero_lt_one, hfreed 0 Nat.zero_lt_one⟩

/-- The `WSASend` of one byte is refused: its context and its packet are lost. -/
theorem refused_send_leaked :
    ∃ s, system.Reachable s ∧ s.contextCount = 1 ∧ s.packetCount = 1 ∧ s.flights = 0 ∧
      s.released = 0 ∧ s.freed = 0 := by
  have hinit : system.Reachable { pending := {.serverRead} } := System.Reachable.init rfl
  have hread := hinit.snoc (@Step.complete _ (.serverRead 5000 1 true) 0 rfl nofun)
  have hcall := hread.snoc
    (@Step.callback _ (.serverRead 5000 1 true) 0 ⟨0, true, true, true, true, false, true⟩ rfl rfl)
  exact ⟨_, hcall, rfl, rfl, rfl, rfl, rfl⟩

end Socks5LocalUdpProxyServer

end CutieProxy
