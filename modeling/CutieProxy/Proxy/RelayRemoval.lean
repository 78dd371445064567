import CutieProxy.Proxy.RelayDrain

/-!
# The removal of a relaying socket

`clear_thread` destroys a `tcp_proxy_socket` when both its sockets are closed and its four buffer
lengths are zero. A length is meant to be zero exactly while no call uses its buffer
(`Relay.Tracked`), and every branch of the handlers keeps it so but one: when a send to the local
socket completes on a closed connection and leaves nothing to forward, the connection is closed with
the flags of the send to the remote socket, whose length becomes zero while that send is still
outstanding. `removed_only_idle` shows that nothing outstanding is destroyed in runs that meet this
branch only with no send to the remote socket outstanding (`RelayRun.Sound`), and
`unsound_removes_pending` that any other run can go on to a removal that leaves the send behind.
-/

namespace CutieProxy

open Transition

/-! ## The removal test -/

namespace TcpProxySocket

/-- `is_ready_for_removal`; `expired` tells whether the time stamp is more than 120 seconds old. -/
def isReadyForRemoval (expired : Bool) (s : TcpProxySocket) : Bool × TcpProxySocket :=
  if (s.socket false).isNone && (s.socket true).isNone &&
      ((s.relay true).sendBuf.len == 0 && (s.relay false).sendBuf.len == 0 &&
        (s.relay false).recvBuf.len == 0 && (s.relay true).recvBuf.len == 0) then
    (true, s)
  else if expired then
    if (s.socket false).isNone && (s.socket true).isNone then
      (false, (s.closeClient true true).closeClient true false)
    else (false, (s.closeClient false true).closeClient false false)
  else (false, s)

/-- One of the four calls embedded in the object is outstanding. -/
def Outstanding (s : TcpProxySocket) : Prop :=
  ∃ b, (s.relay b).recvOp.isSome ∨ (s.relay b).sendOp.isSome

end TcpProxySocket

/-- An element of `proxy_sockets_`: its relay, and whether `clear_thread` destroyed it. -/
structure ServedSocket where
  run : RelayRun
  removed : Bool := false

/-- What happens to an element of `proxy_sockets_`. -/
inductive ServedEvent where
  /-- The completion of one of its calls is dispatched. -/
  | completion (e : RelayEvent)
  /-- `clear_thread` asks whether it is ready for removal. -/
  | clear (expired : Bool)

/-- A step of an element that was not destroyed. -/
inductive ServedStep : ServedSocket → ServedEvent → ServedSocket → Prop
  | completion {s : ServedSocket} {e : RelayEvent} {y : RelayRun} :
      s.removed = false → RelayStep s.run e y →
      ServedStep s (.completion e) { s with run := y }
  | clear {s : ServedSocket} (expired : Bool) :
      s.removed = false →
      ServedStep s (.clear expired)
        { run := { s.run with socket := (s.run.socket.isReadyForRemoval expired).2 }
          removed := (s.run.socket.isReadyForRemoval expired).1 }

/-- A relaying socket in the list `clear_thread` goes through. -/
def servedSystem : System ServedSocket ServedEvent where
  init s := relaySystem.init s.run ∧ s.removed = false
  step := ServedStep

namespace TcpProxySocket

variable {s t : TcpProxySocket} {b d : Bool} {n : Nat} {f : Relay → Relay} {ok : Accepts}
  {accepted : Bool}

/-- The completion of a send of `n` bytes to the local socket finds nothing more to forward and
closes the connection: it is closed already, or the receive the send makes room for is refused. -/
def ClosesDrained (n : Nat) (ok : Accepts) (s : TcpProxySocket) : Prop :=
  let r := s.relay false
  let buf := (r.shiftSend sendReceiveBufferSize n).sendBuf.buf
  if s.connectionStatus = .clientCompleted then buf = r.recvBuf.buf
  else r.recvBuf.len = 0 ∧ ok.recv = false ∧ buf = r.sendBuf.buf

end TcpProxySocket

/-- A send to the local socket that closes a drained connection completes only while no send to the
remote socket is outstanding. -/
def RelayRun.Sound (x : RelayRun) : RelayEvent → Prop
  | .sent true n ok =>
    x.socket.ClosesDrained n ok → (x.socket.relay true).sendOp = none
  | _ => True

/-- The 120-second branch is not taken, and completions are dispatched as `RelayRun.Sound` says. -/
def ServedSocket.Sound (s : ServedSocket) : ServedEvent → Prop
  | .completion e => s.run.Sound e
  | .clear expired => expired = false

/-! ## Lengths and calls -/

namespace Relay

/-- The length of a receive window is zero exactly while no receive is outstanding. -/
def RecvTracked (r : Relay) : Prop := r.recvOp = none ↔ r.recvBuf.len = 0

/-- The length of a send window is zero exactly while no send is outstanding. -/
def SendTracked (r : Relay) : Prop := r.sendOp = none ↔ r.sendBuf.len = 0

/-- Both lengths of a direction tell whether its calls are outstanding. -/
structure Tracked (r : Relay) : Prop where
  recv : r.RecvTracked
  send : r.SendTracked

/-- A direction with its receive over and its receive window emptied. -/
theorem Tracked.setRecvLen {r : Relay} (hop : r.recvOp = none) (hsend : r.SendTracked) :
    (r.setRecvLen 0).Tracked := ⟨⟨fun _ => rfl, fun _ => hop⟩, hsend⟩

/-- A direction with its send over and its send window emptied. -/
theorem Tracked.setSendLen {r : Relay} (hop : r.sendOp = none) (hrecv : r.RecvTracked) :
    (r.setSendLen 0).Tracked := ⟨hrecv, ⟨fun _ => rfl, fun _ => hop⟩⟩

end Relay

namespace TcpProxySocket

variable {s t : TcpProxySocket} {b d : Bool} {n : Nat} {f : Relay → Relay} {ok : Accepts}
  {accepted : Bool}

/-- Closing a client changes the relay by one length. -/
theorem closeClient_relay (s : TcpProxySocket) (isReceive b : Bool) :
    (s.closeClient isReceive b).relay =
      (if isReceive then s.modifyRelay b (·.setRecvLen 0)
        else s.modifyRelay (!b) (·.setSendLen 0)).relay := by
  have hclose : ∀ (t : TcpProxySocket) d, (t.closeSocket d).relay = t.relay :=
    fun t d => (closeSocket_spec t d).2.2.2
  unfold closeClient
  simp only [hclose]
  cases isReceive <;> by_cases hopen : (s.socket b).isSome = true <;>
    simp [hopen, modifyRelay]

/-- Closing a client closes both sockets. -/
theorem closeClient_socket (s : TcpProxySocket) (isReceive b d : Bool) :
    (s.closeClient isReceive b).socket d = none := by
  unfold closeClient
  generalize ht : (if (s.socket b).isSome = true then
    ({ s.closeSocket b with connectionStatus := .clientCompleted } : TcpProxySocket) else s) = t
  have hself : t.socket b = none := by
    subst ht
    split
    · exact (closeSocket_spec s b).1
    · next hclosed => exact Option.not_isSome_iff_eq_none.mp hclosed
  dsimp only
  generalize hu : (if isReceive = true then t.modifyRelay b (·.setRecvLen 0)
    else t.modifyRelay (!b) (·.setSendLen 0)) = u
  have hkeep : u.socket = t.socket := by subst hu; split <;> rfl
  obtain ⟨hother, hsame, -, -⟩ := closeSocket_spec u (!b)
  rw [Bool.not_not, hkeep, hself] at hsame
  rcases eq_or_ne d b with rfl | hd
  · exact hsame
  · rw [Bool.eq_not.mpr hd]
    exact hother

/-- Closing a client completes its connection or leaves the status. -/
theorem closeClient_status (s : TcpProxySocket) (isReceive b : Bool) :
    (s.closeClient isReceive b).connectionStatus =
      if (s.socket b).isSome then .clientCompleted else s.connectionStatus := by
  unfold closeClient
  dsimp only
  rw [(closeSocket_spec _ (!b)).2.2.1]
  cases isReceive <;> by_cases hopen : (s.socket b).isSome = true <;> simp [hopen]

/-- The connection is established with both sockets open, or closed. -/
def Live (s : TcpProxySocket) : Prop :=
  (s.connectionStatus = .clientEstablished ∧ ∀ b, (s.socket b).isSome) ∨ s.IsClosed

/-- Moving a window leaves the sockets. -/
theorem Live.modifyRelay (h : s.Live) : (s.modifyRelay b f).Live := by
  rcases h with ⟨hstatus, hopen⟩ | hclosed
  · exact Or.inl ⟨hstatus, hopen⟩
  · exact Or.inr ⟨hclosed.status, hclosed.closed⟩

/-- Closing a client closes the connection. -/
theorem Live.isClosed_closeClient (h : s.Live) (isReceive : Bool) :
    (s.closeClient isReceive b).IsClosed := by
  refine ⟨?_, closeClient_socket s isReceive b⟩
  rw [closeClient_status]
  rcases h with ⟨-, hopen⟩ | hclosed
  · rw [if_pos (hopen b)]
  · rw [hclosed.status, ite_self]

theorem Live.wsaRecv (h : s.Live) (accepted : Bool) : (s.wsaRecv accepted b).Live := by
  unfold TcpProxySocket.wsaRecv
  split
  · exact h.modifyRelay
  · exact Or.inr (h.isClosed_closeClient true)

theorem Live.wsaSend (h : s.Live) (accepted : Bool) : (s.wsaSend accepted b).Live := by
  unfold TcpProxySocket.wsaSend
  split
  · exact h.modifyRelay
  · exact Or.inr (h.isClosed_closeClient false)

/-- A receive on an open connection completes it when it is refused. -/
theorem Live.wsaRecv_status (h : s.Live) (hopen : s.connectionStatus ≠ .clientCompleted)
    (accepted : Bool) :
    (s.wsaRecv accepted b).connectionStatus = .clientCompleted ↔ accepted = false := by
  rcases id h with ⟨-, hsocket⟩ | hclosed
  · unfold TcpProxySocket.wsaRecv
    rw [hsocket b, Bool.and_true]
    cases accepted with
    | true => exact ⟨fun hstatus => absurd hstatus hopen, nofun⟩
    | false => exact ⟨fun _ => rfl, fun _ => (h.isClosed_closeClient true).status⟩
  · exact absurd hclosed.status hopen

/-- A receive changes the relay by its own call, or empties its own window. -/
theorem wsaRecv_relay (s : TcpProxySocket) (accepted b : Bool) :
    (s.wsaRecv accepted b).relay = (s.modifyRelay b fun r =>
      if accepted && (s.socket b).isSome then { r with recvOp := some r.recvBuf }
      else r.setRecvLen 0).relay := by
  unfold wsaRecv
  split
  · rfl
  · exact closeClient_relay s true b

/-- A send changes the relay by its own call, or empties its own window. -/
theorem wsaSend_relay (s : TcpProxySocket) (accepted b : Bool) :
    (s.wsaSend accepted b).relay = (s.modifyRelay (!b) fun r =>
      if accepted && (s.socket b).isSome then { r with sendOp := some r.sendBuf }
      else r.setSendLen 0).relay := by
  unfold wsaSend
  split
  · rfl
  · exact closeClient_relay s false b

/-- After a receive on an idle window the length of the window is right, and nothing else of the
relay has changed. -/
theorem wsaRecv_tracked (accepted : Bool) (hop : (s.relay b).recvOp = none)
    (hlen : (s.relay b).recvBuf.len ≠ 0) :
    ((s.wsaRecv accepted b).relay b).RecvTracked ∧
      ((s.wsaRecv accepted b).relay b).sendBuf = (s.relay b).sendBuf ∧
      ((s.wsaRecv accepted b).relay b).sendOp = (s.relay b).sendOp ∧
      (s.wsaRecv accepted b).relay (!b) = s.relay (!b) := by
  rw [wsaRecv_relay, modifyRelay_relay_self, modifyRelay_relay_not]
  split
  · exact ⟨⟨nofun, fun h => absurd h hlen⟩, rfl, rfl, rfl⟩
  · exact ⟨⟨fun _ => rfl, fun _ => hop⟩, rfl, rfl, rfl⟩

/-- After a send on an idle window the length of the window is right, and nothing else of the relay
has changed. -/
theorem wsaSend_tracked (accepted : Bool) (hop : (s.relay b).sendOp = none)
    (hlen : (s.relay b).sendBuf.len ≠ 0) :
    ((s.wsaSend accepted (!b)).relay b).SendTracked ∧
      ((s.wsaSend accepted (!b)).relay b).recvBuf = (s.relay b).recvBuf ∧
      ((s.wsaSend accepted (!b)).relay b).recvOp = (s.relay b).recvOp ∧
      (s.wsaSend accepted (!b)).relay (!b) = s.relay (!b) := by
  rw [wsaSend_relay, Bool.not_not, modifyRelay_relay_self, modifyRelay_relay_not]
  split
  · exact ⟨⟨nofun, fun h => absurd h hlen⟩, rfl, rfl, rfl⟩
  · exact ⟨⟨fun _ => rfl, fun _ => hop⟩, rfl, rfl, rfl⟩

/-! ## The handlers -/

/-- A receive completion leaves both lengths of its direction right and the other direction as it
was. -/
theorem processReceive_tracked (ok : Accepts) (hlive : s.Live) (hn : 1 ≤ n)
    (hop : (s.relay b).recvOp = none) (hsend : (s.relay b).SendTracked) :
    ((s.processReceiveBufferComplete ok n b).relay b).Tracked ∧
      (s.processReceiveBufferComplete ok n b).relay (!b) = s.relay (!b) ∧
      (s.processReceiveBufferComplete ok n b).Live := by
  unfold processReceiveBufferComplete
  rcases id hlive with ⟨hstatus, -⟩ | ⟨hstatus, -⟩ <;> rw [hstatus] <;> dsimp only
  · -- the send of what was received, when no other send is outstanding
    generalize ht : (if (s.relay b).sendBuf.len = 0 then
        (s.modifyRelay b fun r => { r with sendBuf := ⟨n, r.recvBuf.buf⟩ }).wsaSend ok.send (!b)
      else s) = t
    have hsent : (t.relay b).SendTracked ∧ (t.relay b).recvOp = none ∧
        t.relay (!b) = s.relay (!b) ∧ t.Live := by
      subst ht
      split
      · next hidle =>
        have hlive : (s.modifyRelay b fun r => { r with sendBuf := ⟨n, r.recvBuf.buf⟩ }).Live :=
          hlive.modifyRelay
        obtain ⟨htracked, -, hrecv, hother⟩ := wsaSend_tracked ok.send
          (s := s.modifyRelay b fun r => { r with sendBuf := ⟨n, r.recvBuf.buf⟩ }) (b := b)
          (by simpa using hsend.mpr hidle) (by simpa using Nat.one_le_iff_ne_zero.mp hn)
        refine ⟨htracked, hrecv.trans (by simpa using hop), hother.trans (by simp), hlive.wsaSend _⟩
      · exact ⟨hsend, hop, rfl, hlive⟩
    obtain ⟨htracked, hrecv, hother, hlive⟩ := hsent
    -- moving the receive window touches neither call
    generalize hu : t.modifyRelay b (·.shiftReceive sendReceiveBufferSize n) = u
    have hshift : (u.relay b).SendTracked ∧ (u.relay b).recvOp = none ∧
        u.relay (!b) = s.relay (!b) ∧ u.Live := by
      subst hu
      rw [modifyRelay_relay_self, modifyRelay_relay_not]
      refine ⟨?_, ?_, hother, hlive.modifyRelay⟩ <;> unfold Relay.shiftReceive <;> dsimp only <;>
        repeat' split
      all_goals assumption
    obtain ⟨htracked, hrecv, hother, hlive⟩ := hshift
    split
    · next hfull => exact ⟨⟨⟨fun _ => hfull, fun _ => hrecv⟩, htracked⟩, hother, hlive⟩
    · next hroom =>
      obtain ⟨hr, hbuf, hsendOp, hrest⟩ := wsaRecv_tracked ok.recv hrecv hroom
      refine ⟨⟨hr, ?_⟩, hrest.trans hother, hlive.wsaRecv _⟩
      unfold Relay.SendTracked
      rw [hbuf, hsendOp]
      exact htracked
  · rw [modifyRelay_relay_self, modifyRelay_relay_not]
    exact ⟨.setRecvLen hop hsend, rfl, hlive.modifyRelay⟩

/-- Where the receive of the other socket stands when a send has completed: the bytes just sent are
the room of a receive that waited for it. -/
def makeRoom (ok : Accepts) (n : Nat) (b : Bool) (s : TcpProxySocket) : TcpProxySocket :=
  if s.connectionStatus ≠ .clientCompleted ∧ (s.relay (!b)).recvBuf.len = 0 then
    let s := s.modifyRelay (!b) fun r => { r with recvBuf := ⟨n, r.sendBuf.buf⟩ }
    if (s.relay (!b)).recvBuf.len = 0 then s else s.wsaRecv ok.recv (!b)
  else s

/-- Making room keeps the calls tracked. -/
theorem makeRoom_tracked (ok : Accepts) (hlive : s.Live) (hn : 1 ≤ n)
    (hrecv : (s.relay (!b)).RecvTracked) :
    ((s.makeRoom ok n b).relay (!b)).RecvTracked ∧
      ((s.makeRoom ok n b).relay (!b)).sendBuf = (s.relay (!b)).sendBuf ∧
      ((s.makeRoom ok n b).relay (!b)).sendOp = (s.relay (!b)).sendOp ∧
      (s.makeRoom ok n b).relay b = s.relay b ∧ (s.makeRoom ok n b).Live := by
  unfold makeRoom
  split
  · next hfull =>
    obtain ⟨hopen, hzero⟩ := hfull
    dsimp only
    have hlen : ((s.modifyRelay (!b) fun r =>
        { r with recvBuf := ⟨n, r.sendBuf.buf⟩ }).relay (!b)).recvBuf.len ≠ 0 := by
      simpa using Nat.one_le_iff_ne_zero.mp hn
    rw [if_neg hlen]
    obtain ⟨htracked, hbuf, hop, hother⟩ := wsaRecv_tracked ok.recv (by simpa using hrecv.mpr hzero)
      hlen
    have hlive' : (s.modifyRelay (!b) fun r =>
        { r with recvBuf := ⟨n, r.sendBuf.buf⟩ }).Live := hlive.modifyRelay
    rw [Bool.not_not] at hother
    exact ⟨htracked, hbuf.trans (by simp), hop.trans (by simp),
      hother.trans (by simpa using modifyRelay_relay_not (s := s) (b := !b)), hlive'.wsaRecv _⟩
  · exact ⟨hrecv, rfl, rfl, rfl, hlive⟩

/-- What the completion of a send to the local socket finds after it has made room. -/
theorem makeRoom_drained (ok : Accepts) (hlive : s.Live) (hn : 1 ≤ n) :
    s.ClosesDrained n ok ↔ (s.makeRoom ok n true).connectionStatus = .clientCompleted ∧
      (((s.makeRoom ok n true).relay false).shiftSend sendReceiveBufferSize n).sendBuf.buf =
        ((s.makeRoom ok n true).relay false).recvBuf.buf := by
  unfold ClosesDrained makeRoom
  by_cases hstatus : s.connectionStatus = .clientCompleted
  · simp [hstatus]
  · simp only [hstatus, if_false, ne_eq, not_false_eq_true, true_and, Bool.not_true]
    split
    · next hzero =>
      generalize ht : s.modifyRelay false (fun r => { r with recvBuf := ⟨n, r.sendBuf.buf⟩ }) = t
      have hlen : (t.relay false).recvBuf.len ≠ 0 := by
        subst ht
        simpa using Nat.one_le_iff_ne_zero.mp hn
      have hlive' : t.Live := by subst ht; exact hlive.modifyRelay
      have hstatus' : t.connectionStatus ≠ .clientCompleted := by subst ht; exact hstatus
      rw [if_neg hlen, hlive'.wsaRecv_status hstatus', wsaRecv_relay, modifyRelay_relay_self]
      subst ht
      rw [modifyRelay_relay_self]
      split
      · simp [hzero, Relay.shiftSend]
      · simp only [hzero, Relay.shiftSend, Relay.setRecvLen, true_and]
        exact Iff.rfl
    · next hroom => simp [hstatus, hroom]

/-- The completion of a send makes room, and then sends what is left to forward. -/
theorem processSend_eq (s : TcpProxySocket) (ok : Accepts) (n : Nat) (b : Bool) :
    s.processSendBufferComplete ok n b =
      let s := (s.makeRoom ok n b).modifyRelay (!b) (·.shiftSend sendReceiveBufferSize n)
      if (s.relay (!b)).sendBuf.buf = (s.relay (!b)).recvBuf.buf then
        (if s.connectionStatus = .clientCompleted then s.closeClient false false else s).modifyRelay
          (!b) (·.setSendLen 0)
      else
        let s := s.modifyRelay (!b) (·.nextSend sendReceiveBufferSize)
        if (s.relay (!b)).sendBuf.len = 0 then s else s.wsaSend ok.send b := rfl

/-- A send completion leaves both lengths of its direction right. The other direction is as it was
unless a drained connection is closed, which empties the window of the send to the remote socket. -/
theorem processSend_tracked (ok : Accepts) (hlive : s.Live) (hn : 1 ≤ n)
    (hop : (s.relay (!b)).sendOp = none) (hrecv : (s.relay (!b)).RecvTracked) :
    ((s.processSendBufferComplete ok n b).relay (!b)).Tracked ∧
      (s.processSendBufferComplete ok n b).Live ∧
      ((b = true → ¬ s.ClosesDrained n ok) ∧
          (s.processSendBufferComplete ok n b).relay b = s.relay b ∨
        b = true ∧ s.ClosesDrained n ok ∧
          ((s.processSendBufferComplete ok n b).relay false).sendOp = none ∧
          (s.processSendBufferComplete ok n b).relay true = (s.relay true).setSendLen 0 ∧
          (s.processSendBufferComplete ok n b).IsClosed) := by
  have hdrained := makeRoom_drained ok hlive hn
  rw [processSend_eq]
  obtain ⟨hrecv, hbuf, hsend, hother, hlive⟩ := makeRoom_tracked ok hlive hn hrecv
  generalize ht : (s.makeRoom ok n b).modifyRelay (!b) (·.shiftSend sendReceiveBufferSize n) = t
  have hshift : (t.relay (!b)).RecvTracked ∧ (t.relay (!b)).sendOp = none ∧
      t.relay b = s.relay b ∧ t.Live := by
    subst ht
    rw [modifyRelay_relay_self]
    refine ⟨hrecv, hsend.trans hop, ?_, hlive.modifyRelay⟩
    rw [← hother]
    simpa using modifyRelay_relay_not (s := s.makeRoom ok n b) (b := !b)
  obtain ⟨hrecv', hop', hother', hlive'⟩ := hshift
  have hkeep : ∀ (u : TcpProxySocket) (f : Relay → Relay),
      (u.modifyRelay (!b) f).relay b = u.relay b := fun u f => by
    simpa using modifyRelay_relay_not (s := u) (b := !b) (f := f)
  dsimp only
  split
  · next hempty =>
    rw [hkeep, modifyRelay_relay_self]
    split
    · next hstatus =>
      -- the connection is closed, with the flags of the send to the remote socket
      have hclosed := hlive'.isClosed_closeClient (b := false) false
      have hrelay := closeClient_relay t false false
      refine ⟨?_, Or.inr ⟨hclosed.status, hclosed.closed⟩, ?_⟩
      · rw [hrelay]
        cases b with
        | true => exact .setSendLen hop' hrecv'
        | false => exact .setSendLen hop' hrecv'
      · rw [hrelay]
        cases b with
        | false => exact Or.inl ⟨nofun, hother'⟩
        | true =>
          subst ht
          refine Or.inr ⟨rfl, hdrained.mpr ⟨hstatus, hempty⟩, ?_, ?_, hclosed.status,
            hclosed.closed⟩
          · show ((modifyRelay (!true) _ _).relay (!true)).sendOp = none
            rw [modifyRelay_relay_self, hrelay]
            exact hop'
          · rw [hkeep, hrelay, ← hother']
            rfl
    · next hstatus =>
      refine ⟨.setSendLen hop' hrecv', hlive'.modifyRelay, Or.inl ⟨fun hb hcloses => ?_, hother'⟩⟩
      subst hb ht
      exact hstatus (hdrained.mp hcloses).1
  · next hleft =>
    have hopen : b = true → ¬ s.ClosesDrained n ok := by
      intro hb hcloses
      subst hb ht
      exact hleft (hdrained.mp hcloses).2
    generalize hu : t.modifyRelay (!b) (·.nextSend sendReceiveBufferSize) = u
    have hnext : (u.relay (!b)).RecvTracked ∧ (u.relay (!b)).sendOp = none ∧
        u.relay b = s.relay b ∧ u.Live := by
      subst hu
      rw [modifyRelay_relay_self, hkeep]
      exact ⟨hrecv', hop', hother', hlive'.modifyRelay⟩
    obtain ⟨hrecv, hop, hother, hlive⟩ := hnext
    split
    · next hzero => exact ⟨⟨hrecv, ⟨fun _ => hzero, fun _ => hop⟩⟩, hlive, Or.inl ⟨hopen, hother⟩⟩
    · next hlen =>
      obtain ⟨htracked, hbuf, hrecvOp, hrest⟩ := wsaSend_tracked ok.send hop hlen
      rw [Bool.not_not] at htracked hbuf hrecvOp hrest
      refine ⟨⟨?_, htracked⟩, hlive.wsaSend _, Or.inl ⟨hopen, hrest.trans hother⟩⟩
      unfold Relay.RecvTracked
      rw [hbuf, hrecvOp]
      exact hrecv

end TcpProxySocket

/-! ## Runs -/

namespace RelayRun

variable {x y : RelayRun} {b : Bool} {w : WsaBuf} {n : Nat} {data : List UInt8} {ok : Accepts}
  {e : RelayEvent}

/-- The lengths of a live connection tell which of its calls are outstanding. -/
structure Counted (x : RelayRun) : Prop where
  live : x.socket.Live
  tracked : ∀ d, (x.socket.relay d).Tracked

/-- Facts about both directions are facts about one and the other. -/
theorem Counted.of_both (hlive : x.socket.Live) (hself : (x.socket.relay b).Tracked)
    (hother : (x.socket.relay (!b)).Tracked) : x.Counted := by
  refine ⟨hlive, fun d => ?_⟩
  rcases eq_or_ne d b with rfl | hd
  · exact hself
  · rwa [Bool.eq_not.mpr hd]

theorem Counted.init (h : relaySystem.init x) : x.Counted := by
  obtain ⟨localSocket, remoteSocket, rfl⟩ := h
  refine ⟨Or.inl ⟨rfl, fun d => by cases d <;> rfl⟩, fun d => ?_⟩
  have hrelay : (start localSocket remoteSocket).socket.relay d =
      { recvOp := some ⟨sendReceiveBufferSize, 0⟩ } := by cases d <;> rfl
  rw [hrelay]
  exact ⟨⟨nofun, fun hzero => absurd hzero (by decide)⟩, ⟨fun _ => rfl, fun _ => rfl⟩⟩

/-- The relay when a receive is over. -/
theorem finishRecv_relay (s : TcpProxySocket) (b : Bool) (w : WsaBuf) (data : List UInt8) :
    ((finishRecv b w data s).relay b).recvOp = none ∧
      ((finishRecv b w data s).relay b).sendOp = (s.relay b).sendOp ∧
      ((finishRecv b w data s).relay b).sendBuf = (s.relay b).sendBuf ∧
      (finishRecv b w data s).relay (!b) = s.relay (!b) := by
  unfold finishRecv
  rw [TcpProxySocket.modifyRelay_relay_self, TcpProxySocket.modifyRelay_relay_not]
  exact ⟨rfl, rfl, rfl, rfl⟩

/-- The relay when a send is over. -/
theorem finishSend_relay (s : TcpProxySocket) (b : Bool) :
    ((finishSend b s).relay (!b)).sendOp = none ∧
      ((finishSend b s).relay (!b)).recvOp = (s.relay (!b)).recvOp ∧
      ((finishSend b s).relay (!b)).recvBuf = (s.relay (!b)).recvBuf ∧
      (finishSend b s).relay b = s.relay b := by
  unfold finishSend
  have hkeep := TcpProxySocket.modifyRelay_relay_not (s := s) (b := !b)
    (f := fun r => { r with sendOp := none })
  rw [Bool.not_not] at hkeep
  rw [TcpProxySocket.modifyRelay_relay_self, hkeep]
  exact ⟨rfl, rfl, rfl, rfl⟩

/-- A receive with bytes. -/
theorem Counted.onReceived (h : x.Counted) (hn : 1 ≤ data.length) :
    (x.onReceived b w data ok).Counted := by
  obtain ⟨hop, hsendOp, hsendBuf, hother⟩ := finishRecv_relay x.socket b w data
  have hlive : (finishRecv b w data x.socket).Live := h.live.modifyRelay
  have hsend : ((finishRecv b w data x.socket).relay b).SendTracked := by
    unfold Relay.SendTracked
    rw [hsendOp, hsendBuf]
    exact (h.tracked b).send
  obtain ⟨hself, hrest, hlive⟩ := TcpProxySocket.processReceive_tracked ok hlive hn hop
    hsend
  have hsocket : (x.onReceived b w data ok).socket = _ := callback_received _ hn
  rw [← hsocket] at hself hrest hlive
  exact .of_both hlive hself (by rw [hrest, hother]; exact h.tracked (!b))

/-- A receive that got nothing, or failed. -/
theorem Counted.closeRecv (h : x.Counted)
    (hy : y.socket = (finishRecv b w [] x.socket).closeClient true b) : y.Counted := by
  obtain ⟨hop, hsendOp, hsendBuf, hother⟩ := finishRecv_relay x.socket b w []
  have hlive : (finishRecv b w [] x.socket).Live := h.live.modifyRelay
  have hrelay := TcpProxySocket.closeClient_relay (finishRecv b w [] x.socket) true b
  refine .of_both (b := b) (hy ▸ Or.inr (hlive.isClosed_closeClient true)) ?_ ?_
  · rw [hy, hrelay, if_pos rfl, TcpProxySocket.modifyRelay_relay_self]
    refine .setRecvLen hop ?_
    unfold Relay.SendTracked
    rw [hsendOp, hsendBuf]
    exact (h.tracked b).send
  · rw [hy, hrelay, if_pos rfl, TcpProxySocket.modifyRelay_relay_not, hother]
    exact h.tracked (!b)

/-- A send that failed. -/
theorem Counted.onSendFailed (h : x.Counted) : (x.onSendFailed b).Counted := by
  obtain ⟨hop, hrecvOp, hrecvBuf, hother⟩ := finishSend_relay x.socket b
  have hlive : (finishSend b x.socket).Live := h.live.modifyRelay
  have hrelay := TcpProxySocket.closeClient_relay (finishSend b x.socket) false b
  have hsocket : (x.onSendFailed b).socket = (finishSend b x.socket).closeClient false b := rfl
  refine .of_both (b := !b) (hsocket ▸ Or.inr (hlive.isClosed_closeClient false)) ?_ ?_
  · rw [hsocket, hrelay, if_neg Bool.false_ne_true, TcpProxySocket.modifyRelay_relay_self]
    refine .setSendLen hop ?_
    unfold Relay.RecvTracked
    rw [hrecvOp, hrecvBuf]
    exact (h.tracked (!b)).recv
  · rw [hsocket, hrelay, if_neg Bool.false_ne_true, TcpProxySocket.modifyRelay_relay_not,
      Bool.not_not, hother]
    exact h.tracked b

/-- A send that was reported sent keeps the calls counted, or closes a drained connection. -/
theorem Counted.onSent (h : x.Counted) (hn : 1 ≤ n) :
    (b = true → ¬ x.socket.ClosesDrained n ok) ∧ (x.onSent b w n ok).Counted ∨
      b = true ∧ x.socket.ClosesDrained n ok ∧
        ((x.onSent b w n ok).socket.relay false).Tracked ∧
        ((x.onSent b w n ok).socket.relay false).sendOp = none ∧
        (x.onSent b w n ok).socket.relay true = (x.socket.relay true).setSendLen 0 ∧
        (x.onSent b w n ok).socket.IsClosed := by
  obtain ⟨hop, hrecvOp, hrecvBuf, hother⟩ := finishSend_relay x.socket b
  have hlive : (finishSend b x.socket).Live := h.live.modifyRelay
  have hrecv : ((finishSend b x.socket).relay (!b)).RecvTracked := by
    unfold Relay.RecvTracked
    rw [hrecvOp, hrecvBuf]
    exact (h.tracked (!b)).recv
  obtain ⟨hself, hlive, hrest⟩ := TcpProxySocket.processSend_tracked ok hlive hn hop hrecv
  have hsocket : (x.onSent b w n ok).socket = _ := callback_sent _
  rw [← hsocket] at hself hlive hrest
  rcases hrest with ⟨hopen, hrest⟩ | ⟨rfl, hdrained, hover, hrest, hclosed⟩
  · refine Or.inl ⟨fun hb => ?_, .of_both hlive hself ?_⟩
    · subst hb
      exact hopen rfl
    rw [Bool.not_not, hrest, hother]
    exact h.tracked b
  · exact Or.inr ⟨rfl, hdrained, hself, hover, hrest.trans (by rw [hother]), hclosed⟩

/-- A step keeps the calls counted, or leaves the send to the remote socket uncounted. -/
theorem Counted.step (h : x.Counted) (hstep : RelayStep x e y) :
    x.Sound e ∧ y.Counted ∨ ¬ x.Sound e ∧ (y.socket.relay false).Tracked ∧
      (y.socket.relay false).sendOp = none ∧
      y.socket.relay true = (x.socket.relay true).setSendLen 0 ∧
      (x.socket.relay true).sendOp ≠ none ∧ y.socket.IsClosed := by
  cases hstep with
  | received hop hn hfit => exact Or.inl ⟨trivial, h.onReceived hn⟩
  | endOfStream hop => exact Or.inl ⟨trivial, h.closeRecv rfl⟩
  | recvFailed hop => exact Or.inl ⟨trivial, h.closeRecv rfl⟩
  | sendFailed hop => exact Or.inl ⟨trivial, h.onSendFailed⟩
  | sent hop hn hfit =>
    rename_i b w n ok
    rcases h.onSent (b := b) (w := w) hn with
      ⟨hopen, hcounted⟩ | ⟨rfl, hdrained, hself, hover, hrest, hclosed⟩
    · refine Or.inl ⟨?_, hcounted⟩
      cases b with
      | false => trivial
      | true => exact fun hcloses => absurd hcloses (hopen rfl)
    · rcases eq_or_ne (x.socket.relay true).sendOp none with hidle | hidle
      · refine Or.inl ⟨fun _ => hidle, .of_both (b := false) (Or.inr hclosed) hself ?_⟩
        rw [Bool.not_false, hrest]
        exact .setSendLen hidle (h.tracked true).recv
      · exact Or.inr ⟨fun hsound => hidle (hsound hdrained), hself, hover, hrest, hidle, hclosed⟩

/-- The removal test, in runs that never take the 120-second branch. -/
theorem ready_iff (s : TcpProxySocket) : (s.isReadyForRemoval false).1 = true ↔
    (∀ d, s.socket d = none) ∧ ∀ d, (s.relay d).recvBuf.len = 0 ∧ (s.relay d).sendBuf.len = 0 := by
  unfold TcpProxySocket.isReadyForRemoval
  simp only [Bool.forall_bool]
  split
  · next hready =>
    simp only [Bool.and_eq_true, Option.isNone_iff_eq_none, beq_iff_eq] at hready
    obtain ⟨⟨hremote, hlocal⟩, ⟨⟨hst, hsf⟩, hrf⟩, hrt⟩ := hready
    exact ⟨fun _ => ⟨⟨hremote, hlocal⟩, ⟨hrf, hsf⟩, hrt, hst⟩, fun _ => rfl⟩
  · next hready =>
    refine ⟨nofun, fun h => absurd ?_ hready⟩
    obtain ⟨⟨hremote, hlocal⟩, ⟨hrf, hsf⟩, hrt, hst⟩ := h
    simp [hremote, hlocal, hrf, hsf, hrt, hst]

/-- Where the lengths are right, a connection is ready for removal exactly when it is closed and
none of its calls is outstanding. -/
theorem Counted.ready_iff (h : x.Counted) :
    (x.socket.isReadyForRemoval false).1 = true ↔
      (∀ d, x.socket.socket d = none) ∧ ¬ x.socket.Outstanding := by
  rw [RelayRun.ready_iff]
  refine and_congr_right fun _ => ⟨fun hzero hout => ?_, fun hidle d => ⟨?_, ?_⟩⟩
  · obtain ⟨d, hop | hop⟩ := hout
    · rw [(h.tracked d).recv.mpr (hzero d).1] at hop
      cases hop
    · rw [(h.tracked d).send.mpr (hzero d).2] at hop
      cases hop
  · exact (h.tracked d).recv.mp (Option.not_isSome_iff_eq_none.mp fun hop => hidle ⟨d, Or.inl hop⟩)
  · exact (h.tracked d).send.mp (Option.not_isSome_iff_eq_none.mp fun hop => hidle ⟨d, Or.inr hop⟩)

end RelayRun

/-- The lengths are right, and what was removed had nothing outstanding. -/
structure ServedSocket.Idle (s : ServedSocket) : Prop where
  counted : s.run.Counted
  removed : s.removed = true → ¬ s.run.socket.Outstanding

theorem ServedSocket.Idle.init {s : ServedSocket} (h : servedSystem.init s) : s.Idle :=
  ⟨.init h.1, fun hremoved => absurd (hremoved.symm.trans h.2) nofun⟩

theorem ServedSocket.Idle.step {s t : ServedSocket} {e : ServedEvent} (h : s.Idle)
    (hsound : s.Sound e) (hstep : ServedStep s e t) : t.Idle := by
  obtain ⟨hcounted, -⟩ := h
  cases hstep with
  | completion hkept hrelay =>
    rcases hcounted.step hrelay with ⟨-, hcounted'⟩ | ⟨hunsound, -⟩
    · exact ⟨hcounted', fun hremoved => absurd (hremoved.symm.trans hkept) nofun⟩
    · exact absurd hsound hunsound
  | clear expired hkept =>
    cases hsound
    have hsame : (s.run.socket.isReadyForRemoval false).2 = s.run.socket := by
      unfold TcpProxySocket.isReadyForRemoval
      split <;> rfl
    refine ⟨?_, fun hready => ?_⟩
    · rw [hsame]
      exact hcounted
    · rw [hsame]
      exact (hcounted.ready_iff.mp hready).2

/-- In runs that meet a send to the local socket which closes a drained connection only with no send
to the remote socket outstanding, a connection is ready for removal only when none of its calls is
outstanding, and `clear_thread` destroys no other. -/
theorem removed_only_idle {s : ServedSocket}
    (h : (servedSystem.restrict ServedSocket.Sound).Reachable s) :
    ((s.run.socket.isReadyForRemoval false).1 = true → ¬ s.run.socket.Outstanding) ∧
      (s.removed = true → ¬ s.run.socket.Outstanding) := by
  have hidle : s.Idle := h.restrict_invariant
    (fun _ => ServedSocket.Idle.init) fun _ _ _ hs hsound hstep => hs.step hsound hstep
  exact ⟨fun hready => (hidle.counted.ready_iff.mp hready).2, hidle.removed⟩

/-- The receive on one socket of a closed connection is aborted, if it is outstanding. -/
theorem RelayRun.drain_recv {x : RelayRun} (h : x.socket.IsClosed) (d : Bool)
    (htracked : (x.socket.relay d).RecvTracked) :
    ∃ y, relaySystem.Steps x y ∧ y.socket.IsClosed ∧ (y.socket.relay d).recvBuf.len = 0 ∧
      (y.socket.relay d).sendBuf = (x.socket.relay d).sendBuf ∧
      (y.socket.relay d).sendOp = (x.socket.relay d).sendOp ∧
      y.socket.relay (!d) = x.socket.relay (!d) := by
  cases hop : (x.socket.relay d).recvOp with
  | none => exact ⟨x, .refl x, h, htracked.mp hop, rfl, rfl, rfl⟩
  | some w =>
    have hlive : (finishRecv d w [] x.socket).Live := Or.inr ⟨h.status, h.closed⟩
    have hrelay := TcpProxySocket.closeClient_relay (finishRecv d w [] x.socket) true d
    obtain ⟨-, hsendOp, hsendBuf, hother⟩ := finishRecv_relay x.socket d w []
    have hsocket : (x.onRecvFailed d w).socket = (finishRecv d w [] x.socket).closeClient true d :=
      rfl
    refine ⟨x.onRecvFailed d w, System.Steps.snoc (.refl x) (e := .recvFailed d) (.recvFailed hop),
      hsocket ▸ hlive.isClosed_closeClient true, ?_⟩
    rw [hsocket, hrelay, if_pos rfl, TcpProxySocket.modifyRelay_relay_self,
      TcpProxySocket.modifyRelay_relay_not]
    exact ⟨rfl, hsendBuf, hsendOp, hother⟩

/-- A run whose steps all were sound until a send to the local socket closed a drained connection
under an outstanding send to the remote one can go on until the connection is ready for removal,
with that send outstanding. -/
theorem unsound_removes_pending {x y : RelayRun} {e : RelayEvent}
    (h : (relaySystem.restrict RelayRun.Sound).Reachable x) (hstep : RelayStep x e y)
    (hunsound : ¬ x.Sound e) :
    ∃ z, relaySystem.Steps y z ∧ (z.socket.isReadyForRemoval false).1 = true ∧
      (z.socket.relay true).sendOp.isSome := by
  have hcounted : x.Counted := h.restrict_invariant (fun _ => RelayRun.Counted.init)
    fun _ _ _ hs hsound hstep => by
      rcases hs.step hstep with ⟨-, hcounted⟩ | ⟨hunsound, -⟩
      · exact hcounted
      · exact absurd hsound hunsound
  rcases hcounted.step hstep with ⟨hsound, -⟩ | ⟨-, htracked, hover, hsame, hout, hclosed⟩
  · exact absurd hsound hunsound
  have hrecv : (y.socket.relay true).RecvTracked := by
    rw [hsame]
    exact (hcounted.tracked true).recv
  obtain ⟨u, hyu, hclosedu, hlenu, hbufu, hopu, hotheru⟩ := RelayRun.drain_recv hclosed true hrecv
  obtain ⟨z, huz, hclosedz, hlenz, hbufz, hopz, hotherz⟩ := RelayRun.drain_recv hclosedu false
    (hotheru ▸ htracked.recv)
  rw [Bool.not_true] at hotheru
  rw [Bool.not_false] at hotherz
  refine ⟨z, hyu.trans huz, (RelayRun.ready_iff _).mpr ⟨hclosedz.closed, fun d => ?_⟩, ?_⟩
  · cases d with
    | true =>
      rw [hotherz, hbufu, hsame]
      exact ⟨hlenu, rfl⟩
    | false =>
      rw [hbufz, hotheru]
      exact ⟨hlenz, htracked.send.mp hover⟩
  · rw [hotherz, hopu, hsame]
    exact Option.isSome_iff_ne_none.mpr hout

/-- One byte from either peer is being forwarded. -/
def RelayRun.bothSending : RelayRun :=
  RelayRun.afterByte.onReceived false ⟨sendReceiveBufferSize, 0⟩ [8] ⟨true, true⟩

/-- The remote peer ended its stream, and the receive from the local one was aborted. -/
def RelayRun.sendsLeft : RelayRun :=
  (RelayRun.bothSending.onEndOfStream false ⟨65535, 1⟩).onRecvFailed true ⟨65535, 1⟩

theorem RelayStep.bothSending :
    RelayStep RelayRun.afterByte (.received false [8] ⟨true, true⟩) RelayRun.bothSending :=
  .received rfl (by decide) (by decide)

theorem RelayStep.remoteEnded :
    RelayStep RelayRun.bothSending (.endOfStream false)
      (RelayRun.bothSending.onEndOfStream false ⟨65535, 1⟩) := .endOfStream rfl

theorem RelayStep.sendsLeft :
    RelayStep (RelayRun.bothSending.onEndOfStream false ⟨65535, 1⟩) (.recvFailed true)
      RelayRun.sendsLeft := .recvFailed rfl

/-- Both sends are dispatched, the one to the remote socket before the one to the local. -/
theorem removed_only_idle_both_sent :
    ∃ s, (servedSystem.restrict ServedSocket.Sound).Reachable s ∧ s.removed = true ∧
      ¬ s.run.socket.Outstanding := by
  have hinit : (servedSystem.restrict ServedSocket.Sound).Reachable ⟨RelayRun.start 0 1, false⟩ :=
    System.Reachable.init ⟨⟨0, 1, rfl⟩, rfl⟩
  have hremote : RelayStep RelayRun.sendsLeft (.sent false 1 ⟨true, true⟩)
      (RelayRun.sendsLeft.onSent false ⟨1, 0⟩ 1 ⟨true, true⟩) := .sent rfl (by decide) (by decide)
  have hlocal : RelayStep (RelayRun.sendsLeft.onSent false ⟨1, 0⟩ 1 ⟨true, true⟩)
      (.sent true 1 ⟨true, true⟩)
      ((RelayRun.sendsLeft.onSent false ⟨1, 0⟩ 1 ⟨true, true⟩).onSent true ⟨1, 0⟩ 1 ⟨true, true⟩) :=
    .sent rfl (by decide) (by decide)
  have hleft := (((hinit.restrict_snoc (.completion rfl RelayStep.afterByte) trivial).restrict_snoc
    (.completion rfl RelayStep.bothSending) trivial).restrict_snoc
    (.completion rfl RelayStep.remoteEnded) trivial).restrict_snoc
    (.completion rfl RelayStep.sendsLeft) trivial
  have hlast := (hleft.restrict_snoc (.completion rfl hremote) trivial).restrict_snoc
    (.completion rfl hlocal) fun _ => rfl
  have hclear := hlast.restrict_snoc (ServedStep.clear false rfl) rfl
  exact ⟨_, hclear, rfl, (removed_only_idle hclear).2 rfl⟩

/-- The send to the local socket is dispatched first: the connection is removed while the send to
the remote socket is outstanding. -/
theorem removed_with_send_outstanding :
    ∃ s, (servedSystem.restrict fun _ e => e ≠ .clear true).Reachable s ∧ s.removed = true ∧
      (s.run.socket.relay true).sendOp = some ⟨1, 0⟩ ∧ s.run.socket.Outstanding := by
  have hinit : (servedSystem.restrict fun _ e => e ≠ .clear true).Reachable
      ⟨RelayRun.start 0 1, false⟩ := System.Reachable.init ⟨⟨0, 1, rfl⟩, rfl⟩
  have hlocal : RelayStep RelayRun.sendsLeft (.sent true 1 ⟨true, true⟩)
      (RelayRun.sendsLeft.onSent true ⟨1, 0⟩ 1 ⟨true, true⟩) := .sent rfl (by decide) (by decide)
  have hlast := ((((hinit.restrict_snoc (.completion rfl RelayStep.afterByte) nofun).restrict_snoc
    (.completion rfl RelayStep.bothSending) nofun).restrict_snoc
    (.completion rfl RelayStep.remoteEnded) nofun).restrict_snoc
    (.completion rfl RelayStep.sendsLeft) nofun).restrict_snoc (.completion rfl hlocal) nofun
  have hclear := hlast.restrict_snoc (ServedStep.clear false rfl) nofun
  exact ⟨_, hclear, rfl, rfl, true, Or.inr rfl⟩

end CutieProxy
