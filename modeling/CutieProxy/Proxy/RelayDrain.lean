import CutieProxy.Proxy.RelayCorrect

/-!
# The relay at the end of a stream

The completion callback closes both sockets of a connection as soon as a receive completes with no
byte. From then on every call is refused, so what is still queued is never sent: the
`client_completed` branches of the handlers, which drain the queue before they close, find the
sockets closed already. A peer's bytes therefore all reach the other peer exactly when no send of
their direction is in flight as its end of stream closes the connection, or as the other peer's did
before (`endOfStream_forwards_everything`).
`RelayRun.Draining` splits a run into its open part, where both directions are queues
(`RelayRun.Flowing`), and its closed part, where nothing is issued any more (`RelayRun.Finished`).
-/

namespace CutieProxy

open Cyclic Store Transition

/-! ## Handlers on closed sockets -/

namespace TcpProxySocket

variable {s t u : TcpProxySocket} {b d : Bool} {n : Nat} {f : Relay → Relay} {ok : Accepts}

/-- Both sockets were closed by an end of stream or a failure. -/
structure IsClosed (s : TcpProxySocket) : Prop where
  status : s.connectionStatus = .clientCompleted
  closed : ∀ b, s.socket b = none

/-- `t` is closed and has the overlapped calls of `s`. -/
structure Quiet (s t : TcpProxySocket) : Prop where
  isClosed : t.IsClosed
  recvOp : ∀ d, (t.relay d).recvOp = (s.relay d).recvOp
  sendOp : ∀ d, (t.relay d).sendOp = (s.relay d).sendOp

theorem Quiet.refl (h : s.IsClosed) : Quiet s s := ⟨h, fun _ => rfl, fun _ => rfl⟩

theorem Quiet.trans (h : Quiet s t) (h' : Quiet t u) : Quiet s u :=
  ⟨h'.isClosed, fun d => (h'.recvOp d).trans (h.recvOp d),
    fun d => (h'.sendOp d).trans (h.sendOp d)⟩

/-- Moving a window issues no call. -/
theorem IsClosed.modifyRelay (h : s.IsClosed) (hr : (f (s.relay b)).recvOp = (s.relay b).recvOp)
    (hs : (f (s.relay b)).sendOp = (s.relay b).sendOp) : Quiet s (s.modifyRelay b f) := by
  refine ⟨⟨h.status, h.closed⟩, fun d => ?_, fun d => ?_⟩
  all_goals
    by_cases hd : d = b
    · subst hd
      simp [hr, hs]
    · simp [TcpProxySocket.modifyRelay, hd]

/-- A closed connection is not closed again. -/
theorem IsClosed.closeClient (h : s.IsClosed) (isReceive : Bool) :
    Quiet s (s.closeClient isReceive b) := by
  have hclose : ∀ {t : TcpProxySocket} {d}, t.IsClosed → t.closeSocket d = t := fun ht => by
    simp [closeSocket, ht.closed]
  unfold TcpProxySocket.closeClient
  simp only [h.closed, Option.isSome_none, Bool.false_eq_true, if_false]
  split
  · have hq := h.modifyRelay (b := b) (f := (·.setRecvLen 0)) rfl rfl
    rw [hclose hq.isClosed]
    exact hq
  · have hq := h.modifyRelay (b := !b) (f := (·.setSendLen 0)) rfl rfl
    rw [hclose hq.isClosed]
    exact hq

/-- A receive on a closed socket is refused. -/
theorem IsClosed.wsaRecv (h : s.IsClosed) (accepted : Bool) : Quiet s (s.wsaRecv accepted b) := by
  unfold TcpProxySocket.wsaRecv
  simp only [h.closed, Option.isSome_none, Bool.and_false, Bool.false_eq_true, if_false]
  exact h.closeClient true

/-- A send on a closed socket is refused. -/
theorem IsClosed.wsaSend (h : s.IsClosed) (accepted : Bool) : Quiet s (s.wsaSend accepted b) := by
  unfold TcpProxySocket.wsaSend
  simp only [h.closed, Option.isSome_none, Bool.and_false, Bool.false_eq_true, if_false]
  exact h.closeClient false

/-- A receive completion of a closed connection issues no call. -/
theorem IsClosed.processReceiveBufferComplete (h : s.IsClosed) :
    Quiet s (s.processReceiveBufferComplete ok n b) := by
  unfold TcpProxySocket.processReceiveBufferComplete
  rw [h.status]
  exact h.modifyRelay rfl rfl

/-- A send completion of a closed connection issues no call. -/
theorem IsClosed.processSendBufferComplete (h : s.IsClosed) :
    Quiet s (s.processSendBufferComplete ok n b) := by
  have hshift : Quiet s (s.modifyRelay (!b) (·.shiftSend sendReceiveBufferSize n)) :=
    h.modifyRelay rfl rfl
  unfold TcpProxySocket.processSendBufferComplete
  simp only [h.status, ne_eq, not_true_eq_false, false_and, if_false]
  generalize s.modifyRelay (!b) (·.shiftSend sendReceiveBufferSize n) = t at hshift ⊢
  split
  · have hclose := hshift.isClosed.closeClient (b := false) false
    rw [if_pos hshift.isClosed.status]
    exact (hshift.trans hclose).trans (hclose.isClosed.modifyRelay rfl rfl)
  · have hnext : Quiet t (t.modifyRelay (!b) (·.nextSend sendReceiveBufferSize)) :=
      hshift.isClosed.modifyRelay rfl rfl
    split
    · exact hshift.trans hnext
    · exact (hshift.trans hnext).trans (hnext.isClosed.wsaSend _)

/-- `closeSocket` closes its socket and leaves the other one and the calls the system holds. -/
theorem closeSocket_spec (s : TcpProxySocket) (b : Bool) :
    (s.closeSocket b).socket b = none ∧ (s.closeSocket b).socket (!b) = s.socket (!b) ∧
      (s.closeSocket b).connectionStatus = s.connectionStatus ∧
      (s.closeSocket b).relay = s.relay := by
  unfold closeSocket
  split
  · next hnone => exact ⟨hnone, rfl, rfl, rfl⟩
  · exact ⟨by simp, by simp, rfl, rfl⟩

/-- Closing an open connection closes both sockets and leaves the calls the system holds. -/
theorem closeClient_open (hopen : (s.socket b).isSome) (isReceive : Bool) :
    Quiet s (s.closeClient isReceive b) := by
  obtain ⟨hself, -, -, hrelay⟩ := closeSocket_spec s b
  unfold TcpProxySocket.closeClient
  simp only [hopen, if_true]
  -- the window that is emptied has no call of its own
  generalize ht : (if isReceive = true then
      ({ s.closeSocket b with connectionStatus := .clientCompleted } : TcpProxySocket).modifyRelay b
        (·.setRecvLen 0)
    else ({ s.closeSocket b with connectionStatus := .clientCompleted } : TcpProxySocket).modifyRelay
      (!b) (·.setSendLen 0)) = t
  have hstatus : t.connectionStatus = .clientCompleted := by subst ht; split <;> rfl
  have hsocket : t.socket b = none := by subst ht; split <;> exact hself
  have hops : ∀ d, (t.relay d).recvOp = (s.relay d).recvOp ∧
      (t.relay d).sendOp = (s.relay d).sendOp := by
    intro d
    subst ht
    split <;> simp only [modifyRelay, hrelay, Function.update_apply] <;> split <;>
      simp_all [Relay.setRecvLen, Relay.setSendLen]
  obtain ⟨hother, hkeep, hstatus', hrelay'⟩ := closeSocket_spec t (!b)
  rw [Bool.not_not, hsocket] at hkeep
  refine ⟨⟨hstatus'.trans hstatus, fun d => ?_⟩, fun d => ?_, fun d => ?_⟩
  · by_cases hd : d = b
    · rw [hd]; exact hkeep
    · have hd' : d = !b := Bool.eq_not_of_ne hd
      rw [hd']; exact hother
  · rw [hrelay']; exact (hops d).1
  · rw [hrelay']; exact (hops d).2

end TcpProxySocket

/-! ## The open and the closed part of a run -/

/-- No call of the relay fails or is refused on an open socket. -/
def RelayRun.NoSocketError (x : RelayRun) : RelayEvent → Prop
  | .received _ _ ok | .sent _ _ ok => ok = ⟨true, true⟩
  | .endOfStream _ => True
  | .recvFailed b | .sendFailed b => x.socket.socket b = none

/-- The send of a direction that is in flight, or that was when the connection was closed. -/
def RelayRun.inFlight (x : RelayRun) (b : Bool) : Option WsaBuf :=
  if (x.socket.socket b).isSome then (x.socket.relay b).sendOp else x.cut b

/-- An end of stream is dispatched only while no send of its direction is in flight, and after the
connection was closed only when none of its direction was then. -/
def RelayRun.EndsIdle (x : RelayRun) : RelayEvent → Prop
  | .endOfStream b => x.inFlight b = none
  | .received _ _ _ | .sent _ _ _ | .recvFailed _ | .sendFailed _ => True

namespace RelayRun

variable {x y : RelayRun} {b : Bool} {w : WsaBuf} {n : Nat} {data : List UInt8} {ok : Accepts}
  {e : RelayEvent}

/-- Both sockets are closed. A stream that ended, or may still do so, was forwarded whole just when
none of it was in flight then. -/
structure Finished (x : RelayRun) : Prop where
  isClosed : x.socket.IsClosed
  settled : ∀ b, (x.socket.relay b).recvOp.isSome ∨ x.ended b →
    (x.forwarded b = x.received b ↔ x.cut b = none)
  ended : ∀ b, x.ended b → (x.socket.relay b).recvOp = none ∧ x.cut b = none

/-- A run before and after the end of a stream. -/
def Draining (x : RelayRun) : Prop :=
  (x.Flowing ∧ ∀ b, x.ended b = false ∧ x.forwarded b = x.sent b) ∨ x.Finished

/-- The callback on a closed connection issues no call. -/
theorem callback_quiet {s : TcpProxySocket} (h : s.IsClosed) {ioOperation : ProxyIoOperation}
    (status : Bool) : s.Quiet (callback ok ioOperation b n status s) := by
  unfold callback completionCallback
  simp only [Bool.false_eq_true, if_false]
  split
  · exact h.closeClient true
  · split
    · exact h.closeClient false
    · cases ioOperation with
      | relayIoRead => exact h.processReceiveBufferComplete
      | relayIoWrite => exact h.processSendBufferComplete
      | negotiateIoRead | negotiateIoWrite | injectIoWrite => exact .refl h

/-- The callback closes an open connection at the end of a stream. -/
theorem callback_endOfStream (s : TcpProxySocket) :
    callback ok .relayIoRead b 0 true s = s.closeClient true b := by
  simp [callback, completionCallback, TcpProxySocket.handlers]

/-- The end of a receive leaves no receive on its socket and every other call as it is. -/
theorem finishRecv_ops (s : TcpProxySocket) (d : Bool) :
    ((finishRecv b w data s).relay d).recvOp =
        (if d = b then none else (s.relay d).recvOp) ∧
      ((finishRecv b w data s).relay d).sendOp = (s.relay d).sendOp := by
  by_cases hd : d = b
  · subst hd
    simp [finishRecv]
  · simp [finishRecv, TcpProxySocket.modifyRelay, hd]

/-- The end of a send leaves no send of its direction and every other call as it is. -/
theorem finishSend_ops (s : TcpProxySocket) (d : Bool) :
    ((finishSend b s).relay d).recvOp = (s.relay d).recvOp ∧
      ((finishSend b s).relay d).sendOp = (if d = !b then none else (s.relay d).sendOp) := by
  by_cases hd : d = !b
  · subst hd
    simp [finishSend]
  · simp [finishSend, TcpProxySocket.modifyRelay, hd]

/-- A finished run stays finished as long as no byte is received of a stream that may end. -/
theorem Finished.of_quiet {s : TcpProxySocket} (h : x.Finished) (hquiet : s.Quiet y.socket)
    (hcut : y.cut = x.cut) (hforwarded : y.forwarded = x.forwarded)
    (hkept : ∀ d, (s.relay d).recvOp.isSome ∨ y.ended d →
      ((x.socket.relay d).recvOp.isSome ∨ x.ended d) ∧ y.received d = x.received d)
    (hended : ∀ d, y.ended d → (s.relay d).recvOp = none ∧ x.cut d = none) : y.Finished := by
  refine ⟨hquiet.isClosed, fun d hd => ?_, fun d hd => ?_⟩
  · rw [hquiet.recvOp] at hd
    obtain ⟨hbefore, hreceived⟩ := hkept d hd
    rw [hcut, hforwarded, hreceived]
    exact h.settled d hbefore
  · rw [hquiet.recvOp, hcut]
    exact hended d hd

/-- A receive that is over brings the end of no other stream. -/
theorem Finished.recv_over (h : x.Finished) {d : Bool}
    (hd : ((finishRecv b w data x.socket).relay d).recvOp.isSome ∨ x.ended d)
    (hop : (x.socket.relay b).recvOp = some w) :
    d ≠ b ∧ ((x.socket.relay d).recvOp.isSome ∨ x.ended d) := by
  rw [(finishRecv_ops _ _).1] at hd
  by_cases hne : d = b
  · subst hne
    rw [if_pos rfl] at hd
    rcases hd with hd | hd
    · cases hd
    · rw [(h.ended d hd).1] at hop
      cases hop
  · rw [if_neg hne] at hd
    exact ⟨hne, hd⟩

/-- A stream that ended is not received from again. -/
theorem Finished.ended_over (h : x.Finished) {d : Bool} (hd : x.ended d) :
    ((finishRecv b w data x.socket).relay d).recvOp = none ∧ x.cut d = none := by
  obtain ⟨hrecv, hcut⟩ := h.ended d hd
  refine ⟨?_, hcut⟩
  rw [(finishRecv_ops _ _).1, hrecv, ite_self]

/-- Every event of a finished run that meets the condition keeps it finished. -/
theorem Finished.step (h : x.Finished) (hidle : x.EndsIdle e) (hstep : RelayStep x e y) :
    y.Finished := by
  have hclosedRecv : ∀ {b w data}, (finishRecv b w data x.socket).IsClosed :=
    ⟨h.isClosed.status, h.isClosed.closed⟩
  have hclosedSend : ∀ {b}, (finishSend b x.socket).IsClosed :=
    ⟨h.isClosed.status, h.isClosed.closed⟩
  have hnone : ∀ b, ¬ (x.socket.socket b).isSome := fun b => by simp [h.isClosed.closed b]
  cases hstep with
  | received hop hn hfit =>
    refine h.of_quiet (callback_quiet hclosedRecv true) rfl rfl (fun d hd => ?_)
      fun d hd => h.ended_over hd
    obtain ⟨hne, hbefore⟩ := h.recv_over hd hop
    exact ⟨hbefore, by simp [RelayRun.onReceived, hne]⟩
  | sent hop hn hfit =>
    refine h.of_quiet (callback_quiet hclosedSend true) rfl (if_neg (hnone _)) (fun d hd => ?_)
      fun d hd => ?_
    · rw [(finishSend_ops _ _).1] at hd
      exact ⟨hd, rfl⟩
    · rw [(finishSend_ops _ _).1]
      exact h.ended d hd
  | @endOfStream b _ hop =>
    have hcut : x.cut b = none := by
      have hidle : x.inFlight b = none := hidle
      rwa [inFlight, if_neg (hnone b)] at hidle
    refine h.of_quiet (callback_quiet hclosedRecv true) (if_neg (hnone b)) rfl (fun d hd => ?_)
      fun d hd => ?_
    all_goals by_cases hne : d = b
    · subst hne
      exact ⟨.inl (by rw [hop]; rfl), rfl⟩
    · simp only [onEndOfStream, Function.update_of_ne hne] at hd
      exact ⟨(h.recv_over hd hop).2, rfl⟩
    · subst hne
      exact ⟨by rw [(finishRecv_ops _ _).1, if_pos rfl], hcut⟩
    · simp only [onEndOfStream, Function.update_of_ne hne] at hd
      exact h.ended_over hd
  | recvFailed hop =>
    exact h.of_quiet (callback_quiet hclosedRecv false) rfl rfl
      (fun d hd => ⟨(h.recv_over hd hop).2, rfl⟩) fun d hd => h.ended_over hd
  | sendFailed hop =>
    refine h.of_quiet (callback_quiet hclosedSend false) rfl rfl (fun d hd => ?_) fun d hd => ?_
    · rw [(finishSend_ops _ _).1] at hd
      exact ⟨hd, rfl⟩
    · rw [(finishSend_ops _ _).1]
      exact h.ended d hd

/-- A stream was sent whole just when none of it is being sent. -/
theorem Flowing.sent_eq_iff (h : x.Flowing) (b : Bool) :
    x.sent b = x.received b ↔ (x.socket.relay b).sendOp = none := by
  obtain ⟨q, c, hq⟩ := h.queues b
  have hsend := hq.represents.sendOp_isSome
  rw [hq.received, List.self_eq_append_right, ← Option.not_isSome_iff_eq_none, hsend,
    List.length_pos_iff, not_not]

/-- The first end of a stream closes the connection, and no receive is issued on its socket. -/
theorem Flowing.onEndOfStream (h : x.Flowing) :
    (x.onEndOfStream b w).socket.IsClosed ∧
      ((x.onEndOfStream b w).socket.relay b).recvOp = none ∧
      (x.onEndOfStream b w).cut = fun d => (x.socket.relay d).sendOp := by
  have hquiet : (finishRecv b w [] x.socket).Quiet (x.onEndOfStream b w).socket := by
    simp only [RelayRun.onEndOfStream, callback_endOfStream]
    exact TcpProxySocket.closeClient_open (by exact h.opened b) true
  refine ⟨hquiet.isClosed, ?_, if_pos (h.opened b)⟩
  rw [hquiet.recvOp, (finishRecv_ops _ _).1, if_pos rfl]

/-- Every event that meets the conditions keeps the invariant. -/
theorem Draining.step (h : x.Draining) (herr : x.NoSocketError e) (hidle : x.EndsIdle e)
    (hstep : RelayStep x e y) : y.Draining := by
  rcases h with ⟨hflow, hhistory⟩ | hfin
  · cases hstep with
    | received hop hn hfit =>
      simp only [NoSocketError] at herr
      subst herr
      exact .inl ⟨hflow.onReceived hop hn hfit, hhistory⟩
    | @sent b w n _ hop hn hfit =>
      simp only [NoSocketError] at herr
      subst herr
      have hnext := hflow.onSent hop hn hfit
      rw [Bool.not_not] at hnext
      refine .inl ⟨hnext, fun d => ⟨(hhistory d).1, ?_⟩⟩
      simp only [onSent, if_pos (hflow.opened b), Function.update_apply, (hhistory _).2]
    | @endOfStream b w hop =>
      obtain ⟨hclosed, hrecv, hcut⟩ := hflow.onEndOfStream (b := b) (w := w)
      have hnone : (x.socket.relay b).sendOp = none := by
        have hidle : x.inFlight b = none := hidle
        rwa [inFlight, if_pos (hflow.opened b)] at hidle
      refine .inr ⟨hclosed, fun d _ => ?_, fun d hd => ?_⟩
      · rw [hcut]
        show x.forwarded d = x.received d ↔ _
        rw [(hhistory d).2]
        exact hflow.sent_eq_iff d
      · have hdb : d = b := by
          by_contra hne
          simp [RelayRun.onEndOfStream, hne, (hhistory d).1] at hd
        subst hdb
        rw [hcut]
        exact ⟨hrecv, hnone⟩
    | @recvFailed b _ hop | @sendFailed b _ hop =>
      have hopen := hflow.opened b
      rw [show x.socket.socket b = none from herr] at hopen
      cases hopen
  · exact .inr (hfin.step hidle hstep)

/-- A run that meets the conditions is in its open or in its closed part. -/
theorem Draining.of_reachable
    (h : (relaySystem.restrict fun x e => x.NoSocketError e ∧ x.EndsIdle e).Reachable x) :
    x.Draining := by
  refine h.restrict_invariant (fun x hx => .inl ⟨.init hx, fun b => ?_⟩)
    fun _ _ _ hd ⟨herr, hidle⟩ hstep => hd.step herr hidle hstep
  obtain ⟨_, _, rfl⟩ := hx
  exact ⟨rfl, rfl⟩

end RelayRun

/-- In every run without socket errors in which no end of stream is dispatched while a send of its
direction is in flight, nor after one was when the connection was closed, a stream that ended was
sent whole before the socket of the other peer was closed. The condition is exact: an end of stream
dispatched next in such a run finds or leaves the other socket closed, and the stream was forwarded
whole if and only if that step meets the condition. -/
theorem endOfStream_forwards_everything {x : RelayRun}
    (h : (relaySystem.restrict fun x e => x.NoSocketError e ∧ x.EndsIdle e).Reachable x) (b : Bool) :
    (x.ended b → x.socket.socket (!b) = none ∧ x.forwarded b = x.received b) ∧
      ∀ y, RelayStep x (.endOfStream b) y →
        y.ended b ∧ y.socket.socket (!b) = none ∧
          (y.forwarded b = y.received b ↔ x.EndsIdle (.endOfStream b)) := by
  have hended : ∀ {w}, (x.onEndOfStream b w).ended b := Function.update_self ..
  rcases RelayRun.Draining.of_reachable h with ⟨hflow, hhistory⟩ | hfin
  · refine ⟨fun hend => by simp [hhistory] at hend, fun y hstep => ?_⟩
    cases hstep with
    | @endOfStream _ w hop =>
      refine ⟨hended, hflow.onEndOfStream.1.closed _, ?_⟩
      show x.forwarded b = x.received b ↔ x.inFlight b = none
      rw [(hhistory b).2, RelayRun.inFlight, if_pos (hflow.opened b)]
      exact hflow.sent_eq_iff b
  · refine ⟨fun hend => ⟨hfin.isClosed.closed _, ?_⟩, fun y hstep => ?_⟩
    · exact (hfin.settled b (.inr hend)).mpr (hfin.ended b hend).2
    · cases hstep with
      | @endOfStream _ w hop =>
        have hclosed : (RelayRun.finishRecv b w [] x.socket).IsClosed :=
          ⟨hfin.isClosed.status, hfin.isClosed.closed⟩
        refine ⟨hended, (RelayRun.callback_quiet hclosed true).isClosed.closed _, ?_⟩
        show x.forwarded b = x.received b ↔ x.inFlight b = none
        rw [RelayRun.inFlight, if_neg (by simp [hfin.isClosed.closed b])]
        exact hfin.settled b (.inl (by rw [hop]; rfl))

/-- The relay after one byte was received from the local peer. -/
def RelayRun.afterByte : RelayRun :=
  (RelayRun.start 0 1).onReceived true ⟨sendReceiveBufferSize, 0⟩ [7] ⟨true, true⟩

/-- One byte is received from the local peer. -/
theorem RelayStep.afterByte :
    RelayStep (RelayRun.start 0 1) (.received true [7] ⟨true, true⟩) RelayRun.afterByte :=
  .received rfl (by decide) (by decide)

/-- The local peer sent one byte, which was forwarded before its stream ended; then the receive on
the other socket, which was closed, gets the end of that stream too. -/
theorem endOfStream_forwards_everything_one_byte :
    ∃ x, (relaySystem.restrict fun x e => x.NoSocketError e ∧ x.EndsIdle e).Reachable x ∧
      x.received true = [7] ∧ ∀ b, x.ended b ∧ x.socket.socket (!b) = none ∧
        x.forwarded b = x.received b := by
  have hinit : (relaySystem.restrict fun x e => x.NoSocketError e ∧ x.EndsIdle e).Reachable
      (RelayRun.start 0 1) := System.Reachable.init ⟨0, 1, rfl⟩
  have hsend : RelayStep RelayRun.afterByte (.sent false 1 ⟨true, true⟩)
      (RelayRun.afterByte.onSent false ⟨1, 0⟩ 1 ⟨true, true⟩) :=
    .sent rfl (by decide) (by decide)
  have hsent := (hinit.restrict_snoc RelayStep.afterByte ⟨rfl, trivial⟩).restrict_snoc hsend
    ⟨rfl, trivial⟩
  have hend := hsent.restrict_snoc (@RelayStep.endOfStream _ true _ rfl) ⟨trivial, rfl⟩
  have hends := hend.restrict_snoc (@RelayStep.endOfStream _ false _ rfl) ⟨trivial, rfl⟩
  have hboth := fun b => (endOfStream_forwards_everything hends b).1
  exact ⟨_, hends, rfl, Bool.forall_bool.mpr ⟨⟨rfl, hboth false rfl⟩, rfl, hboth true rfl⟩⟩

/-- The local peer sends one byte and ends its stream while the byte is being sent: both sockets are
closed, and no byte was reported sent. -/
theorem endOfStream_loses_byte_in_flight :
    ∃ x, (relaySystem.restrict fun x e => x.NoSocketError e).Reachable x ∧ x.ended true ∧
      x.socket.socket false = none ∧ x.socket.closed = [0, 1] ∧ x.received true = [7] ∧
      x.forwarded true = [] ∧ x.sent true = [] := by
  have hinit : (relaySystem.restrict fun x e => x.NoSocketError e).Reachable
      (RelayRun.start 0 1) := System.Reachable.init ⟨0, 1, rfl⟩
  have hend : RelayStep RelayRun.afterByte (.endOfStream true) _ := .endOfStream rfl
  have hreach := (hinit.restrict_snoc RelayStep.afterByte rfl).restrict_snoc hend trivial
  exact ⟨_, hreach, rfl, rfl, rfl, rfl, rfl, rfl⟩

end CutieProxy
