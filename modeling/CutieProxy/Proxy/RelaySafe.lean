import CutieProxy.Proxy.RelayDrain

/-!
# The relay under failures

`relay_is_bounded_queue` is about runs in which every call is accepted and no call fails. In a run
of any events, a refused call closes the connection in the middle of a handler, and the calls that
are pending then complete later, over windows that the handlers have moved on. `sent_of_received`
says that all the same the bytes sent to a peer are a prefix of the bytes received from the other
one, that a pending call's window lies in its array, and that no receive writes to what is being
sent.

A handler one of whose calls is refused leaves no call that it would not have left (`Relay.Fewer`),
so what the queue of a direction says about the calls in flight stays true (`Backed`).
-/

namespace CutieProxy

open Cyclic Store Transition

/-- `r` has the array of `r'`, and no pending call that `r'` has not. -/
structure Relay.Fewer (r r' : Relay) : Prop where
  buffer : r.buffer = r'.buffer
  recvOp : r.recvOp = r'.recvOp ∨ r.recvOp = none
  sendOp : r.sendOp = r'.sendOp ∨ r.sendOp = none

/-! ## No handler writes to an array -/

namespace TcpProxySocket

variable {s t u : TcpProxySocket} {b d : Bool} {n : Nat} {f : Relay → Relay} {ok : Accepts}

theorem buffer_modifyRelay (hf : ∀ r, (f r).buffer = r.buffer) :
    ((s.modifyRelay b f).relay d).buffer = (s.relay d).buffer := by
  rcases eq_or_ne d b with rfl | hd
  · rw [modifyRelay_relay_self, hf]
  · simp [modifyRelay, hd]

theorem buffer_closeSocket : ((s.closeSocket b).relay d).buffer = (s.relay d).buffer := by
  rw [(closeSocket_spec s b).2.2.2]

theorem buffer_closeClient (isReceive : Bool) :
    ((s.closeClient isReceive b).relay d).buffer = (s.relay d).buffer := by
  unfold closeClient
  generalize ht : (if (s.socket b).isSome = true then
      { s.closeSocket b with connectionStatus := .clientCompleted }
    else s) = t
  have hclose : (t.relay d).buffer = (s.relay d).buffer := by
    subst ht
    split
    · exact buffer_closeSocket
    · rfl
  dsimp only
  rw [buffer_closeSocket]
  split
  · rw [buffer_modifyRelay (f := (·.setRecvLen 0)) fun _ => rfl, hclose]
  · rw [buffer_modifyRelay (f := (·.setSendLen 0)) fun _ => rfl, hclose]

theorem buffer_wsaRecv (accepted : Bool) :
    ((s.wsaRecv accepted b).relay d).buffer = (s.relay d).buffer := by
  unfold wsaRecv
  split
  · exact buffer_modifyRelay fun _ => rfl
  · exact buffer_closeClient true

theorem buffer_wsaSend (accepted : Bool) :
    ((s.wsaSend accepted b).relay d).buffer = (s.relay d).buffer := by
  unfold wsaSend
  split
  · exact buffer_modifyRelay fun _ => rfl
  · exact buffer_closeClient false

theorem buffer_shiftReceive (size n : Nat) (r : Relay) :
    (r.shiftReceive size n).buffer = r.buffer := by
  unfold Relay.shiftReceive
  dsimp only
  split
  · split <;> rfl
  · rfl

theorem buffer_processReceiveBufferComplete :
    ((s.processReceiveBufferComplete ok n b).relay d).buffer = (s.relay d).buffer := by
  unfold processReceiveBufferComplete
  split
  · exact buffer_modifyRelay fun _ => rfl
  · generalize ht : (if (s.relay b).sendBuf.len = 0 then
        (s.modifyRelay b fun r => { r with sendBuf := ⟨n, r.recvBuf.buf⟩ }).wsaSend ok.send (!b)
      else s) = t
    have hsend : (t.relay d).buffer = (s.relay d).buffer := by
      subst ht
      split
      · rw [buffer_wsaSend]
        exact buffer_modifyRelay fun _ => rfl
      · rfl
    have hshift : ((t.modifyRelay b (·.shiftReceive sendReceiveBufferSize n)).relay d).buffer =
        (s.relay d).buffer := by
      rw [buffer_modifyRelay (buffer_shiftReceive _ _), hsend]
    dsimp only
    split
    · exact hshift
    · rw [buffer_wsaRecv, hshift]
  · rfl
  · rfl

theorem buffer_processSendBufferComplete :
    ((s.processSendBufferComplete ok n b).relay d).buffer = (s.relay d).buffer := by
  unfold processSendBufferComplete
  dsimp only
  generalize ht : (if s.connectionStatus ≠ .clientCompleted ∧ (s.relay (!b)).recvBuf.len = 0 then
      if ((s.modifyRelay (!b) fun r => { r with recvBuf := ⟨n, r.sendBuf.buf⟩ }).relay
        (!b)).recvBuf.len = 0 then
        s.modifyRelay (!b) fun r => { r with recvBuf := ⟨n, r.sendBuf.buf⟩ }
      else (s.modifyRelay (!b) fun r => { r with recvBuf := ⟨n, r.sendBuf.buf⟩ }).wsaRecv
        ok.recv (!b)
    else s) = t
  have hresumed : (t.relay d).buffer = (s.relay d).buffer := by
    subst ht
    split
    · split
      · exact buffer_modifyRelay fun _ => rfl
      · rw [buffer_wsaRecv]
        exact buffer_modifyRelay fun _ => rfl
    · rfl
  have hshift : ((t.modifyRelay (!b) (·.shiftSend sendReceiveBufferSize n)).relay d).buffer =
      (s.relay d).buffer := by
    rw [← hresumed]
    exact buffer_modifyRelay fun _ => rfl
  generalize t.modifyRelay (!b) (·.shiftSend sendReceiveBufferSize n) = u at hshift ⊢
  have hnext : ((u.modifyRelay (!b) (·.nextSend sendReceiveBufferSize)).relay d).buffer =
      (s.relay d).buffer := by
    rw [← hshift]
    exact buffer_modifyRelay fun _ => rfl
  split
  · rw [buffer_modifyRelay (f := (·.setSendLen 0)) fun _ => rfl]
    split
    · rw [buffer_closeClient, hshift]
    · exact hshift
  · split
    · exact hnext
    · rw [buffer_wsaSend, hnext]

/-! ## A handler one of whose calls is refused -/

/-- The receive a handler issues when its window is not empty is pending, or closes the
connection. -/
theorem rearmRecv_cases (hopen : (s.socket b).isSome) (accepted : Bool) :
    (if (s.relay b).recvBuf.len = 0 then s else s.wsaRecv accepted b) =
        s.modifyRelay b Relay.rearmRecv ∨
      Quiet s (if (s.relay b).recvBuf.len = 0 then s else s.wsaRecv accepted b) := by
  rw [← rearmRecv_accepted hopen]
  split
  · exact .inl rfl
  · cases accepted with
    | true => exact .inl rfl
    | false => exact .inr (closeClient_open hopen true)

/-- The send a handler issues when its window is not empty is pending, or closes the connection. -/
theorem rearmSend_cases (hopen : (s.socket (!b)).isSome) (accepted : Bool) :
    (if (s.relay b).sendBuf.len = 0 then s else s.wsaSend accepted (!b)) =
        s.modifyRelay b Relay.rearmSend ∨
      Quiet s (if (s.relay b).sendBuf.len = 0 then s else s.wsaSend accepted (!b)) := by
  rw [← rearmSend_accepted hopen]
  split
  · exact .inl rfl
  · cases accepted with
    | true => exact .inl rfl
    | false => exact .inr (closeClient_open hopen false)

/-- The send a receive completion starts when none is in progress is pending, or closes the
connection. -/
theorem forward_cases (hopen : (s.socket (!b)).isSome) (accepted : Bool) :
    (if (s.relay b).sendBuf.len = 0 then
        (s.modifyRelay b fun r => { r with sendBuf := ⟨n, r.recvBuf.buf⟩ }).wsaSend accepted (!b)
      else s) = s.modifyRelay b (·.forward n) ∨
      (s.relay b).sendBuf.len = 0 ∧
        Quiet s (if (s.relay b).sendBuf.len = 0 then
          (s.modifyRelay b fun r => { r with sendBuf := ⟨n, r.recvBuf.buf⟩ }).wsaSend accepted (!b)
        else s) := by
  rw [← forward_accepted hopen]
  split
  · next hz =>
    cases accepted with
    | true => exact .inl rfl
    | false =>
      refine .inr ⟨hz, ?_⟩
      have hquiet := closeClient_open (s := s.modifyRelay b fun r =>
        { r with sendBuf := ⟨n, r.recvBuf.buf⟩ }) (b := !b) hopen false
      refine ⟨hquiet.isClosed, fun d => ?_, fun d => ?_⟩
      · exact (hquiet.recvOp d).trans (by
          rcases eq_or_ne d b with rfl | hd <;> simp [modifyRelay, *])
      · exact (hquiet.sendOp d).trans (by
          rcases eq_or_ne d b with rfl | hd <;> simp [modifyRelay, *])
  · exact .inl rfl

/-- `t` is closed and has no pending call that `u` has not. -/
structure Subdued (u t : TcpProxySocket) : Prop where
  isClosed : t.IsClosed
  fewer : ∀ d, (t.relay d).Fewer (u.relay d)

/-- A closed socket has fewer calls than one that issued more of them in one direction. -/
theorem Quiet.subdued (h : Quiet s t) (hbuffer : ∀ d, (t.relay d).buffer = (u.relay d).buffer)
    (hother : s.relay (!b) = u.relay (!b))
    (hrecv : (s.relay b).recvOp = (u.relay b).recvOp ∨ (s.relay b).recvOp = none)
    (hsend : (s.relay b).sendOp = (u.relay b).sendOp ∨ (s.relay b).sendOp = none) :
    Subdued u t := by
  refine ⟨h.isClosed, fun d => ?_⟩
  rcases eq_or_ne d b with rfl | hd
  · exact ⟨hbuffer d, by rwa [h.recvOp], by rwa [h.sendOp]⟩
  · obtain rfl := Bool.eq_not_of_ne hd
    exact ⟨hbuffer _, .inl (by rw [h.recvOp, hother]), .inl (by rw [h.sendOp, hother])⟩

/-- Moving the receive window issues no call. -/
theorem shiftReceive_ops (size n : Nat) (r : Relay) :
    (r.shiftReceive size n).recvOp = r.recvOp ∧ (r.shiftReceive size n).sendOp = r.sendOp := by
  unfold Relay.shiftReceive
  dsimp only
  split
  · split <;> exact ⟨rfl, rfl⟩
  · exact ⟨rfl, rfl⟩

theorem rearmRecv_sendOp (r : Relay) : r.rearmRecv.sendOp = r.sendOp := by
  unfold Relay.rearmRecv
  split <;> rfl

theorem forward_recvOp (n : Nat) (r : Relay) : (r.forward n).recvOp = r.recvOp := by
  unfold Relay.forward
  split <;> rfl

/-- A receive completion one of whose calls is refused closes the connection and leaves fewer
calls. -/
theorem processReceiveBufferComplete_cases (hstatus : s.connectionStatus = .clientEstablished)
    (hopen : ∀ b, (s.socket b).isSome) (hrecv : (s.relay b).recvOp = none)
    (hsend : (s.relay b).sendBuf.len = 0 → (s.relay b).sendOp = none) :
    s.processReceiveBufferComplete ok n b =
        s.modifyRelay b (·.receiveComplete sendReceiveBufferSize n) ∨
      Subdued (s.modifyRelay b (·.receiveComplete sendReceiveBufferSize n))
        (s.processReceiveBufferComplete ok n b) := by
  have hbuffer : ∀ d, ((s.processReceiveBufferComplete ok n b).relay d).buffer =
      ((s.modifyRelay b (·.receiveComplete sendReceiveBufferSize n)).relay d).buffer := fun d => by
    rw [← processReceiveBufferComplete_established hstatus hopen,
      buffer_processReceiveBufferComplete, buffer_processReceiveBufferComplete]
  generalize ht : s.processReceiveBufferComplete ok n b = t at hbuffer ⊢
  unfold processReceiveBufferComplete at ht
  simp only [hstatus] at ht
  subst ht
  rcases forward_cases (n := n) (hopen (!b)) ok.send with heq | ⟨hz, hq⟩
  · rw [heq, modifyRelay_modifyRelay] at hbuffer ⊢
    rcases rearmRecv_cases (s := s.modifyRelay b fun r =>
      (r.forward n).shiftReceive sendReceiveBufferSize n) (hopen b) ok.recv with heq' | hq
    · rw [heq', modifyRelay_modifyRelay]
      exact .inl rfl
    · refine .inr (hq.subdued (b := b) hbuffer ?_ (.inr ?_) (.inl ?_))
      · rw [modifyRelay_relay_not, modifyRelay_relay_not]
      · rw [modifyRelay_relay_self, (shiftReceive_ops _ _ _).1, forward_recvOp, hrecv]
      · rw [modifyRelay_relay_self, modifyRelay_relay_self, Relay.receiveComplete, rearmRecv_sendOp]
  · -- the connection was closed before the receive window moved
    generalize (if (s.relay b).sendBuf.len = 0 then
        (s.modifyRelay b fun r => { r with sendBuf := ⟨n, r.recvBuf.buf⟩ }).wsaSend ok.send (!b)
      else s) = v at hq hbuffer ⊢
    have hshift := hq.trans (hq.isClosed.modifyRelay (b := b)
      (f := (·.shiftReceive sendReceiveBufferSize n)) (shiftReceive_ops _ _ _).1
      (shiftReceive_ops _ _ _).2)
    have hlast : Quiet s (if ((v.modifyRelay b (·.shiftReceive sendReceiveBufferSize n)).relay
        b).recvBuf.len = 0 then v.modifyRelay b (·.shiftReceive sendReceiveBufferSize n)
        else (v.modifyRelay b (·.shiftReceive sendReceiveBufferSize n)).wsaRecv ok.recv b) := by
      split
      · exact hshift
      · exact hshift.trans (hshift.isClosed.wsaRecv _)
    exact .inr (hlast.subdued hbuffer modifyRelay_relay_not.symm (.inr hrecv) (.inr (hsend hz)))

/-- The receive a send completion resumes when the array was full is pending, or closes the
connection. -/
theorem resume_cases (hopen : (s.socket b).isSome) (accepted : Bool) :
    (if (s.relay b).recvBuf.len = 0 then
        let s := s.modifyRelay b fun r => { r with recvBuf := ⟨n, r.sendBuf.buf⟩ }
        if (s.relay b).recvBuf.len = 0 then s else s.wsaRecv accepted b
      else s) = s.modifyRelay b (·.resume n) ∨
      (s.relay b).recvBuf.len = 0 ∧
        Quiet s (if (s.relay b).recvBuf.len = 0 then
          let s := s.modifyRelay b fun r => { r with recvBuf := ⟨n, r.sendBuf.buf⟩ }
          if (s.relay b).recvBuf.len = 0 then s else s.wsaRecv accepted b
        else s) := by
  split
  · next hz =>
    dsimp only
    rcases rearmRecv_cases (s := s.modifyRelay b fun r => { r with recvBuf := ⟨n, r.sendBuf.buf⟩ })
      (b := b) hopen accepted with heq | hq
    · rw [heq, modifyRelay_modifyRelay]
      exact .inl (modifyRelay_congr (by simp only [Relay.resume, if_pos hz]))
    · refine .inr ⟨hz, hq.isClosed, fun d => ?_, fun d => ?_⟩
      · exact (hq.recvOp d).trans (by rcases eq_or_ne d b with rfl | hd <;> simp [modifyRelay, *])
      · exact (hq.sendOp d).trans (by rcases eq_or_ne d b with rfl | hd <;> simp [modifyRelay, *])
  · next hz => exact .inl (modifyRelay_eq_self (by simp only [Relay.resume, if_neg hz])).symm

theorem rearmSend_recvOp (r : Relay) : r.rearmSend.recvOp = r.recvOp := by
  unfold Relay.rearmSend
  split <;> rfl

theorem resume_sendOp (n : Nat) (r : Relay) : (r.resume n).sendOp = r.sendOp := by
  unfold Relay.resume
  split
  · exact rearmRecv_sendOp _
  · rfl

/-- A send completion one of whose calls is refused closes the connection and leaves fewer calls. -/
theorem processSendBufferComplete_cases (hstatus : s.connectionStatus = .clientEstablished)
    (hopen : ∀ b, (s.socket b).isSome) (hsend : (s.relay b).sendOp = none)
    (hrecv : (s.relay b).recvBuf.len = 0 → (s.relay b).recvOp = none) :
    s.processSendBufferComplete ok n (!b) =
        s.modifyRelay b (·.sendComplete sendReceiveBufferSize n) ∨
      Subdued (s.modifyRelay b (·.sendComplete sendReceiveBufferSize n))
        (s.processSendBufferComplete ok n (!b)) := by
  have hne : s.connectionStatus ≠ .clientCompleted := by simp [hstatus]
  have hbuffer : ∀ d, ((s.processSendBufferComplete ok n (!b)).relay d).buffer =
      ((s.modifyRelay b (·.sendComplete sendReceiveBufferSize n)).relay d).buffer := fun d => by
    rw [← processSendBufferComplete_established hstatus hopen,
      buffer_processSendBufferComplete, buffer_processSendBufferComplete]
  generalize ht : s.processSendBufferComplete ok n (!b) = t at hbuffer ⊢
  unfold processSendBufferComplete at ht
  simp only [Bool.not_not, hne, ne_eq, not_false_eq_true, true_and] at ht
  subst ht
  rcases resume_cases (n := n) (hopen b) ok.recv with heq | ⟨hz, hq⟩
  · dsimp only at heq
    rw [heq] at hbuffer ⊢
    simp only [modifyRelay_connectionStatus, hne, if_false, modifyRelay_modifyRelay,
      modifyRelay_relay_self] at hbuffer ⊢
    revert hbuffer
    split
    · next hmeet =>
      exact fun _ => .inl (modifyRelay_congr (by simp only [Relay.sendComplete, if_pos hmeet]))
    · next hmeet =>
      intro hbuffer
      have hcomplete : ∀ r, r = s.relay b → r.sendComplete sendReceiveBufferSize n =
          (((r.resume n).shiftSend sendReceiveBufferSize n).nextSend
            sendReceiveBufferSize).rearmSend := by
        rintro r rfl
        simp only [Relay.sendComplete, if_neg hmeet]
      rcases rearmSend_cases (s := s.modifyRelay b fun r => ((r.resume n).shiftSend
        sendReceiveBufferSize n).nextSend sendReceiveBufferSize) (b := b) (hopen (!b)) ok.send with
        heq' | hq
      · rw [modifyRelay_modifyRelay, modifyRelay_relay_self] at heq'
        exact .inl (heq'.trans (modifyRelay_congr (hcomplete _ rfl).symm))
      · rw [modifyRelay_relay_self] at hq
        refine .inr (hq.subdued (b := b) hbuffer ?_ (.inl ?_) (.inr ?_))
        · rw [modifyRelay_relay_not, modifyRelay_relay_not]
        · rw [modifyRelay_relay_self, modifyRelay_relay_self, hcomplete _ rfl, rearmSend_recvOp]
        · rw [modifyRelay_relay_self]
          exact (resume_sendOp n (s.relay b)).trans hsend
  · -- the connection was closed before the send window moved
    generalize (if (s.relay b).recvBuf.len = 0 then
        let s := s.modifyRelay b fun r => { r with recvBuf := ⟨n, r.sendBuf.buf⟩ }
        if (s.relay b).recvBuf.len = 0 then s else s.wsaRecv ok.recv b
      else s) = v at hq hbuffer ⊢
    have hlast : Quiet v (v.processSendBufferComplete ok n (!b)) :=
      hq.isClosed.processSendBufferComplete
    unfold processSendBufferComplete at hlast
    simp only [Bool.not_not, hq.isClosed.status, ne_eq, not_true_eq_false, false_and, if_false,
      modifyRelay_connectionStatus, if_true] at hlast hbuffer ⊢
    exact .inr ((hq.trans hlast).subdued hbuffer modifyRelay_relay_not.symm (.inr (hrecv hz))
      (.inr hsend))

end TcpProxySocket

/-! ## The calls in flight -/

namespace Relay

variable {q data : List UInt8} {c : List Nat} {r r' : Relay} {w v : WsaBuf} {n : Nat}

/-- The calls pending in a direction whose received bytes `q` were not sent yet: either window lies
in the array, the window of the send holds the front of `q`, and the receive writes to no cell of
it. -/
structure Backed (q : List UInt8) (r : Relay) : Prop where
  recvEnd : ∀ w, r.recvOp = some w → w.buf + w.len ≤ sendReceiveBufferSize
  sendEnd : ∀ v, r.sendOp = some v → v.buf + v.len ≤ sendReceiveBufferSize
  queued : ∀ v, r.sendOp = some v → v.len ≤ q.length
  bytes : ∀ v, r.sendOp = some v → (List.range' v.buf v.len).map r.buffer = q.take v.len
  apart : ∀ w v, r.recvOp = some w → r.sendOp = some v →
    v.buf + v.len ≤ w.buf ∨ w.buf + w.len ≤ v.buf

/-- The calls of a queue. -/
theorem Represents.backed (h : Represents sendReceiveBufferSize q c r) : Backed q r := by
  refine ⟨fun w hw => ?_, fun v hv => ?_, fun v hv => ?_, fun v hv => ?_, fun w v hw hv => ?_⟩
  · obtain ⟨rfl, -⟩ := h.recvOp_some hw
    exact h.windows.recvEnd
  · obtain ⟨rfl, -⟩ := h.sendOp_some hv
    exact h.windows.sendEnd
  · obtain ⟨rfl, -⟩ := h.sendOp_some hv
    exact h.windows.sendQueued
  · obtain ⟨rfl, -⟩ := h.sendOp_some hv
    exact h.sent le_rfl
  · obtain ⟨rfl, hw⟩ := h.recvOp_some hw
    obtain ⟨rfl, hv⟩ := h.sendOp_some hv
    have hqueued := h.windows.sendQueued
    have hend := h.windows.sendEnd
    have hslot := fun i => slot_cases sendReceiveBufferSize r.sendBuf.buf i
    -- a cell of the send window is one of a queued byte
    have hcell : ∀ i < r.sendBuf.len, r.sendBuf.buf + i < r.recvBuf.buf ∨
        r.recvBuf.buf + r.recvBuf.len ≤ r.sendBuf.buf + i := fun i hi => by
      refine h.disjoint ?_
      rw [h.cells]
      refine mem_positions.2 ⟨i, by omega, ?_⟩
      have := hslot i
      omega
    have hfirst := hcell 0 (by omega)
    have hmeet := hcell (r.recvBuf.buf - r.sendBuf.buf)
    omega

/-- A receive while nothing is sent. -/
theorem Backed.of_receive (hsend : r.sendOp = none)
    (hrecv : ∀ w, r.recvOp = some w → w.buf + w.len ≤ sendReceiveBufferSize) : Backed q r := by
  have hnone : ∀ {v}, ¬ r.sendOp = some v := fun hv => by
    rw [hsend] at hv
    cases hv
  exact ⟨hrecv, fun _ hv => absurd hv hnone, fun _ hv => absurd hv hnone,
    fun _ hv => absurd hv hnone, fun _ _ _ hv => absurd hv hnone⟩

/-- Fewer calls are backed by the same bytes. -/
theorem Backed.fewer (h : Backed q r') (hf : r.Fewer r') : Backed q r := by
  have hrecv : ∀ {w}, r.recvOp = some w → r'.recvOp = some w := fun hw => by
    rcases hf.recvOp with heq | hnone
    · rwa [← heq]
    · rw [hnone] at hw
      cases hw
  have hsend : ∀ {v}, r.sendOp = some v → r'.sendOp = some v := fun hv => by
    rcases hf.sendOp with heq | hnone
    · rwa [← heq]
    · rw [hnone] at hv
      cases hv
  refine ⟨fun w hw => h.recvEnd w (hrecv hw), fun v hv => h.sendEnd v (hsend hv),
    fun v hv => h.queued v (hsend hv), fun v hv => ?_,
    fun w v hw hv => h.apart w v (hrecv hw) (hsend hv)⟩
  rw [hf.buffer]
  exact h.bytes v (hsend hv)

/-- A completed receive adds its bytes behind those being sent. -/
theorem Backed.receive (h : Backed q r) (hop : r.recvOp = some w) (hfit : data.length ≤ w.len) :
    Backed (q ++ data) { r with buffer := write r.buffer w.buf data, recvOp := none } := by
  refine ⟨fun _ hw => (by cases hw), h.sendEnd, fun v hv => ?_, fun v hv => ?_,
    fun _ _ hw => (by cases hw)⟩
  · rw [List.length_append]
    exact Nat.le_add_right_of_le (h.queued v hv)
  · have hapart := h.apart w v hop hv
    rw [map_write_of_disjoint, h.bytes v hv, List.take_append_of_le_length (h.queued v hv)]
    intro p hp
    rw [List.mem_range'_1] at hp
    omega

/-- A completed send takes its bytes from the front of those received. -/
theorem Backed.send (h : Backed q r) (hop : r.sendOp = some v) (hfit : n ≤ v.len) :
    (List.range' v.buf n).map r.buffer = q.take n ∧
      Backed (q.drop n) { r with sendOp := none } := by
  refine ⟨?_, .of_receive rfl h.recvEnd⟩
  have hbytes := congrArg (List.take n) (h.bytes v hop)
  rwa [← List.map_take, List.take_range'_of_length_ge hfit, List.take_take,
    Nat.min_eq_left hfit] at hbytes

end Relay

/-! ## Along a run -/

namespace RelayRun

variable {x y : RelayRun} {s t : TcpProxySocket} {b : Bool} {w : WsaBuf} {n : Nat}
  {data : List UInt8} {ok : Accepts} {e : RelayEvent}

/-- In either direction the bytes sent are the first ones received, and the calls in flight are
backed by the others. -/
def Held (received sent : Bool → List UInt8) (s : TcpProxySocket) : Prop :=
  ∀ b, ∃ q, received b = sent b ++ q ∧ (s.relay b).Backed q

/-- What every run keeps: the calls in flight are backed, and the two directions are queues until
both sockets are closed. -/
structure Safe (x : RelayRun) : Prop where
  held : Held x.received x.sent x.socket
  phase : x.Flowing ∨ x.socket.IsClosed

theorem Flowing.safe (h : x.Flowing) : x.Safe := by
  refine ⟨fun b => ?_, .inl h⟩
  obtain ⟨q, c, hq⟩ := h.queues b
  exact ⟨q, hq.received, hq.represents.backed⟩

/-- A closed socket that leaves fewer calls. -/
theorem Held.safe {u : TcpProxySocket} (h : Held y.received y.sent u) (hy : u.Subdued y.socket) :
    y.Safe := by
  refine ⟨fun b => ?_, .inr hy.isClosed⟩
  obtain ⟨q, hreceived, hbacked⟩ := h b
  exact ⟨q, hreceived, hbacked.fewer (hy.fewer b)⟩

/-- The end of a receive moves its bytes behind those being sent. -/
theorem Held.finishRecv (h : Held x.received x.sent x.socket)
    (hop : (x.socket.relay b).recvOp = some w) (hfit : data.length ≤ w.len) :
    Held (Function.update x.received b (x.received b ++ data)) x.sent
      (finishRecv b w data x.socket) := by
  intro d
  obtain ⟨q, hreceived, hbacked⟩ := h d
  rcases eq_or_ne d b with rfl | hd
  · refine ⟨q ++ data, by simp [hreceived], ?_⟩
    rw [RelayRun.finishRecv, TcpProxySocket.modifyRelay_relay_self]
    exact hbacked.receive hop hfit
  · refine ⟨q, by simp [hreceived, hd], ?_⟩
    simpa [RelayRun.finishRecv, TcpProxySocket.modifyRelay, hd] using hbacked

/-- The end of a send takes its bytes from the front of those received. -/
theorem Held.finishSend (h : Held x.received x.sent x.socket)
    (hop : (x.socket.relay (!b)).sendOp = some w) (hfit : n ≤ w.len) :
    Held x.received (x.onSent b w n ok).sent (finishSend b x.socket) := by
  intro d
  obtain ⟨q, hreceived, hbacked⟩ := h d
  rcases eq_or_ne d (!b) with rfl | hd
  · obtain ⟨hbytes, hrest⟩ := hbacked.send hop hfit
    refine ⟨q.drop n, ?_, ?_⟩
    · simp [onSent, hbytes, hreceived]
    · rw [RelayRun.finishSend, TcpProxySocket.modifyRelay_relay_self]
      exact hrest
  · refine ⟨q, by simp [onSent, hreceived, hd], ?_⟩
    simpa [RelayRun.finishSend, TcpProxySocket.modifyRelay, hd] using hbacked

/-- Either phase lets a handler close the connection. -/
theorem Safe.closeClient (h : x.Safe) (hs : s.connectionStatus = x.socket.connectionStatus)
    (hsocket : s.socket = x.socket.socket) (isReceive : Bool) :
    s.Quiet (s.closeClient isReceive b) := by
  rcases h.phase with hflow | hclosed
  · exact TcpProxySocket.closeClient_open (by rw [hsocket]; exact hflow.opened b) isReceive
  · exact TcpProxySocket.IsClosed.closeClient
      ⟨hs.trans hclosed.status, by rw [hsocket]; exact hclosed.closed⟩ isReceive

/-- A connection that is closed by other calls than those of the relay. -/
theorem Safe.afterClose (h : x.Safe) (isReceive : Bool) :
    Safe { x with socket := x.socket.closeClient isReceive b } := by
  refine Held.safe (u := x.socket) h.held ?_
  exact (h.closeClient (b := b) rfl rfl isReceive).subdued (b := b)
    (fun _ => TcpProxySocket.buffer_closeClient isReceive) rfl (.inl rfl) (.inl rfl)

/-- A receive that got nothing closes the connection. -/
theorem Safe.closeRecv (h : x.Safe) :
    x.socket.Subdued ((RelayRun.finishRecv b w [] x.socket).closeClient true b) := by
  have hquiet := h.closeClient (s := RelayRun.finishRecv b w [] x.socket) (b := b) rfl rfl true
  refine hquiet.subdued (b := b) (fun d => ?_) TcpProxySocket.modifyRelay_relay_not (.inr ?_)
    (.inl ?_)
  · rw [TcpProxySocket.buffer_closeClient]
    refine TcpProxySocket.buffer_modifyRelay fun r => ?_
    funext i
    exact write_of_notMem _ (by simp only [List.length_nil]; omega)
  · rw [(finishRecv_ops _ _).1, if_pos rfl]
  · rw [(finishRecv_ops _ _).2]

/-- A send that failed closes the connection. -/
theorem Safe.closeSend (h : x.Safe) :
    x.socket.Subdued ((RelayRun.finishSend b x.socket).closeClient false b) := by
  have hquiet := h.closeClient (s := RelayRun.finishSend b x.socket) (b := b) rfl rfl false
  refine hquiet.subdued (b := !b) (fun d => ?_) TcpProxySocket.modifyRelay_relay_not (.inl ?_)
    (.inr ?_)
  · rw [TcpProxySocket.buffer_closeClient]
    exact TcpProxySocket.buffer_modifyRelay fun _ => rfl
  · rw [(finishSend_ops _ _).1]
  · rw [(finishSend_ops _ _).2, if_pos rfl]

/-- A receive completion, whichever calls are refused. -/
theorem Safe.onReceived (h : x.Safe) (hop : (x.socket.relay b).recvOp = some w)
    (hn : 1 ≤ data.length) (hfit : data.length ≤ w.len) : (x.onReceived b w data ok).Safe := by
  have hcallback : ∀ ok, (x.onReceived b w data ok).socket =
      (RelayRun.finishRecv b w data x.socket).processReceiveBufferComplete ok data.length b :=
    fun _ => callback_received _ hn
  rcases h.phase with hflow | hclosed
  · have hy := hflow.onReceived hop hn hfit
    obtain ⟨q, c, hq⟩ := hflow.queues b
    have hcases := @TcpProxySocket.processReceiveBufferComplete_cases
      (RelayRun.finishRecv b w data x.socket) b data.length ok hflow.status hflow.opened
      (by rw [(finishRecv_ops _ _).1, if_pos rfl]) (fun hz => by
        rw [(finishRecv_ops _ _).2, hq.represents.sendOp_eq]
        refine WsaBuf.armed_of_eq ?_
        rwa [RelayRun.finishRecv, TcpProxySocket.modifyRelay_relay_self] at hz)
    rw [← TcpProxySocket.processReceiveBufferComplete_established (s := RelayRun.finishRecv b w data
      x.socket) hflow.status hflow.opened, ← hcallback, ← hcallback] at hcases
    rcases hcases with heq | hsub
    · have hsame : x.onReceived b w data ok = x.onReceived b w data ⟨true, true⟩ :=
        congrArg (fun s => { x.onReceived b w data ok with socket := s }) heq
      rw [hsame]
      exact hy.safe
    · exact Held.safe hy.safe.held hsub
  · have hquiet : (RelayRun.finishRecv b w data x.socket).Quiet (x.onReceived b w data ok).socket :=
      callback_quiet (s := RelayRun.finishRecv b w data x.socket)
        ⟨hclosed.status, hclosed.closed⟩ true
    refine (h.held.finishRecv hop hfit).safe (hquiet.subdued (b := b) (fun d => ?_) rfl (.inl rfl)
      (.inl rfl))
    rw [hcallback, TcpProxySocket.buffer_processReceiveBufferComplete]

/-- A send completion, whichever calls are refused. -/
theorem Safe.onSent (h : x.Safe) (hop : (x.socket.relay (!b)).sendOp = some w)
    (hn : 1 ≤ n) (hfit : n ≤ w.len) : (x.onSent b w n ok).Safe := by
  have hcallback : ∀ ok, (x.onSent b w n ok).socket =
      (RelayRun.finishSend b x.socket).processSendBufferComplete ok n b :=
    fun _ => callback_sent _
  rcases h.phase with hflow | hclosed
  · have hy := hflow.onSent hop hn hfit
    rw [Bool.not_not] at hy
    obtain ⟨q, c, hq⟩ := hflow.queues (!b)
    have hcases := @TcpProxySocket.processSendBufferComplete_cases (RelayRun.finishSend b x.socket)
      (!b) n ok hflow.status hflow.opened
      (by rw [(finishSend_ops _ _).2, if_pos rfl]) (fun hz => by
        rw [(finishSend_ops _ _).1, hq.represents.recvOp_eq]
        refine WsaBuf.armed_of_eq ?_
        rwa [RelayRun.finishSend, TcpProxySocket.modifyRelay_relay_self] at hz)
    rw [← TcpProxySocket.processSendBufferComplete_established (s := RelayRun.finishSend b x.socket)
      hflow.status hflow.opened, Bool.not_not, ← hcallback, ← hcallback] at hcases
    rcases hcases with heq | hsub
    · have hsame : x.onSent b w n ok = x.onSent b w n ⟨true, true⟩ :=
        congrArg (fun s => { x.onSent b w n ok with socket := s }) heq
      rw [hsame]
      exact hy.safe
    · exact Held.safe hy.safe.held hsub
  · have hquiet : (RelayRun.finishSend b x.socket).Quiet (x.onSent b w n ok).socket :=
      callback_quiet (s := RelayRun.finishSend b x.socket) ⟨hclosed.status, hclosed.closed⟩ true
    refine Held.safe (h.held.finishSend hop hfit) (hquiet.subdued (b := b) (fun d => ?_) rfl
      (.inl rfl) (.inl rfl))
    rw [hcallback, TcpProxySocket.buffer_processSendBufferComplete]

/-- Every event keeps the invariant. -/
theorem Safe.step (h : x.Safe) (hstep : RelayStep x e y) : y.Safe := by
  cases hstep with
  | received hop hn hfit => exact h.onReceived hop hn hfit
  | sent hop hn hfit => exact h.onSent hop hn hfit
  | @endOfStream b w => exact Held.safe (y := x.onEndOfStream b w) h.held h.closeRecv
  | @recvFailed b w => exact Held.safe (y := x.onRecvFailed b w) h.held h.closeRecv
  | @sendFailed b => exact Held.safe (y := x.onSendFailed b) h.held h.closeSend

/-- Every run keeps the invariant. -/
theorem Safe.of_reachable (h : relaySystem.Reachable x) : x.Safe :=
  h.invariant (fun _ hx => (Flowing.init hx).safe) fun _ _ _ hs hstep => hs.step hstep

end RelayRun

/-- In every run of the relay, whichever of its calls are refused or fail and in whatever order they
complete: the bytes sent to a peer are the first bytes received from the other one, and so are they
with the bytes of the send in flight added; the windows of the calls in flight lie in the array, and
no receive writes to the bytes being sent. -/
theorem relay_sends_received {x : RelayRun} (h : relaySystem.Reachable x) (b : Bool) :
    x.sent b <+: x.received b ∧
      (∀ w, (x.socket.relay b).recvOp = some w → w.buf + w.len ≤ sendReceiveBufferSize) ∧
      ∀ v, (x.socket.relay b).sendOp = some v → v.buf + v.len ≤ sendReceiveBufferSize ∧
        x.sent b ++ (List.range' v.buf v.len).map (x.socket.relay b).buffer <+: x.received b ∧
        ∀ w, (x.socket.relay b).recvOp = some w →
          v.buf + v.len ≤ w.buf ∨ w.buf + w.len ≤ v.buf := by
  obtain ⟨q, hreceived, hbacked⟩ := (RelayRun.Safe.of_reachable h).held b
  refine ⟨⟨q, hreceived.symm⟩, hbacked.recvEnd, fun v hv => ⟨hbacked.sendEnd v hv, ?_,
    fun w hw => hbacked.apart w v hw hv⟩⟩
  refine ⟨q.drop v.len, ?_⟩
  rw [hbacked.bytes v hv, List.append_assoc, List.take_append_drop, hreceived]

/-- Two bytes arrive from the local peer, the system refuses the receive that the handler issues
next, and the send that was issued before it completes on the closed connection. -/
theorem relay_sends_received_refused :
    ∃ x, relaySystem.Reachable x ∧ x.socket.socket true = none ∧ x.socket.socket false = none ∧
      x.received true = [7, 8] ∧ x.sent true = [7] ∧ x.sent true <+: x.received true := by
  have hinit : relaySystem.Reachable (RelayRun.start 0 1) := System.Reachable.init ⟨0, 1, rfl⟩
  have hreceived : RelayStep (RelayRun.start 0 1) (.received true [7, 8] ⟨true, false⟩)
      ((RelayRun.start 0 1).onReceived true ⟨sendReceiveBufferSize, 0⟩ [7, 8] ⟨true, false⟩) :=
    .received rfl (by decide) (by decide)
  have hsent : RelayStep ((RelayRun.start 0 1).onReceived true ⟨sendReceiveBufferSize, 0⟩ [7, 8]
      ⟨true, false⟩) (.sent false 1 ⟨true, true⟩) _ :=
    .sent (w := ⟨2, 0⟩) rfl (by decide) (by decide)
  have hreach := (hinit.snoc (M := relaySystem) hreceived).snoc (M := relaySystem) hsent
  exact ⟨_, hreach, rfl, rfl, rfl, rfl, (relay_sends_received hreach true).1⟩

end CutieProxy
