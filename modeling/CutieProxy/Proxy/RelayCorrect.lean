import CutieProxy.Lib.Cyclic
import CutieProxy.Proxy.TcpProxyServer

/-!
# The relay is a bounded queue

Each direction of the relay implements a queue of at most `sendReceiveBufferSize` bytes.
`Relay.Windows` says how the two windows of a direction lie around `k` queued bytes, `Represents`
adds the bytes themselves and the pending calls. A receive completion appends to the queue
(`Represents.receive`), a send completion removes from its front (`Represents.send`), and while the
connection is established these two are all a handler does to its direction and nothing else
(`processReceiveBufferComplete_established`, `processSendBufferComplete_established`).
`RelayRun.Flowing` carries both directions along a run.
-/

namespace CutieProxy

open Cyclic Store Transition

/-- The call a handler leaves pending for a window: none when it is empty. -/
def WsaBuf.armed (w : WsaBuf) : Option WsaBuf := if w.len = 0 then none else some w

theorem WsaBuf.armed_of_eq {w : WsaBuf} (h : w.len = 0) : w.armed = none := if_pos h

theorem WsaBuf.armed_of_ne {w : WsaBuf} (h : w.len ≠ 0) : w.armed = some w := if_neg h

/-! ## What the handlers do to one direction -/

namespace Relay

variable {size k n : Nat} {r : Relay} {q data : List UInt8}

/-- The received bytes are forwarded from where they lie, when no send is in progress. -/
def forward (n : Nat) (r : Relay) : Relay :=
  if r.sendBuf.len = 0 then
    { r with sendBuf := ⟨n, r.recvBuf.buf⟩, sendOp := some ⟨n, r.recvBuf.buf⟩ }
  else r

/-- The receive is issued again, when its window is not empty. -/
def rearmRecv (r : Relay) : Relay :=
  if r.recvBuf.len = 0 then r else { r with recvOp := some r.recvBuf }

/-- The send is issued again, when its window is not empty. -/
def rearmSend (r : Relay) : Relay :=
  if r.sendBuf.len = 0 then r else { r with sendOp := some r.sendBuf }

/-- The receive a full array suspended is issued again, over the bytes just sent. -/
def resume (n : Nat) (r : Relay) : Relay :=
  if r.recvBuf.len = 0 then rearmRecv { r with recvBuf := ⟨n, r.sendBuf.buf⟩ } else r

/-- A receive completion in an established connection. -/
def receiveComplete (size n : Nat) (r : Relay) : Relay :=
  ((r.forward n).shiftReceive size n).rearmRecv

/-- A send completion in an established connection. -/
def sendComplete (size n : Nat) (r : Relay) : Relay :=
  let r := (r.resume n).shiftSend size n
  if r.sendBuf.buf = r.recvBuf.buf then r.setSendLen 0 else (r.nextSend size).rearmSend

/-! ## The windows around `k` queued bytes -/

/-- The windows of a direction that holds `k` queued bytes: the queue starts at the send window and
ends at the receive window, the receive window lies in the free cells and is empty only when there
is none, the send window covers queued bytes and is empty only when there is none. -/
structure Windows (size k : Nat) (r : Relay) : Prop where
  sendLt : r.sendBuf.buf < size
  recvLt : r.recvBuf.buf < size
  recvBuf_eq : 0 < k → r.recvBuf.buf = slot size r.sendBuf.buf k
  recvEnd : r.recvBuf.buf + r.recvBuf.len ≤ size
  recvRoom : r.recvBuf.len + k ≤ size
  recvFull : r.recvBuf.len = 0 → k = size
  sendEnd : r.sendBuf.buf + r.sendBuf.len ≤ size
  sendQueued : r.sendBuf.len ≤ k
  sendEmpty : r.sendBuf.len = 0 → k = 0

/-- After `forward` the received bytes are the end of the queue that starts at the send window. -/
theorem Windows.forward (h : Windows size k r) (n : Nat) :
    (r.forward n).recvBuf = r.recvBuf ∧ (r.forward n).sendBuf.buf < size ∧
      r.recvBuf.buf = slot size (r.forward n).sendBuf.buf k ∧
      (0 < k → (r.forward n).sendBuf = r.sendBuf) ∧
      (k = 0 → (r.forward n).sendBuf = ⟨n, r.recvBuf.buf⟩) := by
  unfold Relay.forward
  split
  · next hz =>
    have hk := h.sendEmpty hz
    exact ⟨rfl, h.recvLt, by simp [hk, h.recvLt], by omega, fun _ => rfl⟩
  · next hz =>
    have hq := h.sendQueued
    exact ⟨rfl, h.sendLt, h.recvBuf_eq (by omega), fun _ => rfl, by omega⟩

/-- The windows after a receive completion: the send window that `forward` leaves, and the shifted
receive window. -/
theorem Windows.shiftReceive {f : Relay} (hn : 1 ≤ n) (hfit : f.recvBuf.len + k ≤ size)
    (hle : n ≤ f.recvBuf.len) (hend : f.recvBuf.buf + f.recvBuf.len ≤ size)
    (hslot : f.recvBuf.buf = slot size f.sendBuf.buf k) (hlt : f.sendBuf.buf < size)
    (hsend : f.sendBuf.buf + f.sendBuf.len ≤ size) (hqueued : f.sendBuf.len ≤ k + n)
    (hpos : f.sendBuf.len ≠ 0) : Windows size (k + n) (f.shiftReceive size n) := by
  have hk := slot_cases size f.sendBuf.buf k
  have hkn := slot_cases size f.sendBuf.buf (k + n)
  unfold Relay.shiftReceive
  simp only
  split
  · split <;> constructor <;> simp only <;> omega
  · constructor <;> simp only <;> omega

/-- The pending calls are no part of the windows. -/
theorem Windows.rearmRecv (h : Windows size k r) : Windows size k r.rearmRecv := by
  unfold Relay.rearmRecv
  split
  · exact h
  · exact { h with }

/-- The pending calls are no part of the windows. -/
theorem Windows.rearmSend (h : Windows size k r) : Windows size k r.rearmSend := by
  unfold Relay.rearmSend
  split
  · exact h
  · exact { h with }

/-- A receive completion keeps the windows, around the longer queue. -/
theorem Windows.receiveComplete (h : Windows size k r) (hn : 1 ≤ n) (hfit : n ≤ r.recvBuf.len) :
    Windows size (k + n) (r.receiveComplete size n) := by
  obtain ⟨hrecv, hlt, hslot, hpos, hzero⟩ := h.forward n
  have hroom := h.recvRoom
  have hend := h.recvEnd
  have hsend : (r.forward n).sendBuf.buf + (r.forward n).sendBuf.len ≤ size ∧
      (r.forward n).sendBuf.len ≤ k + n ∧ (r.forward n).sendBuf.len ≠ 0 := by
    rcases Nat.eq_zero_or_pos k with hk | hk
    · rw [hzero hk]
      exact ⟨by simp only; omega, by simp only; omega, by simp only; omega⟩
    · rw [hpos hk]
      have hq := h.sendQueued
      exact ⟨h.sendEnd, by omega, fun hz => by have := h.sendEmpty hz; omega⟩
  refine Windows.rearmRecv (Windows.shiftReceive hn ?_ ?_ ?_ ?_ hlt hsend.1 hsend.2.1 hsend.2.2)
  all_goals rw [hrecv]
  exacts [hroom, hfit, hend, hslot]

/-- `resume` leaves a receive window past the queue that is not empty: when the array was full, it
lies over the `n` bytes just sent. -/
theorem Windows.resume (h : Windows size (n + k) r) (hn : 1 ≤ n) (hfit : n ≤ r.sendBuf.len) :
    (r.resume n).sendBuf = r.sendBuf ∧ (r.resume n).recvBuf.buf = slot size r.sendBuf.buf (n + k) ∧
      (r.resume n).recvBuf.buf + (r.resume n).recvBuf.len ≤ size ∧
      (r.resume n).recvBuf.len + k ≤ size ∧ (r.resume n).recvBuf.len ≠ 0 := by
  have heq := h.recvBuf_eq (by omega)
  have hsend := h.sendEnd
  have hroom := h.recvRoom
  unfold Relay.resume
  split
  · next hz =>
    have hfull := h.recvFull hz
    have hwrap := slot_cases size r.sendBuf.buf (n + k)
    unfold Relay.rearmRecv
    rw [if_neg (by simp only; omega)]
    exact ⟨rfl, by simp only; omega, by simp only; omega, by simp only; omega,
      by simp only; omega⟩
  · next hz => exact ⟨rfl, heq, h.recvEnd, by omega, hz⟩

/-- A send completion keeps the windows, around the shorter queue. -/
theorem Windows.sendComplete (h : Windows size (n + k) r) (hn : 1 ≤ n)
    (hfit : n ≤ r.sendBuf.len) : Windows size k (r.sendComplete size n) := by
  obtain ⟨hsb, hbuf, hend, hroom, hlen⟩ := h.resume hn hfit
  have hlt := h.sendLt
  have hsend := h.sendEnd
  have hqueued := h.sendQueued
  have hfits := h.recvRoom
  have hnk := slot_cases size r.sendBuf.buf (n + k)
  unfold Relay.sendComplete
  generalize hr : r.resume n = r' at *
  -- the queue now starts `n` cells further on, which is the front of the array at its end
  have hstart : (r'.shiftSend size n).sendBuf.buf = slot size r.sendBuf.buf n := by
    have hstep := slot_cases size r.sendBuf.buf n
    simp only [Relay.shiftSend, hsb]
    split <;> omega
  have hnext : slot size (slot size r.sendBuf.buf n) k = slot size r.sendBuf.buf (n + k) :=
    slot_slot hlt (by omega)
  have hstep := slot_cases size r.sendBuf.buf n
  have hrest := slot_cases size (slot size r.sendBuf.buf n) k
  have hrecv : (r'.shiftSend size n).recvBuf = r'.recvBuf := rfl
  simp only
  split
  · next heq =>
    rw [hstart, hrecv, hbuf] at heq
    constructor <;> simp only [Relay.setSendLen, hstart, hrecv] <;> omega
  · next heq =>
    rw [hstart, hrecv, hbuf] at heq
    refine Windows.rearmSend ?_
    unfold Relay.nextSend
    constructor <;> simp only [hstart, hrecv] <;> first | omega | (split <;> omega)

/-! ## The queue of a direction -/

/-- The direction holds the queue `q` in the cells `c`, and an overlapped call is pending for each
window that is not empty. -/
structure Represents (size : Nat) (q : List UInt8) (c : List Nat) (r : Relay) : Prop where
  windows : Windows size q.length r
  cells : c = positions size r.sendBuf.buf q.length
  bytes : c.map r.buffer = q
  recvOp_eq : r.recvOp = r.recvBuf.armed
  sendOp_eq : r.sendOp = r.sendBuf.armed

variable {c : List Nat} {w : WsaBuf}

/-- The pending receive of a direction has the receive window. -/
theorem Represents.recvOp_some (h : Represents size q c r) (hop : r.recvOp = some w) :
    w = r.recvBuf ∧ r.recvBuf.len ≠ 0 := by
  rw [h.recvOp_eq] at hop
  by_cases hz : r.recvBuf.len = 0
  · rw [WsaBuf.armed_of_eq hz] at hop
    cases hop
  · rw [WsaBuf.armed_of_ne hz] at hop
    exact ⟨(Option.some.inj hop).symm, hz⟩

/-- The pending send of a direction has the send window. -/
theorem Represents.sendOp_some (h : Represents size q c r) (hop : r.sendOp = some w) :
    w = r.sendBuf ∧ r.sendBuf.len ≠ 0 := by
  rw [h.sendOp_eq] at hop
  by_cases hz : r.sendBuf.len = 0
  · rw [WsaBuf.armed_of_eq hz] at hop
    cases hop
  · rw [WsaBuf.armed_of_ne hz] at hop
    exact ⟨(Option.some.inj hop).symm, hz⟩

/-- A send is pending exactly when the queue is not empty. -/
theorem Represents.sendOp_isSome (h : Represents size q c r) :
    r.sendOp.isSome ↔ 0 < q.length := by
  have hqueued := h.windows.sendQueued
  have hempty := h.windows.sendEmpty
  rw [h.sendOp_eq, WsaBuf.armed]
  split
  · next hz => simp [hempty hz]
  · next hz => simp only [Option.isSome_some, true_iff]; omega

/-- A receive is pending exactly when the queue is not full. -/
theorem Represents.recvOp_isSome (h : Represents size q c r) :
    r.recvOp.isSome ↔ q.length < size := by
  have hroom := h.windows.recvRoom
  have hfull := h.windows.recvFull
  rw [h.recvOp_eq, WsaBuf.armed]
  split
  · next hz => simp [hfull hz]
  · next hz => simp only [Option.isSome_some, true_iff]; omega

/-- The receive window lies beside the queued cells. -/
theorem Represents.disjoint (h : Represents size q c r) {p : Nat} (hp : p ∈ c) :
    p < r.recvBuf.buf ∨ r.recvBuf.buf + r.recvBuf.len ≤ p := by
  rw [h.cells] at hp
  obtain ⟨i, hi, rfl⟩ := mem_positions.1 hp
  have hlt := h.windows.sendLt
  have hend := h.windows.recvEnd
  have hroom := h.windows.recvRoom
  have hbuf := h.windows.recvBuf_eq (by omega)
  have hk := slot_cases size r.sendBuf.buf q.length
  have hslot := slot_cases size r.sendBuf.buf i
  omega

/-- The bytes of a send are at the front of the queue. -/
theorem Represents.sent (h : Represents size q c r) (hfit : n ≤ r.sendBuf.len) :
    (List.range' r.sendBuf.buf n).map r.buffer = q.take n := by
  have hqueued := h.windows.sendQueued
  have hend := h.windows.sendEnd
  have hlen : q.length = n + (q.length - n) := by omega
  have hcells := h.cells
  rw [hlen, positions_add h.windows.sendLt (by have := h.windows.recvRoom; omega),
    positions_eq_range' (by omega)] at hcells
  have hbytes := h.bytes
  rw [hcells, List.map_append] at hbytes
  rw [← hbytes, List.take_left' (by simp)]

/-- What a receive completion leaves besides the windows: the bytes, the receive issued over the new
window, and the send that goes on or starts over the received bytes. -/
theorem receiveComplete_calls (size : Nat) (hop : r.recvOp = none) (hn : 1 ≤ n)
    (hsend : r.sendOp = r.sendBuf.armed) :
    (r.receiveComplete size n).buffer = r.buffer ∧
      (r.receiveComplete size n).sendBuf = (r.forward n).sendBuf ∧
      (r.receiveComplete size n).recvOp = (r.receiveComplete size n).recvBuf.armed ∧
      (r.receiveComplete size n).sendOp = (r.receiveComplete size n).sendBuf.armed := by
  have hfwd : (r.forward n).buffer = r.buffer ∧ (r.forward n).recvOp = none ∧
      (r.forward n).sendOp = (r.forward n).sendBuf.armed := by
    unfold Relay.forward
    split
    · exact ⟨rfl, hop, (WsaBuf.armed_of_ne (by simp only; omega)).symm⟩
    · exact ⟨rfl, hop, hsend⟩
  have hshift : ((r.forward n).shiftReceive size n).buffer = r.buffer ∧
      ((r.forward n).shiftReceive size n).recvOp = none ∧
      ((r.forward n).shiftReceive size n).sendBuf = (r.forward n).sendBuf ∧
      ((r.forward n).shiftReceive size n).sendOp = (r.forward n).sendBuf.armed := by
    unfold Relay.shiftReceive
    simp only
    split
    · split <;> exact ⟨hfwd.1, hfwd.2.1, rfl, hfwd.2.2⟩
    · exact ⟨hfwd.1, hfwd.2.1, rfl, hfwd.2.2⟩
  obtain ⟨hb, hr, hs, ho⟩ := hshift
  unfold Relay.receiveComplete Relay.rearmRecv
  split
  · next hz => exact ⟨hb, hs, by rw [hr, WsaBuf.armed_of_eq hz], by rw [ho, hs]⟩
  · next hz => exact ⟨hb, hs, (WsaBuf.armed_of_ne hz).symm, by simp only [ho, hs]⟩

/-- A receive completion appends the received bytes to the queue. -/
theorem Represents.receive (h : Represents size q c r) (hop : r.recvOp = some w)
    (hn : 1 ≤ data.length) (hfit : data.length ≤ w.len) :
    Represents size (q ++ data) (c ++ List.range' w.buf data.length)
      (receiveComplete size data.length
        { r with buffer := write r.buffer w.buf data, recvOp := none }) := by
  obtain ⟨rfl, -⟩ := h.recvOp_some hop
  have hend := h.windows.recvEnd
  have hroom := h.windows.recvRoom
  generalize hr₀ : ({ r with buffer := write r.buffer r.recvBuf.buf data, recvOp := none } : Relay)
    = r₀
  have hwin : Windows size q.length r₀ := by subst hr₀; exact { h.windows with }
  have hbuf₀ : r₀.buffer = write r.buffer r.recvBuf.buf data := by subst hr₀; rfl
  have hrecv₀ : r₀.recvBuf = r.recvBuf := by subst hr₀; rfl
  have hsend₀ : r₀.sendBuf = r.sendBuf := by subst hr₀; rfl
  obtain ⟨hbuf, hsb, hrop, hsop⟩ := receiveComplete_calls (r := r₀) size
    (by subst hr₀; rfl) hn (by subst hr₀; exact h.sendOp_eq)
  obtain ⟨-, hlt, hslot, hpos, -⟩ := hwin.forward data.length
  rw [hrecv₀] at hslot
  -- the cells of the old queue start at the send window `forward` leaves, also when there is none
  have hcells : c = positions size (r₀.forward data.length).sendBuf.buf q.length := by
    rcases Nat.eq_zero_or_pos q.length with hz | hz
    · rw [h.cells, hz, positions_zero, positions_zero]
    · rw [hpos hz, hsend₀]
      exact h.cells
  refine ⟨by rw [List.length_append]; exact hwin.receiveComplete hn (by rw [hrecv₀]; exact hfit),
    ?_, ?_, hrop, hsop⟩
  · rw [hsb, List.length_append, positions_add hlt (by omega), ← hslot, ← hcells,
      positions_eq_range' (by omega)]
  · rw [hbuf, hbuf₀, List.map_append, map_write_self, map_write_of_disjoint, h.bytes]
    intro p hp
    have := h.disjoint hp
    omega

/-- What a send completion leaves besides the windows: the bytes, the queue from `n` cells further
on, and the two calls issued over the new windows. -/
theorem sendComplete_calls (size : Nat) (hop : r.sendOp = none) (hn : 1 ≤ n)
    (hrecv : r.recvOp = r.recvBuf.armed) :
    (r.sendComplete size n).buffer = r.buffer ∧
      (r.sendComplete size n).sendBuf.buf = (r.shiftSend size n).sendBuf.buf ∧
      (r.sendComplete size n).recvOp = (r.sendComplete size n).recvBuf.armed ∧
      (r.sendComplete size n).sendOp = (r.sendComplete size n).sendBuf.armed := by
  have hres : (r.resume n).buffer = r.buffer ∧ (r.resume n).sendBuf = r.sendBuf ∧
      (r.resume n).sendOp = none ∧ (r.resume n).recvOp = (r.resume n).recvBuf.armed := by
    unfold Relay.resume
    split
    · unfold Relay.rearmRecv
      rw [if_neg (by simp only; omega)]
      exact ⟨rfl, rfl, hop, (WsaBuf.armed_of_ne (by simp only; omega)).symm⟩
    · exact ⟨rfl, rfl, hop, hrecv⟩
  obtain ⟨hb, hs, ho, hr⟩ := hres
  have hstart : ((r.resume n).shiftSend size n).sendBuf.buf = (r.shiftSend size n).sendBuf.buf := by
    simp only [Relay.shiftSend, hs]
  unfold Relay.sendComplete
  simp only
  split
  · exact ⟨hb, hstart, hr, ho⟩
  · unfold Relay.rearmSend
    split
    · next hz => exact ⟨hb, hstart, hr, by rw [WsaBuf.armed_of_eq hz]; exact ho⟩
    · next hz => exact ⟨hb, hstart, hr, (WsaBuf.armed_of_ne hz).symm⟩

/-- A send completion removes the sent bytes from the front of the queue. -/
theorem Represents.send (h : Represents size q c r) (hop : r.sendOp = some w) (hn : 1 ≤ n)
    (hfit : n ≤ w.len) :
    Represents size (q.drop n) (c.drop n) (sendComplete size n { r with sendOp := none }) := by
  obtain ⟨rfl, -⟩ := h.sendOp_some hop
  have hend := h.windows.sendEnd
  have hlt := h.windows.sendLt
  have hqueued := h.windows.sendQueued
  have hroom := h.windows.recvRoom
  have hlen : q.length = n + (q.length - n) := by omega
  have hwin : Windows size (n + (q.length - n)) { r with sendOp := none } := by
    rw [← hlen]; exact { h.windows with }
  obtain ⟨hbuf, hsb, hrop, hsop⟩ := sendComplete_calls (r := { r with sendOp := none })
    size rfl hn h.recvOp_eq
  have hstart : (Relay.shiftSend size n { r with sendOp := none }).sendBuf.buf =
      slot size r.sendBuf.buf n := by
    have hstep := slot_cases size r.sendBuf.buf n
    simp only [Relay.shiftSend]
    split <;> omega
  refine ⟨by rw [List.length_drop]; exact hwin.sendComplete hn hfit, ?_, ?_, hrop, hsop⟩
  · have hcells := h.cells
    rw [hlen] at hcells
    rw [hsb, hstart, hcells, List.length_drop, positions_drop hlt (by omega)]
  · rw [hbuf, List.map_drop, h.bytes]

end Relay

/-! ## The handlers in an established connection -/

namespace TcpProxySocket

variable {s : TcpProxySocket} {b : Bool} {n : Nat} {f g : Relay → Relay}

@[simp] theorem modifyRelay_connectionStatus :
    (s.modifyRelay b f).connectionStatus = s.connectionStatus := rfl

@[simp] theorem modifyRelay_relay_self : (s.modifyRelay b f).relay b = f (s.relay b) := by
  simp [modifyRelay]

@[simp] theorem modifyRelay_relay_not : (s.modifyRelay b f).relay (!b) = s.relay (!b) := by
  simp [modifyRelay]

@[simp] theorem modifyRelay_modifyRelay :
    (s.modifyRelay b f).modifyRelay b g = s.modifyRelay b fun r => g (f r) := by
  simp [modifyRelay]

/-- Only what `f` does to the direction itself counts. -/
theorem modifyRelay_congr (h : f (s.relay b) = g (s.relay b)) :
    s.modifyRelay b f = s.modifyRelay b g := by
  simp [modifyRelay, h]

/-- An accepted `WSARecv` on an open socket. -/
theorem wsaRecv_accepted (h : (s.socket b).isSome) :
    s.wsaRecv true b = s.modifyRelay b fun r => { r with recvOp := some r.recvBuf } := by
  simp [wsaRecv, h]

/-- An accepted `WSASend` on an open socket. -/
theorem wsaSend_accepted (h : (s.socket b).isSome) :
    s.wsaSend true b = s.modifyRelay (!b) fun r => { r with sendOp := some r.sendBuf } := by
  simp [wsaSend, h]

/-- A change that leaves the direction as it is leaves the socket as it is. -/
theorem modifyRelay_eq_self (h : f (s.relay b) = s.relay b) : s.modifyRelay b f = s := by
  simp [modifyRelay, h]

/-- The receive a handler issues when its window is not empty. -/
theorem rearmRecv_accepted (h : (s.socket b).isSome) :
    (if (s.relay b).recvBuf.len = 0 then s else s.wsaRecv true b) =
      s.modifyRelay b Relay.rearmRecv := by
  split
  · next hz => exact (modifyRelay_eq_self (by simp only [Relay.rearmRecv, if_pos hz])).symm
  · next hz =>
    rw [wsaRecv_accepted h]
    exact modifyRelay_congr (by simp only [Relay.rearmRecv, if_neg hz])

/-- The send a handler issues when its window is not empty. -/
theorem rearmSend_accepted (h : (s.socket (!b)).isSome) :
    (if (s.relay b).sendBuf.len = 0 then s else s.wsaSend true (!b)) =
      s.modifyRelay b Relay.rearmSend := by
  split
  · next hz => exact (modifyRelay_eq_self (by simp only [Relay.rearmSend, if_pos hz])).symm
  · next hz =>
    rw [wsaSend_accepted h, Bool.not_not]
    exact modifyRelay_congr (by simp only [Relay.rearmSend, if_neg hz])

/-- The send a receive completion starts when none is in progress. -/
theorem forward_accepted (h : (s.socket (!b)).isSome) :
    (if (s.relay b).sendBuf.len = 0 then
      (s.modifyRelay b fun r => { r with sendBuf := ⟨n, r.recvBuf.buf⟩ }).wsaSend true (!b)
    else s) = s.modifyRelay b (·.forward n) := by
  split
  · next hz =>
    rw [wsaSend_accepted (by exact h), Bool.not_not, modifyRelay_modifyRelay]
    exact modifyRelay_congr (by simp only [Relay.forward, if_pos hz])
  · next hz => exact (modifyRelay_eq_self (by simp only [Relay.forward, if_neg hz])).symm

/-- The receive a send completion resumes when the array was full. -/
theorem resume_accepted (h : (s.socket b).isSome) :
    (if (s.relay b).recvBuf.len = 0 then
      let s := s.modifyRelay b fun r => { r with recvBuf := ⟨n, r.sendBuf.buf⟩ }
      if (s.relay b).recvBuf.len = 0 then s else s.wsaRecv true b
    else s) = s.modifyRelay b (·.resume n) := by
  split
  · next hz =>
    rw [rearmRecv_accepted (by exact h), modifyRelay_modifyRelay]
    exact modifyRelay_congr (by simp only [Relay.resume, if_pos hz])
  · next hz => exact (modifyRelay_eq_self (by simp only [Relay.resume, if_neg hz])).symm

/-- A receive completion in an established connection whose calls are accepted changes its own
direction only. -/
theorem processReceiveBufferComplete_established (hstatus : s.connectionStatus = .clientEstablished)
    (hopen : ∀ b, (s.socket b).isSome) :
    s.processReceiveBufferComplete ⟨true, true⟩ n b =
      s.modifyRelay b (·.receiveComplete sendReceiveBufferSize n) := by
  unfold processReceiveBufferComplete
  simp only [hstatus]
  rw [forward_accepted (hopen _), rearmRecv_accepted (by exact hopen b), modifyRelay_modifyRelay,
    modifyRelay_modifyRelay]
  rfl

/-- A send completion in an established connection whose calls are accepted changes its own
direction only. -/
theorem processSendBufferComplete_established (hstatus : s.connectionStatus = .clientEstablished)
    (hopen : ∀ b, (s.socket b).isSome) :
    s.processSendBufferComplete ⟨true, true⟩ n (!b) =
      s.modifyRelay b (·.sendComplete sendReceiveBufferSize n) := by
  have hne : s.connectionStatus ≠ .clientCompleted := by simp [hstatus]
  unfold processSendBufferComplete
  simp only [Bool.not_not, hne, ne_eq, not_false_eq_true, true_and]
  rw [resume_accepted (hopen b)]
  simp only [modifyRelay_connectionStatus, hne, if_false, modifyRelay_modifyRelay]
  split
  · next heq =>
    refine modifyRelay_congr ?_
    rw [modifyRelay_relay_self] at heq
    simp only [Relay.sendComplete, if_pos heq]
  · next heq =>
    rw [rearmSend_accepted (by exact hopen (!b)), modifyRelay_modifyRelay]
    refine modifyRelay_congr ?_
    rw [modifyRelay_relay_self] at heq
    simp only [Relay.sendComplete, if_neg heq]

end TcpProxySocket

/-! ## Both directions along a run -/

namespace RelayRun

variable {x y : RelayRun} {b : Bool} {w : WsaBuf} {n : Nat} {data : List UInt8} {ok : Accepts}

/-- The callback hands a receive of at least one byte to its handler. -/
theorem callback_received (s : TcpProxySocket) (hn : 1 ≤ n) :
    callback ok .relayIoRead b n true s = s.processReceiveBufferComplete ok n b := by
  have : n ≠ 0 := by omega
  simp [callback, completionCallback, TcpProxySocket.handlers, this]

/-- The callback hands a successful send to its handler. -/
theorem callback_sent (s : TcpProxySocket) :
    callback ok .relayIoWrite b n true s = s.processSendBufferComplete ok n b := by
  simp [callback, completionCallback, TcpProxySocket.handlers]

/-- What was received, stored and sent of one direction, around its queue. -/
structure Queues (x : RelayRun) (b : Bool) (q : List UInt8) (c : List Nat) : Prop where
  received : x.received b = x.sent b ++ q
  stored : (x.stored b).drop (x.sent b).length = c
  storedLength : (x.stored b).length = (x.received b).length
  represents : (x.socket.relay b).Represents sendReceiveBufferSize q c

/-- The connection is established, and either direction of the relay is a queue. -/
structure Flowing (x : RelayRun) : Prop where
  status : x.socket.connectionStatus = .clientEstablished
  opened : ∀ b, (x.socket.socket b).isSome
  queues : ∀ b, ∃ q c, x.Queues b q c

/-- The relay starts with two empty queues. -/
theorem Flowing.init (h : relaySystem.init x) : x.Flowing := by
  obtain ⟨localSocket, remoteSocket, rfl⟩ := h
  refine ⟨rfl, fun b => by cases b <;> rfl, fun b => ⟨[], [], rfl, rfl, rfl, ?_⟩⟩
  have hrelay : (start localSocket remoteSocket).socket.relay b =
      { recvOp := some ⟨sendReceiveBufferSize, 0⟩ } := by
    cases b <;> rfl
  rw [hrelay]
  refine ⟨?_, rfl, rfl, rfl, rfl⟩
  constructor <;> simp [sendReceiveBufferSize]

/-- A step that changes one direction of the relay keeps the queue of the other. -/
theorem Flowing.of_direction (h : x.Flowing) {f : Relay → Relay}
    (hsocket : y.socket = x.socket.modifyRelay b f)
    (hreceived : y.received (!b) = x.received (!b)) (hsent : y.sent (!b) = x.sent (!b))
    (hstored : y.stored (!b) = x.stored (!b))
    (hqueue : ∀ q c, x.Queues b q c → ∃ q c, y.Queues b q c) : y.Flowing := by
  refine ⟨by rw [hsocket]; exact h.status, by rw [hsocket]; exact h.opened, fun d => ?_⟩
  obtain ⟨q, c, hq⟩ := h.queues d
  rcases Classical.em (d = b) with rfl | hd
  · exact hqueue q c hq
  · obtain rfl := Bool.eq_not_of_ne hd
    refine ⟨q, c, ?_, ?_, ?_, ?_⟩
    · rw [hreceived, hsent]
      exact hq.received
    · rw [hstored, hsent]
      exact hq.stored
    · rw [hstored, hreceived]
      exact hq.storedLength
    · rw [hsocket, TcpProxySocket.modifyRelay_relay_not]
      exact hq.represents

/-- A receive completion keeps both queues. -/
theorem Flowing.onReceived (h : x.Flowing) (hop : (x.socket.relay b).recvOp = some w)
    (hn : 1 ≤ data.length) (hfit : data.length ≤ w.len) :
    (x.onReceived b w data ⟨true, true⟩).Flowing := by
  have hsocket : (x.onReceived b w data ⟨true, true⟩).socket = x.socket.modifyRelay b fun r =>
      Relay.receiveComplete sendReceiveBufferSize data.length
        { r with buffer := write r.buffer w.buf data, recvOp := none } := by
    simp only [RelayRun.onReceived, callback_received _ hn, finishRecv]
    rw [TcpProxySocket.processReceiveBufferComplete_established (by exact h.status)
      (by exact h.opened),
      TcpProxySocket.modifyRelay_modifyRelay]
  refine h.of_direction hsocket (by simp [RelayRun.onReceived]) rfl (by simp [RelayRun.onReceived])
    fun q c hq => ?_
  have hlen := congrArg List.length hq.received
  rw [List.length_append] at hlen
  have hstored := hq.storedLength
  refine ⟨q ++ data, c ++ List.range' w.buf data.length, ?_, ?_, ?_, ?_⟩
  · simp [RelayRun.onReceived, hq.received]
  · simp only [RelayRun.onReceived, Function.update_self]
    rw [List.drop_append_of_le_length (by omega), hq.stored]
  · simp [RelayRun.onReceived, hstored]
  · rw [hsocket, TcpProxySocket.modifyRelay_relay_self]
    exact hq.represents.receive hop hn hfit

/-- A send completion keeps both queues. -/
theorem Flowing.onSent (h : x.Flowing) (hop : (x.socket.relay b).sendOp = some w) (hn : 1 ≤ n)
    (hfit : n ≤ w.len) : (x.onSent (!b) w n ⟨true, true⟩).Flowing := by
  have hsocket : (x.onSent (!b) w n ⟨true, true⟩).socket = x.socket.modifyRelay b fun r =>
      Relay.sendComplete sendReceiveBufferSize n { r with sendOp := none } := by
    simp only [RelayRun.onSent, callback_sent, finishSend, Bool.not_not]
    rw [TcpProxySocket.processSendBufferComplete_established (by exact h.status)
      (by exact h.opened),
      TcpProxySocket.modifyRelay_modifyRelay]
  refine h.of_direction hsocket rfl (by simp [RelayRun.onSent]) rfl fun q c hq => ?_
  obtain ⟨hw, -⟩ := hq.represents.sendOp_some hop
  have hfit' : n ≤ (x.socket.relay b).sendBuf.len := by rw [← hw]; exact hfit
  have hqueued := hq.represents.windows.sendQueued
  have hsent : (x.onSent (!b) w n ⟨true, true⟩).sent b = x.sent b ++ q.take n := by
    simp only [RelayRun.onSent, Bool.not_not, Function.update_self]
    rw [hw, hq.represents.sent hfit']
  refine ⟨q.drop n, c.drop n, ?_, ?_, hq.storedLength, ?_⟩
  · rw [hsent, List.append_assoc, List.take_append_drop]
    exact hq.received
  · rw [hsent, List.length_append, List.length_take_of_le (by omega), ← hq.stored,
      List.drop_drop]
    rfl
  · rw [hsocket, TcpProxySocket.modifyRelay_relay_self]
    exact hq.represents.send hop hn hfit

/-- Events that move data keep both queues. -/
theorem Flowing.step {e : RelayEvent} (h : x.Flowing) (he : e.IsData)
    (hstep : RelayStep x e y) : y.Flowing := by
  cases hstep with
  | received hop hn hfit =>
    simp only [RelayEvent.IsData] at he
    subst he
    exact h.onReceived hop hn hfit
  | @sent isLocal _ _ _ hop hn hfit =>
    simp only [RelayEvent.IsData] at he
    subst he
    have := h.onSent hop hn hfit
    rwa [Bool.not_not] at this
  | endOfStream | recvFailed | sendFailed => exact he.elim

/-- A run of events that move data keeps both queues. -/
theorem Flowing.of_reachable (h : (relaySystem.restrict fun _ e => e.IsData).Reachable x) :
    x.Flowing :=
  h.restrict_invariant (fun _ => Flowing.init) fun _ _ _ hf he hstep => hf.step he hstep

end RelayRun

/-- In every run of the relay whose events move data: the bytes sent are a prefix of the bytes
received; a pending receive has a window inside the array and over no cell of a received byte that
was not sent; a send is pending exactly when such a byte exists and a receive exactly when the array
has room. -/
theorem relay_is_bounded_queue {x : RelayRun}
    (h : (relaySystem.restrict fun _ e => e.IsData).Reachable x) (b : Bool) :
    x.sent b <+: x.received b ∧
      (∀ w, (x.socket.relay b).recvOp = some w → w.buf + w.len ≤ sendReceiveBufferSize ∧
        ∀ p ∈ (x.stored b).drop (x.sent b).length, p < w.buf ∨ w.buf + w.len ≤ p) ∧
      ((x.socket.relay b).sendOp.isSome ↔ (x.sent b).length < (x.received b).length) ∧
      ((x.socket.relay b).recvOp.isSome ↔
        (x.received b).length - (x.sent b).length < sendReceiveBufferSize) := by
  obtain ⟨q, c, hq⟩ := (RelayRun.Flowing.of_reachable h).queues b
  have hlen : (x.received b).length = (x.sent b).length + q.length := by
    rw [hq.received, List.length_append]
  refine ⟨⟨q, hq.received.symm⟩, fun w hw => ?_, ?_, ?_⟩
  · obtain ⟨rfl, -⟩ := hq.represents.recvOp_some hw
    refine ⟨hq.represents.windows.recvEnd, fun p hp => ?_⟩
    rw [hq.stored] at hp
    exact hq.represents.disjoint hp
  · rw [hq.represents.sendOp_isSome]
    omega
  · rw [hq.represents.recvOp_isSome]
    omega

/-- One byte was received from the local peer and is being sent to the remote one. -/
theorem relay_is_bounded_queue_one_byte :
    ∃ x, (relaySystem.restrict fun _ e => e.IsData).Reachable x ∧ x.received true = [7] ∧
      (x.socket.relay true).sendOp = some ⟨1, 0⟩ ∧
      x.sent true <+: x.received true ∧
      ((x.socket.relay true).sendOp.isSome ↔ (x.sent true).length < (x.received true).length) := by
  have hinit : (relaySystem.restrict fun _ e => e.IsData).Reachable (RelayRun.start 0 1) :=
    System.Reachable.init ⟨0, 1, rfl⟩
  have hstep : RelayStep (RelayRun.start 0 1) (.received true [7] ⟨true, true⟩) _ :=
    .received rfl (by decide) (by decide)
  have hreach := hinit.restrict_snoc hstep rfl
  have hqueue := relay_is_bounded_queue hreach true
  exact ⟨_, hreach, rfl, rfl, hqueue.1, hqueue.2.2.1⟩

end CutieProxy
