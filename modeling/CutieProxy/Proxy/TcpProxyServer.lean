import CutieProxy.Proxy.TcpProxySocket
import CutieProxy.Lib.Store
import CutieProxy.Lib.Transition

/-!
# The completion callback of `tcp_proxy_server`, and runs of the relay

`completionCallback` is the callback `tcp_proxy_server::start` registers with the completion port,
over the handlers of the socket class it is instantiated with (`Handlers`). `relaySystem` is the
relay of one `tcp_proxy_socket` driven by that callback: an event dispatches the completion of one
of the four pending relay calls, in any order. A receive stores its bytes at the front of the window
it was given, a send takes its bytes from the front of the window it was given. `RelayRun` adds to
the socket what the two peers see: the bytes received from and forwarded for either of them, the
array cells the received bytes were stored in, whether a peer's end of stream was dispatched, and
what was still on its way when the connection was closed.
-/

namespace CutieProxy

/-- `proxy_io_operation`. -/
inductive ProxyIoOperation where
  | relayIoRead
  | relayIoWrite
  | negotiateIoRead
  | negotiateIoWrite
  | injectIoWrite
  deriving DecidableEq, Repr

/-- The members of the socket class the completion callback calls; every flag is the `is_local` of
the I/O context. -/
structure Handlers (σ : Type) where
  closeClient : (isReceive isLocal : Bool) → σ → σ
  processReceiveBufferComplete : Nat → Bool → σ → σ
  processSendBufferComplete : Nat → Bool → σ → σ
  processReceiveNegotiateComplete : Nat → Bool → σ → σ
  processSendNegotiateComplete : Nat → Bool → σ → σ

/-- The completion callback of `tcp_proxy_server::start`. An inject completion only frees its I/O
context. -/
def completionCallback {σ : Type} (T : Handlers σ) (endServer : Bool) (ioOperation : ProxyIoOperation)
    (isLocal : Bool) (numBytes : Nat) (status : Bool) (s : σ) : Bool × σ :=
  if endServer then (false, s)
  else if (!status || numBytes == 0) &&
      (ioOperation == .relayIoRead || ioOperation == .negotiateIoRead) then
    (false, T.closeClient true isLocal s)
  else if !status then (false, T.closeClient false isLocal s)
  else (true, match ioOperation with
    | .relayIoRead => T.processReceiveBufferComplete numBytes isLocal s
    | .relayIoWrite => T.processSendBufferComplete numBytes isLocal s
    | .negotiateIoRead => T.processReceiveNegotiateComplete numBytes isLocal s
    | .negotiateIoWrite => T.processSendNegotiateComplete numBytes isLocal s
    | .injectIoWrite => s)

/-- The handlers of `tcp_proxy_socket`; its negotiation handlers only refresh the time stamp. -/
def TcpProxySocket.handlers (ok : Accepts) : Handlers TcpProxySocket where
  closeClient isReceive isLocal s := s.closeClient isReceive isLocal
  processReceiveBufferComplete ioSize isLocal s :=
    s.processReceiveBufferComplete ok ioSize isLocal
  processSendBufferComplete ioSize isLocal s := s.processSendBufferComplete ok ioSize isLocal
  processReceiveNegotiateComplete _ _ s := s
  processSendNegotiateComplete _ _ s := s

/-! ## Runs of the relay -/

/-- A relaying socket with the history of its two directions, each named by the side its bytes come
from. -/
structure RelayRun where
  socket : TcpProxySocket
  /-- The bytes received from a peer. -/
  received : Bool → List UInt8 := fun _ => []
  /-- The array cells the received bytes were stored in. -/
  stored : Bool → List Nat := fun _ => []
  /-- The bytes of a peer reported sent to the other one. -/
  sent : Bool → List UInt8 := fun _ => []
  /-- Those of them that were reported while the socket of the other peer was open. -/
  forwarded : Bool → List UInt8 := fun _ => []
  /-- The peer's end of stream was dispatched. -/
  ended : Bool → Bool := fun _ => false
  /-- The sends that were in flight when an end of stream closed the connection. -/
  cut : Bool → Option WsaBuf := fun _ => none

/-- The completion of a pending relay call, with the side of the socket it was issued on. -/
inductive RelayEvent where
  /-- A receive completed with these bytes. -/
  | received (isLocal : Bool) (data : List UInt8) (ok : Accepts)
  /-- A send completed with the first `n` of its bytes. -/
  | sent (isLocal : Bool) (n : Nat) (ok : Accepts)
  /-- A receive completed with no byte. -/
  | endOfStream (isLocal : Bool)
  /-- A receive failed. -/
  | recvFailed (isLocal : Bool)
  /-- A send failed. -/
  | sendFailed (isLocal : Bool)

namespace RelayRun

/-- The callback of a running server on this socket. -/
def callback (ok : Accepts) (ioOperation : ProxyIoOperation) (isLocal : Bool) (numBytes : Nat)
    (status : Bool) (s : TcpProxySocket) : TcpProxySocket :=
  (completionCallback (TcpProxySocket.handlers ok) false ioOperation isLocal numBytes status s).2

/-- The pending receive on a socket is over; the bytes it got are at the front of its window. -/
def finishRecv (isLocal : Bool) (w : WsaBuf) (data : List UInt8) (s : TcpProxySocket) :
    TcpProxySocket :=
  s.modifyRelay isLocal fun r =>
    { r with buffer := Store.write r.buffer w.buf data, recvOp := none }

/-- The pending send on a socket is over. -/
def finishSend (isLocal : Bool) (s : TcpProxySocket) : TcpProxySocket :=
  s.modifyRelay (!isLocal) fun r => { r with sendOp := none }

/-- A receive completes with at least one byte and at most its window. -/
def onReceived (isLocal : Bool) (w : WsaBuf) (data : List UInt8) (ok : Accepts) (x : RelayRun) :
    RelayRun :=
  { x with
    socket := callback ok .relayIoRead isLocal data.length true (finishRecv isLocal w data x.socket)
    received := Function.update x.received isLocal (x.received isLocal ++ data)
    stored := Function.update x.stored isLocal
      (x.stored isLocal ++ List.range' w.buf data.length) }

/-- A send completes with the first `n` bytes of its window. -/
def onSent (isLocal : Bool) (w : WsaBuf) (n : Nat) (ok : Accepts) (x : RelayRun) : RelayRun :=
  { x with
    socket := callback ok .relayIoWrite isLocal n true (finishSend isLocal x.socket)
    sent := Function.update x.sent (!isLocal)
      (x.sent (!isLocal) ++ (List.range' w.buf n).map (x.socket.relay (!isLocal)).buffer)
    forwarded := if (x.socket.socket isLocal).isSome then
        Function.update x.forwarded (!isLocal)
          (x.forwarded (!isLocal) ++ (List.range' w.buf n).map (x.socket.relay (!isLocal)).buffer)
      else x.forwarded }

/-- A receive completes with no byte. -/
def onEndOfStream (isLocal : Bool) (w : WsaBuf) (x : RelayRun) : RelayRun :=
  { x with
    socket := callback ⟨true, true⟩ .relayIoRead isLocal 0 true (finishRecv isLocal w [] x.socket)
    ended := Function.update x.ended isLocal true
    cut := if (x.socket.socket isLocal).isSome then fun b => (x.socket.relay b).sendOp
      else x.cut }

/-- A receive fails. -/
def onRecvFailed (isLocal : Bool) (w : WsaBuf) (x : RelayRun) : RelayRun :=
  { x with
    socket := callback ⟨true, true⟩ .relayIoRead isLocal 0 false
      (finishRecv isLocal w [] x.socket) }

/-- A send fails. -/
def onSendFailed (isLocal : Bool) (x : RelayRun) : RelayRun :=
  { x with
    socket := callback ⟨true, true⟩ .relayIoWrite isLocal 0 false (finishSend isLocal x.socket) }

end RelayRun

/-- The completion of a pending relay call is dispatched. -/
inductive RelayStep : RelayRun → RelayEvent → RelayRun → Prop
  | received {x : RelayRun} {isLocal : Bool} {w : WsaBuf} {data : List UInt8} {ok : Accepts} :
      (x.socket.relay isLocal).recvOp = some w → 1 ≤ data.length → data.length ≤ w.len →
      RelayStep x (.received isLocal data ok) (x.onReceived isLocal w data ok)
  | sent {x : RelayRun} {isLocal : Bool} {w : WsaBuf} {n : Nat} {ok : Accepts} :
      (x.socket.relay (!isLocal)).sendOp = some w → 1 ≤ n → n ≤ w.len →
      RelayStep x (.sent isLocal n ok) (x.onSent isLocal w n ok)
  | endOfStream {x : RelayRun} {isLocal : Bool} {w : WsaBuf} :
      (x.socket.relay isLocal).recvOp = some w →
      RelayStep x (.endOfStream isLocal) (x.onEndOfStream isLocal w)
  | recvFailed {x : RelayRun} {isLocal : Bool} {w : WsaBuf} :
      (x.socket.relay isLocal).recvOp = some w →
      RelayStep x (.recvFailed isLocal) (x.onRecvFailed isLocal w)
  | sendFailed {x : RelayRun} {isLocal : Bool} {w : WsaBuf} :
      (x.socket.relay (!isLocal)).sendOp = some w →
      RelayStep x (.sendFailed isLocal) (x.onSendFailed isLocal)

/-- The state a successful `start_data_relay` leaves. -/
def RelayRun.start (localSocket remoteSocket : Socket) : RelayRun where
  socket := ((TcpProxySocket.create localSocket remoteSocket).associateToCompletionPort.startDataRelay
    true true).2

/-- The relay from the state a successful `start_data_relay` leaves. -/
def relaySystem : Transition.System RelayRun RelayEvent where
  init x := ∃ localSocket remoteSocket, x = RelayRun.start localSocket remoteSocket
  step := RelayStep

/-- Events that move data, every overlapped call they issue being accepted. -/
def RelayEvent.IsData : RelayEvent → Prop
  | .received _ _ ok | .sent _ _ ok => ok = ⟨true, true⟩
  | .endOfStream _ | .recvFailed _ | .sendFailed _ => False

end CutieProxy
