import Mathlib.Logic.Function.Basic

/-!
# The relay of `tcp_proxy_socket`

`TcpProxySocket` is the state of `proxy/tcp_proxy_socket.h` the relay works on: two sockets, the
connection status and, for each direction, a cyclic array with the `WSABUF` of its pending receive
and the `WSABUF` of its pending send. Everything the source writes twice, once for the local and
once for the remote socket, is written once here over `isLocal : Bool`, the flag of the I/O context:
`relay true` is `local_recv_buf_`, `remote_send_buf_` and `from_local_to_remote_buffer_`, and
`relay false` their mirror images. A pointer into an array is its offset from `data()`; the null
pointer a send buffer starts with is offset `0`, which no handler compares before it is assigned.

An overlapped call is either accepted, and then pending in `recvOp` or `sendOp` until its completion
is dispatched, or refused. Whether the system accepts it is an argument of the handler (`Accepts`);
a call on `INVALID_SOCKET` is always refused.
-/

namespace CutieProxy

/-- `send_receive_buffer_size`. -/
def sendReceiveBufferSize : Nat := 65536

/-- `WSABUF`: a length and a pointer, given as an offset into its array. -/
structure WsaBuf where
  len : Nat
  buf : Nat
  deriving DecidableEq, Repr

/-- `connection_status`. -/
inductive ConnectionStatus where
  | clientNoChange
  | clientConnected
  | clientEstablished
  | clientCompleted
  deriving DecidableEq, Repr

/-- One direction of the relay: its array, the windows of its receive and of its send, and the two
calls the system holds. -/
structure Relay where
  /-- `from_local_to_remote_buffer_` or `from_remote_to_local_buffer_`. -/
  buffer : Nat → UInt8 := fun _ => 0
  /-- `local_recv_buf_` or `remote_recv_buf_`. -/
  recvBuf : WsaBuf := ⟨sendReceiveBufferSize, 0⟩
  /-- `remote_send_buf_` or `local_send_buf_`. -/
  sendBuf : WsaBuf := ⟨0, 0⟩
  /-- The accepted `WSARecv` whose completion was not dispatched yet. -/
  recvOp : Option WsaBuf := none
  /-- The accepted `WSASend` whose completion was not dispatched yet. -/
  sendOp : Option WsaBuf := none

/-- A socket handle. -/
abbrev Socket := Nat

/-- `tcp_proxy_socket`, as far as the relay reads and writes it. -/
structure TcpProxySocket where
  /-- `local_socket_` (`true`) and `remote_socket_` (`false`); `none` is `INVALID_SOCKET`. -/
  socket : Bool → Option Socket
  /-- `connection_status_`. -/
  connectionStatus : ConnectionStatus := .clientConnected
  /-- The direction that receives on the local (`true`) or on the remote (`false`) socket. -/
  relay : Bool → Relay := fun _ => {}
  /-- The handles passed to `closesocket`, oldest first. -/
  closed : List Socket := []

/-- Whether the system accepts the `WSASend` and the `WSARecv` a handler issues. -/
structure Accepts where
  send : Bool
  recv : Bool
  deriving DecidableEq, Repr

/-! ## Window arithmetic -/

namespace Relay

/-- `process_receive_buffer_complete`: the receive window moves past the `ioSize` bytes received.
Above the send window it reaches to the end of the array, or restarts at the front when that end is
reached; below it, it reaches to the send window. -/
def shiftReceive (size ioSize : Nat) (r : Relay) : Relay :=
  let buf := r.recvBuf.buf + ioSize
  if r.sendBuf.buf < buf then
    if buf < size then { r with recvBuf := ⟨size - buf, buf⟩ }
    else { r with recvBuf := ⟨r.sendBuf.buf, 0⟩ }
  else { r with recvBuf := ⟨r.sendBuf.buf - buf, buf⟩ }

/-- `process_send_buffer_complete`: the send window moves past the `ioSize` bytes sent, and to the
front of the array when its end is reached. -/
def shiftSend (size ioSize : Nat) (r : Relay) : Relay :=
  let buf := r.sendBuf.buf + ioSize
  { r with sendBuf := { r.sendBuf with buf := if buf = size then 0 else buf } }

/-- `process_send_buffer_complete`: the next send takes the queued bytes up to the receive window
or, when they pass it, up to the end of the array. -/
def nextSend (size : Nat) (r : Relay) : Relay :=
  { r with sendBuf := { r.sendBuf with
      len := if r.sendBuf.buf < r.recvBuf.buf then r.recvBuf.buf - r.sendBuf.buf
        else size - r.sendBuf.buf } }

/-- Sets the length of the receive window. -/
def setRecvLen (n : Nat) (r : Relay) : Relay := { r with recvBuf := { r.recvBuf with len := n } }

/-- Sets the length of the send window. -/
def setSendLen (n : Nat) (r : Relay) : Relay := { r with sendBuf := { r.sendBuf with len := n } }

end Relay

/-! ## Sockets and overlapped calls -/

namespace TcpProxySocket

/-- Applies `f` to one direction of the relay. -/
def modifyRelay (isLocal : Bool) (f : Relay → Relay) (s : TcpProxySocket) : TcpProxySocket :=
  { s with relay := Function.update s.relay isLocal (f (s.relay isLocal)) }

/-- `shutdown` and `closesocket` on a socket member that is not `INVALID_SOCKET`, which the member
becomes. -/
def closeSocket (isLocal : Bool) (s : TcpProxySocket) : TcpProxySocket :=
  match s.socket isLocal with
  | none => s
  | some h => { s with socket := Function.update s.socket isLocal none, closed := s.closed ++ [h] }

/-- `close_client`. -/
def closeClient (isReceive isLocal : Bool) (s : TcpProxySocket) : TcpProxySocket :=
  let s := if (s.socket isLocal).isSome then
      { s.closeSocket isLocal with connectionStatus := .clientCompleted }
    else s
  let s := if isReceive then s.modifyRelay isLocal (·.setRecvLen 0)
    else s.modifyRelay (!isLocal) (·.setSendLen 0)
  s.closeSocket (!isLocal)

/-- `WSARecv` on a socket with its receive buffer; a refusal closes the client. -/
def wsaRecv (accepted : Bool) (isLocal : Bool) (s : TcpProxySocket) : TcpProxySocket :=
  if accepted && (s.socket isLocal).isSome then
    s.modifyRelay isLocal fun r => { r with recvOp := some r.recvBuf }
  else s.closeClient true isLocal

/-- `WSASend` on a socket with its send buffer; a refusal closes the client. -/
def wsaSend (accepted : Bool) (isLocal : Bool) (s : TcpProxySocket) : TcpProxySocket :=
  if accepted && (s.socket isLocal).isSome then
    s.modifyRelay (!isLocal) fun r => { r with sendOp := some r.sendBuf }
  else s.closeClient false isLocal

/-! ## The handlers -/

/-- The constructor: both sockets connected, both arrays empty. -/
def create (localSocket remoteSocket : Socket) : TcpProxySocket where
  socket isLocal := some (if isLocal then localSocket else remoteSocket)

/-- `associate_to_completion_port`; the association itself changes nothing the relay reads. -/
def associateToCompletionPort (s : TcpProxySocket) : TcpProxySocket :=
  { s with connectionStatus := .clientEstablished }

/-- `start_data_relay`: a receive on either socket. When the second is refused, the local socket is
closed without becoming `INVALID_SOCKET`, and `close_client` closes it once more. -/
def startDataRelay (recvLocal recvRemote : Bool) (s : TcpProxySocket) : Bool × TcpProxySocket :=
  if recvLocal && (s.socket true).isSome then
    let s := s.wsaRecv recvLocal true
    if recvRemote && (s.socket false).isSome then (true, s.wsaRecv recvRemote false)
    else
      let s := { s with closed := s.closed ++ (s.socket true).toList }
      (false, s.closeClient true false)
  else (false, (s.closeClient true true).modifyRelay false (·.setRecvLen 0))

/-- `process_receive_buffer_complete`. -/
def processReceiveBufferComplete (ok : Accepts) (ioSize : Nat) (isLocal : Bool)
    (s : TcpProxySocket) : TcpProxySocket :=
  match s.connectionStatus with
  | .clientCompleted => s.modifyRelay isLocal (·.setRecvLen 0)
  | .clientEstablished =>
    -- no send in progress: the received bytes are forwarded from where they were received
    let s := if (s.relay isLocal).sendBuf.len = 0 then
        (s.modifyRelay isLocal fun r => { r with sendBuf := ⟨ioSize, r.recvBuf.buf⟩ }).wsaSend
          ok.send (!isLocal)
      else s
    let s := s.modifyRelay isLocal (·.shiftReceive sendReceiveBufferSize ioSize)
    if (s.relay isLocal).recvBuf.len = 0 then s else s.wsaRecv ok.recv isLocal
  | .clientNoChange | .clientConnected => s

/-- `process_send_buffer_complete`, for the socket `isLocal` the bytes were sent to. Both branches
of the source close a drained connection with `close_client<true>(false, false)`. -/
def processSendBufferComplete (ok : Accepts) (ioSize : Nat) (isLocal : Bool)
    (s : TcpProxySocket) : TcpProxySocket :=
  -- the array was full: the bytes just sent are the room of the next receive
  let s := if s.connectionStatus ≠ .clientCompleted ∧ (s.relay (!isLocal)).recvBuf.len = 0 then
      let s := s.modifyRelay (!isLocal) fun r => { r with recvBuf := ⟨ioSize, r.sendBuf.buf⟩ }
      if (s.relay (!isLocal)).recvBuf.len = 0 then s else s.wsaRecv ok.recv (!isLocal)
    else s
  let s := s.modifyRelay (!isLocal) (·.shiftSend sendReceiveBufferSize ioSize)
  if (s.relay (!isLocal)).sendBuf.buf = (s.relay (!isLocal)).recvBuf.buf then
    let s := if s.connectionStatus = .clientCompleted then s.closeClient false false else s
    s.modifyRelay (!isLocal) (·.setSendLen 0)
  else
    let s := s.modifyRelay (!isLocal) (·.nextSend sendReceiveBufferSize)
    if (s.relay (!isLocal)).sendBuf.len = 0 then s else s.wsaSend ok.send isLocal

end TcpProxySocket

end CutieProxy
