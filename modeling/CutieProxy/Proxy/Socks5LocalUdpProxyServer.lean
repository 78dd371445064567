import Mathlib.Data.Multiset.AddSub
import CutieProxy.Lib.Table
import CutieProxy.Lib.Transition
import CutieProxy.Ndisapi.TcpLocalRedirect

/-!
# `socks5_local_udp_proxy_server` and its proxy sockets

The callback of the server runs under its lock, and so does a pass of `clear_thread`: a run is a
sequence of callbacks, passes and completions by the system. The server has one I/O context of its
own, which carries the pointer to a proxy socket and the packet from the datagram it received to
`process_receive_buffer_complete`; a proxy socket has one embedded in it for its receive, and every
send has an allocated one. Objects are numbered in the order of their creation, and a pointer is a
number, which stays what it is when the object is destroyed. `dispatches` and `sends` keep what the
callback has done. A null pointer, a destroyed object or a missing buffer that is used ends the run
(`faulted`).

The environment's part in a callback is `UdpAnswers`; which completions are successful is up to the
system, but a call on a socket that was closed is aborted unless it had completed before.
-/

namespace CutieProxy

open Transition

/-- What the removal of a `socks5_udp_proxy_socket` depends on. -/
structure UdpProxySocket where
  timestamp : TimePoint
  readyForRemoval : Bool := false

/-- `is_ready_for_removal`. -/
def UdpProxySocket.isReadyForRemoval (now : TimePoint) (socket : UdpProxySocket) : Bool :=
  socket.readyForRemoval || decide (minutes 5 < now - socket.timestamp)

/-- A `socks5_udp_proxy_socket` with the port of its `local_address_sa_`, in host order. -/
structure UdpProxySocketObject extends UdpProxySocket where
  localPort : UInt16

/-- An allocated `socks5_udp_per_io_context`, for a send. -/
structure SendContext where
  /-- `proxy_socket_ptr`. -/
  proxySocket : Nat
  isLocal : Bool
  /-- `wsa_buf`. -/
  wsaBuf : Option Nat
  deriving DecidableEq, Repr

/-- An overlapped call of the server. -/
inductive UdpOperation where
  /-- The `WSARecvFrom` on the server socket. -/
  | serverRead
  /-- The `WSARecv` of a proxy socket. -/
  | remoteRead (socket : Nat)
  /-- A `WSASend` or a `WSASendTo` with its context. -/
  | send (context : Nat)
  deriving DecidableEq, Repr

/-- The completion of a call. -/
inductive UdpCompletion where
  /-- A datagram from a local port, in host order. -/
  | serverRead (port : UInt16) (numBytes : Nat) (status : Bool)
  | remoteRead (socket numBytes : Nat) (status : Bool)
  | send (context : Nat) (status : Bool)
  deriving DecidableEq, Repr

/-- The call that completed. -/
def UdpCompletion.operation : UdpCompletion → UdpOperation
  | .serverRead _ _ _ => .serverRead
  | .remoteRead socket _ _ => .remoteRead socket
  | .send context _ => .send context

/-- The status of a completion. -/
def UdpCompletion.status : UdpCompletion → Bool
  | .serverRead _ _ status | .remoteRead _ _ status | .send _ status => status

/-- A call of a member of a proxy socket by the callback. -/
structure Dispatch where
  /-- It handles a receive, not a send. -/
  receive : Bool
  target : Option Nat
  /-- The target is in `proxy_sockets_`. -/
  held : Bool
  deriving DecidableEq, Repr

/-- A `WSASend` or `WSASendTo` with the buffer it is given. -/
structure UdpSend where
  proxySocket : Nat
  isLocal : Bool
  packet : Option Nat
  /-- The local port of the datagram received last. -/
  source : UInt16
  deriving DecidableEq, Repr

/-- What the system and the upstream server answer during a callback. -/
structure UdpAnswers where
  now : TimePoint
  /-- A connection, an association and a connected UDP socket were obtained. -/
  associated : Bool := true
  /-- The `WSARecv` of `start_data_relay` is accepted. -/
  start : Bool := true
  /-- `packet_pool::allocate` returns a packet. -/
  packet : Bool := true
  /-- The allocation of a context succeeds. -/
  context : Bool := true
  /-- The `WSASend` or `WSASendTo` is accepted. -/
  send : Bool := true
  /-- The `WSARecvFrom` or `WSARecv` at the end is accepted. -/
  recv : Bool := true

/-- `socks5_local_udp_proxy_server`, with the objects it has created. -/
structure Socks5LocalUdpProxyServer where
  /-- `proxy_sockets_`. -/
  proxySockets : Table UInt16 Nat := .empty
  socketCount : Nat := 0
  socket : Nat → UdpProxySocketObject := fun _ => ⟨⟨0, false⟩, 0⟩
  /-- `server_io_context_.proxy_socket_ptr`. -/
  proxySocketPtr : Option Nat := none
  /-- `server_io_context_.wsa_buf`. -/
  wsaBuf : Option Nat := none
  /-- The port in `recv_from_sa_`, in host order. -/
  recvFrom : UInt16 := 0
  contextCount : Nat := 0
  context : Nat → SendContext := fun _ => ⟨0, false, none⟩
  /-- The contexts that were deleted, once for each time. -/
  released : Multiset Nat := 0
  packetCount : Nat := 0
  /-- The packets that went back to the pool or were deleted, once for each time. -/
  freed : Multiset Nat := 0
  /-- The calls the system holds. -/
  pending : Multiset UdpOperation := 0
  /-- The completions that were not dispatched. -/
  queue : Multiset UdpCompletion := 0
  dispatches : List Dispatch := []
  sends : List UdpSend := []
  faulted : Bool := false

namespace Socks5LocalUdpProxyServer

/-! ## Proxy sockets -/

/-- The object is in `proxy_sockets_`. -/
def isHeld (k : Nat) (s : Socks5LocalUdpProxyServer) : Bool :=
  s.proxySockets.find (s.socket k).localPort == some k

/-- Changes an object. -/
def modifySocket (k : Nat) (f : UdpProxySocketObject → UdpProxySocketObject)
    (s : Socks5LocalUdpProxyServer) : Socks5LocalUdpProxyServer :=
  { s with socket := Function.update s.socket k (f (s.socket k)) }

/-- `close_client`. -/
def closeClient (k : Nat) (s : Socks5LocalUdpProxyServer) : Socks5LocalUdpProxyServer :=
  s.modifySocket k fun socket => { socket with readyForRemoval := true }

/-- Refreshes the time stamp. -/
def touch (k : Nat) (now : TimePoint) (s : Socks5LocalUdpProxyServer) : Socks5LocalUdpProxyServer :=
  s.modifySocket k fun socket => { socket with timestamp := now }

/-- `WSARecv` of a proxy socket. -/
def wsaRecv (accepted : Bool) (k : Nat) (s : Socks5LocalUdpProxyServer) :
    Socks5LocalUdpProxyServer :=
  if accepted then { s with pending := .remoteRead k ::ₘ s.pending } else s.closeClient k

/-- A send with a new context. -/
def wsaSend (accepted : Bool) (context : SendContext) (s : Socks5LocalUdpProxyServer) :
    Socks5LocalUdpProxyServer :=
  let c := s.contextCount
  let s := { s with
    contextCount := c + 1
    context := Function.update s.context c context
    sends := s.sends ++
      [UdpSend.mk context.proxySocket context.isLocal context.wsaBuf s.recvFrom] }
  -- a call without a buffer is refused
  if accepted && context.wsaBuf.isSome then { s with pending := .send c ::ₘ s.pending }
  else s.closeClient context.proxySocket

/-- `process_receive_buffer_complete` for a datagram of the local client. -/
def forwardToRemote (a : UdpAnswers) (k : Nat) (s : Socks5LocalUdpProxyServer) :
    Socks5LocalUdpProxyServer :=
  let s := s.touch k a.now
  if a.context then
    wsaSend a.send ⟨k, false, s.wsaBuf⟩ { s with wsaBuf := none }
  else
    match s.wsaBuf with
    | some p => { s with wsaBuf := none, freed := p ::ₘ s.freed }
    | none => { s with faulted := true }

/-- `process_receive_buffer_complete` for a datagram of the upstream server. No packet is allocated
for one of no byte, and the missing packet is written to. -/
def forwardToLocal (a : UdpAnswers) (numBytes k : Nat) (s : Socks5LocalUdpProxyServer) :
    Socks5LocalUdpProxyServer :=
  let s := s.touch k a.now
  if a.context && numBytes == 0 then
    { s.wsaSend false ⟨k, true, none⟩ with faulted := true }
  else
    let s := if a.context && a.packet then
        let p := s.packetCount
        wsaSend a.send ⟨k, true, some p⟩ { s with packetCount := p + 1 }
      else s
    s.wsaRecv a.recv k

/-- `release_io_context`, by `process_send_buffer_complete`. -/
def releaseIoContext (c : Nat) (s : Socks5LocalUdpProxyServer) : Socks5LocalUdpProxyServer :=
  { s with
    freed := match (s.context c).wsaBuf with
      | some p => p ::ₘ s.freed
      | none => s.freed
    released := c ::ₘ s.released }

/-! ## The server -/

/-- `connect_to_remote_host`, for the port in `recv_from_sa_`. -/
def connectToRemoteHost (a : UdpAnswers) (s : Socks5LocalUdpProxyServer) :
    Bool × Socks5LocalUdpProxyServer :=
  match s.proxySockets.find s.recvFrom with
  | some k => (true, { s with proxySocketPtr := some k })
  | none =>
    if a.associated then
      let k := s.socketCount
      let s := { s with
        socketCount := k + 1
        socket := Function.update s.socket k ⟨⟨a.now, false⟩, s.recvFrom⟩
        proxySockets := s.proxySockets.insert s.recvFrom k
        proxySocketPtr := some k }
      (true, s.wsaRecv a.start k)
    else (false, s)

/-- The packet for a datagram the server received; one that was left in the context is deleted. -/
def takePacket (a : UdpAnswers) (s : Socks5LocalUdpProxyServer) :
    Bool × Socks5LocalUdpProxyServer :=
  let s := { s with freed := Multiset.ofList s.wsaBuf.toList + s.freed, wsaBuf := none }
  if a.packet then
    (true, { s with wsaBuf := some s.packetCount, packetCount := s.packetCount + 1 })
  else (false, s)

/-- Calls a member of the proxy socket a context points to. -/
def dispatch (receive : Bool) (target : Option Nat)
    (member : Nat → Socks5LocalUdpProxyServer → Socks5LocalUdpProxyServer)
    (s : Socks5LocalUdpProxyServer) : Socks5LocalUdpProxyServer :=
  let held := target.any fun k => s.isHeld k
  let s := { s with dispatches := s.dispatches ++ [Dispatch.mk receive target held] }
  match target with
  | some k => if held then member k s else { s with faulted := true }
  | none => { s with faulted := true }

/-- The look-up for a datagram of at least one byte. -/
def prepare (a : UdpAnswers) (s : Socks5LocalUdpProxyServer) : Bool × Socks5LocalUdpProxyServer :=
  match s.connectToRemoteHost a with
  | (true, s) => s.takePacket a
  | (false, s) => (false, s)

/-- The `WSARecvFrom` at the end of the callback. -/
def wsaRecvFrom (accepted : Bool) (s : Socks5LocalUdpProxyServer) : Socks5LocalUdpProxyServer :=
  if !s.faulted && accepted then { s with pending := .serverRead ::ₘ s.pending } else s

/-- The completion callback of `start`. -/
def callback (a : UdpAnswers) (c : UdpCompletion) (s : Socks5LocalUdpProxyServer) :
    Socks5LocalUdpProxyServer :=
  match c with
  | .serverRead port numBytes status =>
    let s := { s with recvFrom := port }
    let (result, s) := if status && numBytes != 0 then s.prepare a else (true, s)
    let s := if status && result then s.dispatch true s.proxySocketPtr (forwardToRemote a) else s
    s.wsaRecvFrom a.recv
  | .remoteRead k numBytes status =>
    if status then s.dispatch true (some k) (forwardToLocal a numBytes) else s
  | .send c status =>
    if status then
      s.dispatch false (some (s.context c).proxySocket) fun _ => releaseIoContext c
    else s

/-- One pass of `clear_thread`. -/
def clear (now : TimePoint) (s : Socks5LocalUdpProxyServer) : Socks5LocalUdpProxyServer :=
  { s with
    proxySockets := s.proxySockets.sweep fun _ k => (s.socket k).isReadyForRemoval now }

/-- The socket of a call was closed, with its proxy socket. -/
def IsClosed (op : UdpOperation) (s : Socks5LocalUdpProxyServer) : Prop :=
  match op with
  | .serverRead => False
  | .remoteRead k => s.isHeld k = false
  | .send c => (s.context c).isLocal = false ∧ s.isHeld (s.context c).proxySocket = false

/-! ## Runs -/

/-- What happens to the server. -/
inductive Event where
  /-- The system completes a call. -/
  | complete (c : UdpCompletion)
  /-- The callback is called with a completion. -/
  | callback (a : UdpAnswers) (c : UdpCompletion)
  | clear (now : TimePoint)

/-- One step of the system, of the callback or of `clear_thread`. -/
inductive Step : Socks5LocalUdpProxyServer → Event → Socks5LocalUdpProxyServer → Prop
  | complete {s : Socks5LocalUdpProxyServer} {c : UdpCompletion} {rest : Multiset UdpOperation} :
      s.pending = c.operation ::ₘ rest → (s.IsClosed c.operation → c.status = false) →
      Step s (.complete c) { s with pending := rest, queue := c ::ₘ s.queue }
  | callback {s : Socks5LocalUdpProxyServer} {c : UdpCompletion} {rest : Multiset UdpCompletion}
      (a : UdpAnswers) : s.faulted = false → s.queue = c ::ₘ rest →
      Step s (.callback a c) (callback a c { s with queue := rest })
  | clear {s : Socks5LocalUdpProxyServer} (now : TimePoint) : s.faulted = false →
      Step s (.clear now) (s.clear now)

/-- The runs of a server whose first `WSARecvFrom` was accepted. -/
def system : System Socks5LocalUdpProxyServer Event where
  init s := s = { pending := {.serverRead} }
  step := Step

end Socks5LocalUdpProxyServer

end CutieProxy
