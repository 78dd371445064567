import CutieProxy.Proxy.RelayRemoval
import CutieProxy.Proxy.Socks5TcpProxySocket

/-!
# The threads of `tcp_proxy_server`

`start_proxy_thread` accepts connections and opens a remote socket for each of them;
`connect_to_remote_host_thread` builds a proxy socket of the two when it is told that the connect is
over; `clear_thread` destroys the proxy sockets that are ready for removal; the threads of the
completion port call the callback; `stop` ends the threads and destroys what is left. The element of
`sock_array_events_` with the event that wakes the connect thread holds no connection and is left
out, and so are the other events. What the system and the peers do is part of a step.

A `Socket` is one open socket, numbered when it is opened; the value the system gives it may be
given again to another one when it is closed. A server that is started again after `stop` has no
server socket and accepts nothing.
-/

namespace CutieProxy

open Transition

/-! ## Completions of a proxy socket -/

/-- The completion of a call of a `socks5_tcp_proxy_socket`: what was received, or how many bytes
were sent, and the status. -/
inductive ProxyCompletion where
  | relayRead (isLocal : Bool) (data : List UInt8) (status : Bool)
  | relayWrite (isLocal : Bool) (numBytes : Nat) (status : Bool)
  | negotiateRead (data : List UInt8) (status : Bool)
  | negotiateWrite (numBytes : Nat) (status : Bool)

namespace Socks5TcpProxySocket

/-- The call is pending. The sends of the negotiation are not recorded. -/
def IsPending (s : Socks5TcpProxySocket) : ProxyCompletion → Prop
  | .relayRead isLocal data _ => ∃ w, (s.relay isLocal).recvOp = some w ∧ data.length ≤ w.len
  | .relayWrite isLocal numBytes _ =>
    ∃ w, (s.relay (!isLocal)).sendOp = some w ∧ numBytes ≤ w.len
  | .negotiateRead data _ =>
    ∃ buffer, s.negotiateRecv = some buffer ∧ data.length ≤ buffer.size
  | .negotiateWrite _ _ => True

/-- The call is over, and what was received is in its buffer. -/
def finish (s : Socks5TcpProxySocket) : ProxyCompletion → Socks5TcpProxySocket
  | .relayRead isLocal data _ =>
    match (s.relay isLocal).recvOp with
    | some w => s.liftBase (RelayRun.finishRecv isLocal w data)
    | none => s
  | .relayWrite isLocal _ _ => s.liftBase (RelayRun.finishSend isLocal)
  | .negotiateRead data _ =>
    match s.negotiateRecv with
    | some buffer => s.finishNegotiateRecv buffer data
    | none => s
  | .negotiateWrite _ _ => s

/-- The callback of the server for a completion. -/
def dispatch (endServer : Bool) (ok : Accepts) (recvLocal : Bool) (c : ProxyCompletion)
    (s : Socks5TcpProxySocket) : Except Abort Socks5TcpProxySocket :=
  let callback ioOperation isLocal numBytes status := (completionCallback (handlers ok recvLocal)
    endServer ioOperation isLocal numBytes status (.ok (s.finish c))).2
  match c with
  | .relayRead isLocal data status => callback .relayIoRead isLocal data.length status
  | .relayWrite isLocal numBytes status => callback .relayIoWrite isLocal numBytes status
  | .negotiateRead data status => callback .negotiateIoRead false data.length status
  | .negotiateWrite numBytes status => callback .negotiateIoWrite false numBytes status

end Socks5TcpProxySocket

/-- The destructor of `tcp_proxy_socket`. -/
def TcpProxySocket.destroy (s : TcpProxySocket) : TcpProxySocket :=
  (s.closeSocket true).closeSocket false

/-! ## The server -/

/-- An element of `sock_array_events_`; `none` is `INVALID_SOCKET`. -/
structure PendingConnection where
  accepted : Option Socket
  remote : Option Socket
  negotiateCtx : Option NegotiateContext

/-- The proxy socket for a connection, associated to the completion port. -/
def PendingConnection.proxySocket (e : PendingConnection) : Socks5TcpProxySocket where
  toTcpProxySocket := TcpProxySocket.associateToCompletionPort
    { socket := fun isLocal => if isLocal then e.accepted else e.remote }
  negotiateCtx := e.negotiateCtx

/-- Where `start_proxy_thread` is, with the handles in its variables. -/
inductive AcceptThread where
  /-- In `WSAAccept`, or at the head of the loop. -/
  | accepting
  /-- In `connect_to_remote_host`, with no remote socket. -/
  | accepted (socket : Socket)
  /-- There, between the element for `sock_array_events_` and the end of `connect`. -/
  | connecting (accepted remote : Socket)
  /-- `connect_to_remote_host` returned false. -/
  | refused (accepted : Socket)
  | exited
  deriving DecidableEq, Repr

/-- The element is for the connection whose `connect` is not over. -/
def AcceptThread.IsConnecting (e : PendingConnection) : AcceptThread → Prop
  | .connecting h _ => e.accepted = some h
  | _ => False

/-- `tcp_proxy_server`, with its threads. -/
structure TcpProxyServer where
  endServer : Bool := false
  acceptThread : AcceptThread := .accepting
  /-- `connect_to_remote_host_thread` runs. -/
  connectThread : Bool := true
  /-- The sockets that were opened. -/
  socketCount : Nat := 0
  sockArrayEvents : List PendingConnection := []
  proxySockets : List Socks5TcpProxySocket := []
  /-- The handles the server and the proxy sockets that were destroyed passed to `closesocket`,
  oldest first. -/
  closed : List Socket := []

namespace TcpProxyServer

/-- What happens to the server. -/
inductive Event where
  | accept
  /-- The accepted connection has no remote peer, or no remote socket could be opened. -/
  | noRemote
  | bindFailed
  | push (negotiateCtx : Option NegotiateContext)
  /-- `connect` succeeds, or goes on (`WSAEWOULDBLOCK`). -/
  | connected
  /-- `connect` fails with another error. -/
  | connectFailed
  | closeAccepted
  /-- The loop ends; a handle that is accepted when it does is left open. -/
  | exitAccept
  /-- The connect thread takes an element, and starts the proxy socket. -/
  | take (e : PendingConnection) (ok : Accepts) (recvLocal : Bool)
  /-- The connect thread closes what is left on its exit. -/
  | exitConnect
  /-- The callback is called with a completion of a proxy socket. -/
  | complete (p : Socks5TcpProxySocket) (c : ProxyCompletion) (ok : Accepts) (recvLocal : Bool)
  /-- `clear_thread` asks a proxy socket whether it is ready for removal. -/
  | clear (p : Socks5TcpProxySocket) (expired : Bool)
  /-- The first part of `stop`. -/
  | stop
  /-- `stop` goes on when the threads have ended. -/
  | join

/-- The pass of `clear_thread` is at the element `p`. -/
def clear (expired : Bool) (l : List Socks5TcpProxySocket) (p : Socks5TcpProxySocket)
    (r : List Socks5TcpProxySocket) (s : TcpProxyServer) : TcpProxyServer :=
  let (ready, base) := p.toTcpProxySocket.isReadyForRemoval expired
  if ready then { s with proxySockets := l ++ r, closed := s.closed ++ base.destroy.closed }
  else { s with proxySockets := l ++ { p with toTcpProxySocket := base } :: r }

/-- The exit of the connect thread. -/
def exitConnect (s : TcpProxyServer) : TcpProxyServer :=
  { s with
    connectThread := false
    closed := s.closed ++
      s.sockArrayEvents.flatMap fun e => e.accepted.toList ++ e.remote.toList
    sockArrayEvents := s.sockArrayEvents.map fun e => ⟨none, none, e.negotiateCtx⟩ }

/-- The end of `stop`. -/
def join (s : TcpProxyServer) : TcpProxyServer :=
  { s with
    sockArrayEvents := []
    proxySockets := []
    closed := s.closed ++ s.proxySockets.flatMap fun p => p.toTcpProxySocket.destroy.closed }

/-- One step of a thread. -/
inductive Step : TcpProxyServer → Event → TcpProxyServer → Prop
  | accept {s : TcpProxyServer} : s.acceptThread = .accepting → s.endServer = false →
      Step s .accept
        { s with acceptThread := .accepted s.socketCount, socketCount := s.socketCount + 1 }
  | noRemote {s : TcpProxyServer} {h : Socket} : s.acceptThread = .accepted h →
      Step s .noRemote { s with acceptThread := .refused h }
  | bindFailed {s : TcpProxyServer} {h : Socket} : s.acceptThread = .accepted h →
      Step s .bindFailed { s with
        acceptThread := .refused h
        socketCount := s.socketCount + 1
        closed := s.closed ++ [s.socketCount] }
  | push {s : TcpProxyServer} {h : Socket} (negotiateCtx : Option NegotiateContext) :
      s.acceptThread = .accepted h →
      Step s (.push negotiateCtx) { s with
        acceptThread := .connecting h s.socketCount
        socketCount := s.socketCount + 1
        sockArrayEvents := s.sockArrayEvents ++ [⟨some h, some s.socketCount, negotiateCtx⟩] }
  | connected {s : TcpProxyServer} {h r : Socket} : s.acceptThread = .connecting h r →
      Step s .connected { s with acceptThread := .accepting }
  | connectFailed {s : TcpProxyServer} {h r : Socket} : s.acceptThread = .connecting h r →
      Step s .connectFailed { s with acceptThread := .refused h, closed := s.closed ++ [r] }
  | closeAccepted {s : TcpProxyServer} {h : Socket} : s.acceptThread = .refused h →
      Step s .closeAccepted { s with acceptThread := .accepting, closed := s.closed ++ [h] }
  | exitAccept {s : TcpProxyServer} : s.acceptThread = .accepting →
      Step s .exitAccept { s with acceptThread := .exited }
  /-- Which element is taken is up to `wait_for_multiple_objects`; every call on a remote socket
  whose `connect` was not called yet is refused. -/
  | take {s : TcpProxyServer} {l r : List PendingConnection} {e : PendingConnection} (ok : Accepts)
      (recvLocal : Bool) : s.connectThread = true → s.sockArrayEvents = l ++ e :: r →
      (s.acceptThread.IsConnecting e → ok = ⟨false, false⟩) →
      Step s (.take e ok recvLocal) { s with
        sockArrayEvents := l ++ r
        proxySockets := s.proxySockets ++ [(e.proxySocket.start ok recvLocal).2] }
  | exitConnect {s : TcpProxyServer} : s.connectThread = true → s.endServer = true →
      Step s .exitConnect s.exitConnect
  | complete {s : TcpProxyServer} {l r : List Socks5TcpProxySocket} {p q : Socks5TcpProxySocket}
      (c : ProxyCompletion) (ok : Accepts) (recvLocal : Bool) :
      s.proxySockets = l ++ p :: r → p.IsPending c →
      p.dispatch s.endServer ok recvLocal c = .ok q →
      Step s (.complete p c ok recvLocal) { s with proxySockets := l ++ q :: r }
  | clear {s : TcpProxyServer} {l r : List Socks5TcpProxySocket} {p : Socks5TcpProxySocket}
      (expired : Bool) : s.proxySockets = l ++ p :: r →
      Step s (.clear p expired) (s.clear expired l p r)
  | stop {s : TcpProxyServer} : s.endServer = false →
      Step s .stop { s with endServer := true }
  | join {s : TcpProxyServer} : s.endServer = true → s.acceptThread = .exited →
      s.connectThread = false → Step s .join s.join

/-- The runs of a server that was started. -/
def system : System TcpProxyServer Event where
  init s := s = {}
  step := Step

end TcpProxyServer

end CutieProxy
