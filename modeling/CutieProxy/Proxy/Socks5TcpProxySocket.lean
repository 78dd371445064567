import CutieProxy.Proxy.TcpProxyServer
import CutieProxy.Proxy.Socks5Common

/-!
# The SOCKS5 negotiation of `socks5_tcp_proxy_socket`

The proxy socket extends `tcp_proxy_socket` by the state of its dialogue with the upstream server.
A reply is received into the image of its structure, and the handler reads the structure without
looking at how many bytes were received. `negotiate` drives the dialogue by a list of receive
completions, each with the bytes it delivers, and by an end of stream after the last of them; it
stops when no negotiation receive is pending any more, and what is left then is for the relay.
-/

namespace CutieProxy

/-- `socks5_state`. -/
inductive Socks5State where
  | preLogin
  | loginSent
  | loginResponded
  | passwordSent
  | passwordResponded
  | connectSent
  deriving DecidableEq, Repr

/-- The structure a negotiation receive writes to. -/
inductive ReplyBuffer where
  | identResp
  | connectResponse
  deriving DecidableEq, Repr

/-- The length of the receive: the size of the structure. -/
def ReplyBuffer.size : ReplyBuffer → Nat
  | .identResp => 2
  | .connectResponse => 10

/-- `socks5_tcp_proxy_socket`. -/
structure Socks5TcpProxySocket extends TcpProxySocket where
  negotiateCtx : Option NegotiateContext
  currentState : Socks5State := .preLogin
  identResp : Image 2 := identRespInit
  connectResponse : Image 10 := socks5RespInit
  /-- The accepted negotiation `WSARecv` whose completion was not dispatched yet. -/
  negotiateRecv : Option ReplyBuffer := none
  /-- The bytes of the accepted negotiation `WSASend`s, in order. -/
  sent : List UInt8 := []

namespace Socks5TcpProxySocket

/-- A change of the base class part. -/
def liftBase (f : TcpProxySocket → TcpProxySocket) (s : Socks5TcpProxySocket) :
    Socks5TcpProxySocket :=
  { s with toTcpProxySocket := f s.toTcpProxySocket }

/-- The end of every negotiation step: send `message` to the remote socket, enter the state `next`
and receive into `buffer`; a refused call closes the client, and the step goes on. -/
def sendNegotiate (ok : Accepts) (message : List UInt8) (buffer : ReplyBuffer) (next : Socks5State)
    (s : Socks5TcpProxySocket) : Socks5TcpProxySocket :=
  let s := if ok.send && (s.socket false).isSome then { s with sent := s.sent ++ message }
    else s.liftBase (·.closeClient false false)
  let s := { s with currentState := next }
  if ok.recv && (s.socket false).isSome then { s with negotiateRecv := some buffer }
  else s.liftBase (·.closeClient true false)

/-- The CONNECT request for the remote address of the context. -/
def connectRequest (ctx : NegotiateContext) : List UInt8 :=
  socks5Req 1 1 ctx.remoteAddress (htons ctx.remotePort)

/-- `remote_negotiate`: without a context the relay may start at once. -/
def remoteNegotiate (ok : Accepts) (s : Socks5TcpProxySocket) : Bool × Socks5TcpProxySocket :=
  match s.negotiateCtx with
  | none => (true, s)
  | some ctx =>
    (false, if s.currentState = .preLogin then
        s.sendNegotiate ok (identReq ctx) .identResp .loginSent
      else s)

/-- `start`. -/
def start (ok : Accepts) (recvLocal : Bool) (s : Socks5TcpProxySocket) :
    Bool × Socks5TcpProxySocket :=
  let (ready, s) := s.remoteNegotiate ok
  if ready then
    let (started, base) := s.toTcpProxySocket.startDataRelay recvLocal ok.recv
    (started, { s with toTcpProxySocket := base })
  else (false, s)

/-- The answer to a reply that selects username and password. -/
def sendUsernameAuth (ok : Accepts) (ctx : NegotiateContext) (s : Socks5TcpProxySocket) :
    Except Abort Socks5TcpProxySocket :=
  match ctx.socks5Username, ctx.socks5Password with
  | some username, some password =>
    if username.length > socks5UsernameMaxLength ∨ username.length < 1 ∨
        password.length > socks5UsernameMaxLength ∨ password.length < 1 then
      .ok (s.liftBase (·.closeClient true false))
    else do
      match ← UsernameAuth.init username password with
      | none => return s
      | some message => return s.sendNegotiate ok message .identResp .passwordSent
  | _, _ => .ok (s.liftBase (·.closeClient true false))

/-- `process_receive_negotiate_complete`; the number of bytes received is not used. -/
def processReceiveNegotiateComplete (ok : Accepts) (recvLocal : Bool) (_ioSize : Nat)
    (isLocal : Bool) (s : Socks5TcpProxySocket) : Except Abort Socks5TcpProxySocket :=
  if isLocal then .ok s
  else match s.currentState with
    | .loginSent =>
      let s : Socks5TcpProxySocket := { s with currentState := .loginResponded }
      if s.identResp.version ≠ 5 ∨ s.identResp.method = 0xFF then
        .ok (s.liftBase (·.closeClient true false))
      else match s.negotiateCtx with
        | none => .error .nullPointer
        | some ctx =>
          if s.identResp.method = 2 then s.sendUsernameAuth ok ctx
          else .ok (s.sendNegotiate ok (connectRequest ctx) .connectResponse .connectSent)
    | .passwordSent =>
      let s : Socks5TcpProxySocket := { s with currentState := .passwordResponded }
      if s.identResp.method ≠ 0 then .ok (s.liftBase (·.closeClient true false))
      else match s.negotiateCtx with
        | none => .error .nullPointer
        | some ctx => .ok (s.sendNegotiate ok (connectRequest ctx) .connectResponse .connectSent)
    | .connectSent =>
      if s.connectResponse.reply ≠ 0 then .ok (s.liftBase (·.closeClient true false))
      else .ok (s.liftBase fun base => (base.startDataRelay recvLocal ok.recv).2)
    | .preLogin | .loginResponded | .passwordResponded => .ok s

/-- The handlers of `socks5_tcp_proxy_socket`, over a process that may have ended. -/
def handlers (ok : Accepts) (recvLocal : Bool) : Handlers (Except Abort Socks5TcpProxySocket) where
  closeClient isReceive isLocal s := s.map (liftBase (·.closeClient isReceive isLocal))
  processReceiveBufferComplete ioSize isLocal s :=
    s.map (liftBase (·.processReceiveBufferComplete ok ioSize isLocal))
  processSendBufferComplete ioSize isLocal s :=
    s.map (liftBase (·.processSendBufferComplete ok ioSize isLocal))
  processReceiveNegotiateComplete ioSize isLocal s :=
    s.bind (processReceiveNegotiateComplete ok recvLocal ioSize isLocal)
  processSendNegotiateComplete _ _ s := s

/-! ## The dialogue -/

/-- The pending negotiation receive is over; it wrote `data` to its structure. -/
def finishNegotiateRecv (buffer : ReplyBuffer) (data : List UInt8) (s : Socks5TcpProxySocket) :
    Socks5TcpProxySocket :=
  match buffer with
  | .identResp => { s with identResp := s.identResp.overlay data, negotiateRecv := none }
  | .connectResponse =>
    { s with connectResponse := s.connectResponse.overlay data, negotiateRecv := none }

/-- The pending negotiation receive completes with `data`, which is empty at the end of the stream.
Every call the handler issues is accepted. -/
def deliver (buffer : ReplyBuffer) (data : List UInt8) (s : Socks5TcpProxySocket) :
    Except Abort Socks5TcpProxySocket :=
  (completionCallback (handlers ⟨true, true⟩ true) false .negotiateIoRead false data.length true
    (.ok (s.finishNegotiateRecv buffer data))).2

/-- The negotiation over the completions `chunks` and the end of the stream after them, with the
completions that are left when it is over. -/
def negotiate : List (List UInt8) → Socks5TcpProxySocket →
    Except Abort (Socks5TcpProxySocket × List (List UInt8))
  | chunks, s =>
    match s.negotiateRecv with
    | none => .ok (s, chunks)
    | some buffer =>
      match chunks with
      | [] => (s.deliver buffer []).map fun s => (s, [])
      | chunk :: chunks => (s.deliver buffer chunk).bind (negotiate chunks)

/-- The completions can be dispatched: each delivers at least one byte and at most the structure
its receive was issued for. -/
def Deliverable : List (List UInt8) → Socks5TcpProxySocket → Prop
  | [], _ => True
  | chunk :: chunks, s =>
    match s.negotiateRecv with
    | none => True
    | some buffer => 1 ≤ chunk.length ∧ chunk.length ≤ buffer.size ∧
      match s.deliver buffer chunk with
      | .ok s => Deliverable chunks s
      | .error _ => True

/-- A connected socket with a context, as `tcp_proxy_server` builds it for a pair of sockets. -/
def create (localSocket remoteSocket : Socket) (ctx : NegotiateContext) : Socks5TcpProxySocket where
  toTcpProxySocket :=
    (TcpProxySocket.create localSocket remoteSocket).associateToCompletionPort
  negotiateCtx := some ctx

/-- A whole negotiation over the completions `chunks`, from the greeting on. -/
def run (localSocket remoteSocket : Socket) (ctx : NegotiateContext) (chunks : List (List UInt8)) :
    Except Abort (Socks5TcpProxySocket × List (List UInt8)) :=
  negotiate chunks ((create localSocket remoteSocket ctx).start ⟨true, true⟩ true).2

/-- The relay was started: a receive is pending on either socket. -/
def relayStarted (s : Socks5TcpProxySocket) : Bool :=
  (s.relay true).recvOp.isSome && (s.relay false).recvOp.isSome

end Socks5TcpProxySocket

end CutieProxy
