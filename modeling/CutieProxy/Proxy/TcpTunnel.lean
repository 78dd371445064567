import CutieProxy.Proxy.RelaySafe
import CutieProxy.Proxy.Socks5Correct

/-!
# A connection through the SOCKS5 server

`Socks5Dialogue` is about a negotiation whose calls are accepted and `RelaySafe` about a relay from
its start on. `TcpTunnel` is a connection from `start` to its end: the completions of the
negotiation receives, the failures of the negotiation sends and the completions of the relay calls,
in any order and with any call refused. `relays_after_dialogue` says that no byte of a peer is
received before the server granted the connection (`Granted`), that the bytes sent are the first
ones received, and that an open connection always waits for a call.

A connection is in one of three phases (`Phase`): it waits for a reply that the phases of
`Socks5Dialogue` account for, it relays, or it was closed without having received a byte.
-/

namespace CutieProxy

open Socks5TcpProxySocket Transition

/-- A `socks5_tcp_proxy_socket` with the replies it was delivered and, for either peer, the history
of the relay. -/
structure TcpTunnel where
  socket : Socks5TcpProxySocket
  /-- The bytes of each negotiation receive that completed. -/
  replies : List (List UInt8) := []
  /-- The bytes received from a peer. -/
  received : Bool → List UInt8 := fun _ => []
  /-- The array cells the received bytes were stored in. -/
  stored : Bool → List Nat := fun _ => []
  /-- The bytes of a peer reported sent to the other one. -/
  sent : Bool → List UInt8 := fun _ => []
  /-- Those of them that were reported while the socket of the other peer was open. -/
  forwarded : Bool → List UInt8 := fun _ => []
  /-- The peer's end of stream was dispatched. -/
  ended : Bool → Bool := fun _ => false
  /-- The sends that were in flight when an end of stream closed the connection. -/
  cut : Bool → Option WsaBuf := fun _ => none

namespace TcpTunnel

/-- The relay of the base class with its history. -/
def relayRun (x : TcpTunnel) : RelayRun where
  socket := x.socket.toTcpProxySocket
  received := x.received
  stored := x.stored
  sent := x.sent
  forwarded := x.forwarded
  ended := x.ended
  cut := x.cut

/-- The tunnel after its relay took a step. -/
def withRelay (r : RelayRun) (x : TcpTunnel) : TcpTunnel where
  socket := { x.socket with toTcpProxySocket := r.socket }
  replies := x.replies
  received := r.received
  stored := r.stored
  sent := r.sent
  forwarded := r.forwarded
  ended := r.ended
  cut := r.cut

/-- The callback of a running server on this socket. -/
def callback (ok : Accepts) (recvLocal : Bool) (ioOperation : ProxyIoOperation) (isLocal : Bool)
    (numBytes : Nat) (status : Bool) (s : Socks5TcpProxySocket) :
    Except Abort Socks5TcpProxySocket :=
  (completionCallback (handlers ok recvLocal) false ioOperation isLocal numBytes status (.ok s)).2

/-- A completion that is dispatched. -/
inductive Event where
  /-- Of a relay call. -/
  | relay (e : RelayEvent)
  /-- Of the negotiation receive, with these bytes. -/
  | reply (data : List UInt8) (ok : Accepts) (recvLocal : Bool)
  /-- Of the negotiation receive, with no byte or with a failure. -/
  | replyEnds (status : Bool)
  /-- Of a negotiation send that failed. -/
  | requestFails

/-- A completion is dispatched. A negotiation send that succeeds changes nothing, one that fails may
be any that was accepted. The step does not exist where the handler ends the process. -/
inductive Step : TcpTunnel → Event → TcpTunnel → Prop
  | relay {x : TcpTunnel} {e : RelayEvent} {r : RelayRun} :
      RelayStep x.relayRun e r → Step x (.relay e) (x.withRelay r)
  | reply {x : TcpTunnel} {buffer : ReplyBuffer} {data : List UInt8} {ok : Accepts}
      {recvLocal : Bool} {s : Socks5TcpProxySocket} :
      x.socket.negotiateRecv = some buffer → 1 ≤ data.length → data.length ≤ buffer.size →
      callback ok recvLocal .negotiateIoRead false data.length true
        (x.socket.finishNegotiateRecv buffer data) = .ok s →
      Step x (.reply data ok recvLocal)
        { x with
          socket := s
          replies := x.replies ++ [data] }
  | replyEnds {x : TcpTunnel} {buffer : ReplyBuffer} {status : Bool} {s : Socks5TcpProxySocket} :
      x.socket.negotiateRecv = some buffer →
      callback ⟨true, true⟩ true .negotiateIoRead false 0 status
        (x.socket.finishNegotiateRecv buffer []) = .ok s →
      Step x (.replyEnds status) { x with socket := s }
  | requestFails {x : TcpTunnel} {s : Socks5TcpProxySocket} :
      x.socket.sent ≠ [] →
      callback ⟨true, true⟩ true .negotiateIoWrite false 0 false x.socket = .ok s →
      Step x .requestFails { x with socket := s }

/-- A connection to the server from `start` on, for the context `ctx`. -/
def system (localSocket remoteSocket : Socket) (ctx : NegotiateContext) :
    System TcpTunnel Event where
  init x := ∃ ok recvLocal,
    x = { socket := ((create localSocket remoteSocket ctx).start ok recvLocal).2 }
  step := Step

/-- The greeting for the credentials of a context. -/
def greeting (ctx : NegotiateContext) : List UInt8 :=
  [5, UInt8.ofNat (offeredMethods ctx).length] ++ offeredMethods ctx

/-- The CONNECT request for the destination of a context. -/
def connectTo (ctx : NegotiateContext) : List UInt8 :=
  [5, 1, 0, 1] ++ ctx.remoteAddress.toBytes ++ beBytes ctx.remotePort

/-- A reply that grants a connection: if its code was received, it is 0. -/
def Connects (reply : List UInt8) : Prop := reply ≠ [] ∧ ∀ code ∈ reply[1]?, code = 0

/-- The replies grant a connection, one that was asked for with these bytes: a method reply of
version 5, a status reply with status 0 where the method is 2, and a CONNECT reply. -/
inductive Granted (ctx : NegotiateContext) : List (List UInt8) → List UInt8 → Prop
  /-- Without credentials. A method that is neither 0 nor 2 was not offered, and is taken for 0. -/
  | plain {method connect : List UInt8} (hversion : method[0]? = some 5)
    (hmethod : ∀ m ∈ method[1]?, m ≠ 2 ∧ m ≠ 0xFF) (hconnect : Connects connect) :
    Granted ctx [method, connect] (greeting ctx ++ connectTo ctx)
  /-- With the credentials of the context, each up to its first zero. -/
  | password {method status connect username password : List UInt8}
    (hversion : method[0]? = some 5) (hmethod : method[1]? = some 2)
    (hcredentials : ctx.Usable username password) (hstatus : status[1]? = some 0)
    (hconnect : Connects connect) :
    Granted ctx [method, status, connect] (greeting ctx ++ UsernameAuth.rfc1929
      (UsernameAuth.zeroTail username) (UsernameAuth.zeroTail password) ++ connectTo ctx)

end TcpTunnel

/-! ## A handler that is refused a call, or comes late -/

namespace Socks5TcpProxySocket

open TcpProxySocket (Quiet)

variable {s s' : Socks5TcpProxySocket} {ok : Accepts} {message : List UInt8} {buffer : ReplyBuffer}
  {next : Socks5State} {ctx : NegotiateContext} {recvLocal : Bool} {n : Nat}

/-- The end of a negotiation step on a closed connection issues no call. -/
theorem quiet_sendNegotiate (h : s.IsClosed) :
    Quiet s.toTcpProxySocket (s.sendNegotiate ok message buffer next).toTcpProxySocket := by
  have hsend := h.closeClient (b := false) false
  unfold sendNegotiate
  simp only [h.closed, Option.isSome_none, Bool.and_false, Bool.false_eq_true, if_false, liftBase,
    hsend.isClosed.closed]
  exact hsend.trans (hsend.isClosed.closeClient true)

/-- The end of a negotiation step sends its message and waits for the reply, or closes the
connection. -/
theorem sendNegotiate_cases (hopen : ∀ b, (s.socket b).isSome) :
    s.sendNegotiate ok message buffer next =
        { s with
          sent := s.sent ++ message
          currentState := next
          negotiateRecv := some buffer } ∨
      Quiet s.toTcpProxySocket (s.sendNegotiate ok message buffer next).toTcpProxySocket := by
  obtain ⟨send, recv⟩ := ok
  unfold sendNegotiate
  cases send with
  | true =>
    simp only [hopen, Bool.and_true, if_true]
    cases recv with
    | true => exact .inl rfl
    | false => exact .inr (TcpProxySocket.closeClient_open (hopen false) true)
  | false =>
    have hsend := TcpProxySocket.closeClient_open (hopen false) false
    refine .inr ?_
    simp only [Bool.false_and, Bool.false_eq_true, if_false, liftBase, hsend.isClosed.closed,
      Option.isSome_none, Bool.and_false]
    exact hsend.trans (hsend.isClosed.closeClient true)

/-- A relay that is started on a closed connection issues no call. -/
theorem quiet_startDataRelay {base : TcpProxySocket} (h : base.IsClosed)
    (recvLocal recvRemote : Bool) :
    Quiet base (base.startDataRelay recvLocal recvRemote).2 := by
  have hclose := h.closeClient (b := true) true
  unfold TcpProxySocket.startDataRelay
  simp only [h.closed, Option.isSome_none, Bool.and_false, Bool.false_eq_true, if_false]
  exact hclose.trans (hclose.isClosed.modifyRelay rfl rfl)

/-- A reply on a closed connection issues no call. -/
theorem quiet_process (h : s.IsClosed)
    (hs : s.processReceiveNegotiateComplete ok recvLocal n false = .ok s') :
    Quiet s.toTcpProxySocket s'.toTcpProxySocket := by
  have hclose := h.closeClient (b := false) true
  cases hstate : s.currentState with
  | loginSent =>
    simp only [processReceiveNegotiateComplete, hstate, Bool.false_eq_true, if_false] at hs
    split at hs
    · cases hs
      exact hclose
    split at hs
    · cases hs
    split at hs
    · next ctx _ _ =>
      rw [sendUsernameAuth_eq] at hs
      cases hauth : authMessage ctx with
      | error e =>
        rw [hauth] at hs
        cases hs
      | ok message =>
        rw [hauth] at hs
        cases message with
        | none =>
          cases hs
          exact hclose
        | some message =>
          cases hs
          exact quiet_sendNegotiate (s := { s with currentState := .loginResponded }) h
    · cases hs
      exact quiet_sendNegotiate (s := { s with currentState := .loginResponded }) h
  | passwordSent =>
    simp only [processReceiveNegotiateComplete, hstate, Bool.false_eq_true, if_false] at hs
    split at hs
    · cases hs
      exact hclose
    split at hs
    · cases hs
    · cases hs
      exact quiet_sendNegotiate (s := { s with currentState := .passwordResponded }) h
  | connectSent =>
    rw [process_connectSent hstate] at hs
    split at hs
    · cases hs
      exact quiet_startDataRelay h _ _
    · cases hs
      exact hclose
  | preLogin | loginResponded | passwordResponded =>
    simp only [processReceiveNegotiateComplete, hstate, Bool.false_eq_true, if_false] at hs
    cases hs
    exact .refl h

end Socks5TcpProxySocket

/-! ## The phases of a connection -/

namespace TcpTunnel

open TcpProxySocket (Quiet)

/-- The state a machine waits in, the structure it receives into, its method reply and what it sent,
by the replies it was delivered. -/
inductive Expects (localSocket remoteSocket : Socket) (ctx : NegotiateContext) :
    Socks5State → ReplyBuffer → Image 2 → List UInt8 → List (List UInt8) → Prop
  | login : Expects localSocket remoteSocket ctx .loginSent .identResp identRespInit
      (identReq ctx) []
  | password {identResp sent replies} : identResp.method = 2 →
      (∀ rest, loginPhase localSocket remoteSocket ctx (replies ++ rest) =
        .ok (passwordPhase localSocket remoteSocket ctx sent rest)) →
      Expects localSocket remoteSocket ctx .passwordSent .identResp identResp sent replies
  | connect {identResp sent replies} :
      (∀ rest, loginPhase localSocket remoteSocket ctx (replies ++ rest) =
        .ok (connectPhase localSocket remoteSocket sent rest)) →
      Expects localSocket remoteSocket ctx .connectSent .connectResponse identResp sent replies

/-- The phase of a connection. -/
inductive Phase (localSocket remoteSocket : Socket) (ctx : NegotiateContext) : TcpTunnel → Prop
  /-- It waits for a reply. -/
  | waiting {state buffer identResp sent replies} :
      Expects localSocket remoteSocket ctx state buffer identResp sent replies →
      Phase localSocket remoteSocket ctx
        { socket := awaiting localSocket remoteSocket ctx state buffer identResp sent
          replies := replies }
  /-- It was closed before it relayed. -/
  | refused {s replies} : s.IsClosed →
      (∀ b, (s.relay b).recvOp = none ∧ (s.relay b).sendOp = none) →
      Phase localSocket remoteSocket ctx { socket := s, replies := replies }
  /-- The dialogue succeeded, and it relays. -/
  | relaying {x : TcpTunnel} :
      loginPhase localSocket remoteSocket ctx x.replies = .ok (relaying x.socket.sent, []) →
      x.socket.negotiateRecv = none → x.relayRun.Safe → Phase localSocket remoteSocket ctx x

variable {localSocket remoteSocket : Socket} {ctx : NegotiateContext} {x y : TcpTunnel}
  {s : Socks5TcpProxySocket} {base : TcpProxySocket} {sent : List UInt8}
  {replies : List (List UInt8)} {data : List UInt8} {ok : Accepts} {recvLocal : Bool} {e : Event}

/-- A handler that only closes a connection that did not relay refuses it. -/
theorem Phase.close (h : Quiet base s.toTcpProxySocket)
    (hidle : ∀ b, (base.relay b).recvOp = none ∧ (base.relay b).sendOp = none) :
    Phase localSocket remoteSocket ctx { socket := s, replies := replies } :=
  .refused h.isClosed fun b =>
    ⟨(h.recvOp b).trans (hidle b).1, (h.sendOp b).trans (hidle b).2⟩

/-- The connection the negotiation works on has no relay call. -/
theorem idle_create (localSocket remoteSocket : Socket) (b : Bool) :
    (((TcpProxySocket.create localSocket remoteSocket).associateToCompletionPort.relay b).recvOp =
      none) ∧
    (((TcpProxySocket.create localSocket remoteSocket).associateToCompletionPort.relay b).sendOp =
      none) := ⟨rfl, rfl⟩

theorem open_create (localSocket remoteSocket : Socket) (b : Bool) :
    ((TcpProxySocket.create localSocket remoteSocket).associateToCompletionPort.socket b).isSome :=
  rfl

/-- Without a relay call the relay takes no step. -/
theorem not_relayStep {e : RelayEvent} {r : RelayRun}
    (hidle : ∀ b, (x.socket.relay b).recvOp = none ∧ (x.socket.relay b).sendOp = none) :
    ¬ RelayStep x.relayRun e r := by
  have hrecv : ∀ {b w}, ¬ (x.relayRun.socket.relay b).recvOp = some w := fun {b w} hw => by
    rw [show (x.relayRun.socket.relay b).recvOp = none from (hidle b).1] at hw
    cases hw
  have hsend : ∀ {b w}, ¬ (x.relayRun.socket.relay b).sendOp = some w := fun {b w} hw => by
    rw [show (x.relayRun.socket.relay b).sendOp = none from (hidle b).2] at hw
    cases hw
  intro hstep
  cases hstep with
  | received hop | endOfStream hop | recvFailed hop => exact hrecv hop
  | sent hop | sendFailed hop => exact hsend hop

/-- A relay that is started with its calls accepted or refused, in whichever combination. -/
theorem safe_startDataRelay (localSocket remoteSocket : Socket) (recvLocal recvRemote : Bool) :
    RelayRun.Safe { socket := ((TcpProxySocket.create localSocket
      remoteSocket).associateToCompletionPort.startDataRelay recvLocal recvRemote).2 } := by
  by_cases haccepted : recvLocal = true ∧ recvRemote = true
  · obtain ⟨rfl, rfl⟩ := haccepted
    exact (RelayRun.Flowing.init ⟨localSocket, remoteSocket, rfl⟩).safe
  · refine ⟨fun b => ⟨[], rfl, ?_⟩, .inr ?_⟩
    · refine Relay.Backed.of_receive ?_ fun w hw => ?_
      · cases recvLocal <;> cases recvRemote <;> cases b <;> rfl
      · -- a receive is pending on the local socket when it was the other one that was refused
        have hwindow : w = ⟨sendReceiveBufferSize, 0⟩ := by
          cases recvLocal <;> cases recvRemote <;> cases b <;> cases hw <;> rfl
        subst hwindow
        exact le_rfl
    · cases recvLocal <;> cases recvRemote
      · exact ⟨rfl, fun b => by cases b <;> rfl⟩
      · exact ⟨rfl, fun b => by cases b <;> rfl⟩
      · exact ⟨rfl, fun b => by cases b <;> rfl⟩
      · exact absurd ⟨rfl, rfl⟩ haccepted

/-- A negotiation step that waits for the next reply, or refuses the connection. -/
theorem Phase.sendNegotiate {message : List UInt8} {buffer : ReplyBuffer} {next : Socks5State}
    (hbase : s.toTcpProxySocket =
      (TcpProxySocket.create localSocket remoteSocket).associateToCompletionPort)
    (hctx : s.negotiateCtx = some ctx) (hresponse : s.connectResponse = socks5RespInit)
    (hexpects : Expects localSocket remoteSocket ctx next buffer s.identResp (s.sent ++ message)
      replies) :
    Phase localSocket remoteSocket ctx
      { socket := s.sendNegotiate ok message buffer next, replies := replies } := by
  have hopen : ∀ b, (s.socket b).isSome := by
    rw [hbase]
    exact open_create _ _
  rcases @sendNegotiate_cases s ok message buffer next hopen with heq | hquiet
  · rw [heq]
    obtain ⟨_, _, _, _, _, _, _⟩ := s
    cases hbase
    cases hctx
    cases hresponse
    exact .waiting hexpects
  · refine .close hquiet ?_
    rw [hbase]
    exact idle_create _ _

/-- The callback hands a reply of at least one byte to its handler. -/
theorem callback_reply (hn : 1 ≤ data.length) (s : Socks5TcpProxySocket) :
    callback ok recvLocal .negotiateIoRead false data.length true s =
      s.processReceiveNegotiateComplete ok recvLocal data.length false := by
  have : data.length ≠ 0 := by omega
  simp [callback, completionCallback, handlers, this, Except.bind]

/-- The callback closes the connection when a negotiation receive gets nothing. -/
theorem callback_replyEnds {status : Bool} (s : Socks5TcpProxySocket) :
    callback ok recvLocal .negotiateIoRead false 0 status s =
      .ok (s.liftBase (·.closeClient true false)) := by
  cases status <;> rfl

/-- The callback closes the connection when a negotiation send fails. -/
theorem callback_requestFails (n : Nat) (s : Socks5TcpProxySocket) :
    callback ok recvLocal .negotiateIoWrite false n false s =
      .ok (s.liftBase (·.closeClient false false)) := by
  simp [callback, completionCallback, handlers, Except.map]

/-- The structures a reply is received into are no part of the base class. -/
theorem finishNegotiateRecv_base (buffer : ReplyBuffer) (data : List UInt8)
    (s : Socks5TcpProxySocket) :
    (s.finishNegotiateRecv buffer data).toTcpProxySocket = s.toTcpProxySocket := by
  cases buffer <;> rfl

/-- A connection that is closed while it waits. -/
theorem Phase.closes (hbase : s.toTcpProxySocket =
      (TcpProxySocket.create localSocket remoteSocket).associateToCompletionPort) :
    Phase localSocket remoteSocket ctx
      { socket := s.liftBase (·.closeClient true false), replies := replies } := by
  refine @Phase.close _ _ _ _ s.toTcpProxySocket _ (TcpProxySocket.closeClient_open ?_ true) ?_
  · rw [hbase]
    rfl
  · rw [hbase]
    exact idle_create _ _

/-- The method reply: the server wants the password, the CONNECT request comes next, or the
connection is closed. -/
theorem Phase.replyLogin (hne : data ≠ [])
    (hs : ((awaiting localSocket remoteSocket ctx .loginSent .identResp identRespInit
      (identReq ctx)).finishNegotiateRecv .identResp data).processReceiveNegotiateComplete ok
        recvLocal data.length false = .ok s) :
    Phase localSocket remoteSocket ctx { socket := s, replies := [data] } := by
  rw [process_loginSent ctx rfl rfl, show Image.version _ = data.getD 0 5 from rfl,
    show Image.method _ = data.getD 1 0 from rfl] at hs
  have hphase : ∀ rest, loginPhase localSocket remoteSocket ctx ([data] ++ rest) =
      loginPhase localSocket remoteSocket ctx (data :: rest) := fun _ => rfl
  split at hs
  · cases hs
    exact .closes rfl
  next hversion =>
  split at hs
  · next hmethod =>
    rw [sendUsernameAuth_eq] at hs
    cases hauth : authMessage ctx with
    | error e =>
      rw [hauth] at hs
      cases hs
    | ok message =>
      rw [hauth] at hs
      cases message with
      | none =>
        cases hs
        exact .closes rfl
      | some message =>
        cases hs
        refine .sendNegotiate rfl rfl rfl (.password hmethod fun rest => ?_)
        rw [hphase, loginPhase, if_neg (by simp only [hne, false_or]; exact hversion),
          if_pos hmethod, hauth]
        rfl
  · next hmethod =>
    cases hs
    refine .sendNegotiate rfl rfl rfl (.connect fun rest => ?_)
    rw [hphase, loginPhase, if_neg (by simp only [hne, false_or]; exact hversion), if_neg hmethod]
    rfl

/-- A reply that is waited for. -/
theorem Phase.reply {state : Socks5State} {buffer : ReplyBuffer} {identResp : Image 2}
    (hexpects : Expects localSocket remoteSocket ctx state buffer identResp sent replies)
    (hn : 1 ≤ data.length)
    (hs : ((awaiting localSocket remoteSocket ctx state buffer identResp sent).finishNegotiateRecv
      buffer data).processReceiveNegotiateComplete ok recvLocal data.length false = .ok s) :
    Phase localSocket remoteSocket ctx { socket := s, replies := replies ++ [data] } := by
  have hne : data ≠ [] := by
    rintro rfl
    simp at hn
  cases hexpects with
  | login => exact .replyLogin hne hs
  | password hmethod hphase =>
    rw [process_passwordSent ctx rfl rfl] at hs
    split at hs
    · next hstatus =>
      cases hs
      refine .sendNegotiate rfl rfl rfl (.connect fun rest => ?_)
      have hzero : data.getD 1 2 = 0 := by
        rw [← hmethod]
        exact hstatus
      rw [List.append_assoc, hphase, List.singleton_append, passwordPhase, if_pos ⟨hne, hzero⟩]
      rfl
    · cases hs
      exact .closes rfl
  | connect hphase =>
    rw [process_connectSent rfl, show Image.reply _ = data.getD 1 0 from rfl] at hs
    split at hs
    · next hreply =>
      cases hs
      refine .relaying ?_ rfl (safe_startDataRelay _ _ _ _)
      rw [hphase, connectPhase, if_pos ⟨hne, hreply⟩]
      rfl
    · cases hs
      exact .closes rfl

/-- Every completion keeps a connection in one of the phases. -/
theorem Phase.step (h : Phase localSocket remoteSocket ctx x) (hstep : Step x e y) :
    Phase localSocket remoteSocket ctx y := by
  cases h with
  | @waiting state buffer identResp sent replies hexpects =>
    cases hstep with
    | relay hrelay => exact absurd hrelay (not_relayStep (idle_create _ _))
    | reply hbuffer hn _ hs =>
      cases hbuffer
      rw [callback_reply hn] at hs
      exact .reply hexpects hn hs
    | replyEnds _ hs =>
      rw [callback_replyEnds] at hs
      cases hs
      refine .close ?_ (idle_create localSocket remoteSocket)
      simp only [liftBase, finishNegotiateRecv_base]
      exact TcpProxySocket.closeClient_open (open_create localSocket remoteSocket false) true
    | requestFails _ hs =>
      rw [callback_requestFails] at hs
      cases hs
      exact .close (TcpProxySocket.closeClient_open (open_create localSocket remoteSocket false)
        false) (idle_create localSocket remoteSocket)
  | @refused s replies hclosed hidle =>
    cases hstep with
    | relay hrelay => exact absurd hrelay (not_relayStep hidle)
    | reply _ hn _ hs =>
      rw [callback_reply hn] at hs
      have hquiet := quiet_process (by rw [finishNegotiateRecv_base]; exact hclosed) hs
      rw [finishNegotiateRecv_base] at hquiet
      exact .close hquiet hidle
    | replyEnds _ hs =>
      rw [callback_replyEnds] at hs
      cases hs
      refine .close ?_ hidle
      simp only [liftBase, finishNegotiateRecv_base]
      exact hclosed.closeClient true
    | requestFails _ hs =>
      rw [callback_requestFails] at hs
      cases hs
      exact .close (hclosed.closeClient false) hidle
  | relaying hphase hrecv hsafe =>
    cases hstep with
    | relay hrelay => exact .relaying hphase hrecv (hsafe.step hrelay)
    | reply hbuffer | replyEnds hbuffer =>
      rw [hrecv] at hbuffer
      cases hbuffer
    | requestFails _ hs =>
      rw [callback_requestFails] at hs
      cases hs
      exact .relaying hphase hrecv (hsafe.afterClose false)

/-- A connection starts by waiting for the method reply. -/
theorem Phase.init (h : (system localSocket remoteSocket ctx).init x) :
    Phase localSocket remoteSocket ctx x := by
  obtain ⟨ok, recvLocal, rfl⟩ := h
  exact .sendNegotiate (s := create localSocket remoteSocket ctx) rfl rfl rfl .login

theorem phase_of_reachable (h : (system localSocket remoteSocket ctx).Reachable x) :
    Phase localSocket remoteSocket ctx x :=
  h.invariant (fun _ => Phase.init) fun _ _ _ hs hstep => hs.step hstep

/-! ## Every run -/

/-- The CONNECT reply that starts a relay is the last one, and answers the last request. -/
theorem connects_of_connectPhase {sent' : List UInt8} {chunks : List (List UInt8)}
    (h : connectPhase localSocket remoteSocket sent' chunks = (relaying sent, [])) :
    ∃ connect, chunks = [connect] ∧ Connects connect ∧ sent = sent' := by
  cases chunks with
  | nil => exact absurd (congrArg Prod.fst h) refused_ne_relaying
  | cons connect chunks =>
    rw [connectPhase] at h
    split at h
    · next hgranted =>
      cases h
      refine ⟨connect, rfl, ⟨hgranted.1, fun code hcode => ?_⟩, rfl⟩
      have hzero := hgranted.2
      rwa [List.getD_eq_getElem?_getD, Option.mem_def.mp hcode, Option.getD_some] at hzero
    · exact absurd (congrArg Prod.fst h) refused_ne_relaying

/-- Credentials that are sent are usable ones. -/
theorem exists_usable_of_authMessage {message : List UInt8}
    (h : authMessage ctx = .ok (some message)) :
    ∃ u p, ctx.Usable u p ∧
      message = UsernameAuth.rfc1929 (UsernameAuth.zeroTail u) (UsernameAuth.zeroTail p) := by
  by_cases husable : ∃ u p, ctx.Usable u p
  · obtain ⟨u, p, husable⟩ := husable
    refine ⟨u, p, husable, ?_⟩
    by_cases hfit : CredentialsFit u p
    · rw [authMessage_fit husable hfit] at h
      cases h
      rfl
    · rw [authMessage_abort husable hfit] at h
      cases h
  · rw [authMessage_unusable fun u p hup => husable ⟨u, p, hup⟩] at h
    cases h

/-- A byte that decides as the one that is read in its place does not was received. -/
theorem getElem?_of_getD {reply : List UInt8} {i : Nat} {default b : UInt8}
    (h : reply.getD i default = b) (hne : default ≠ b) : reply[i]? = some b := by
  rw [List.getD_eq_getElem?_getD] at h
  cases hbyte : reply[i]? with
  | none =>
    rw [hbyte] at h
    exact absurd h hne
  | some c =>
    rw [hbyte] at h
    exact congrArg some h

/-- The replies a negotiation succeeds with grant the connection. -/
theorem granted_of_loginPhase (h : loginPhase localSocket remoteSocket ctx replies =
    .ok (relaying sent, [])) : Granted ctx replies sent := by
  have hrefused : ∀ {sent' : List UInt8} {rest' : List (List UInt8)},
      ¬ Except.ok (ε := Abort) (refused localSocket remoteSocket sent', rest') =
        .ok (relaying sent, []) := fun heq =>
    refused_ne_relaying (congrArg Prod.fst (Except.ok.inj heq))
  have hgreeting : greeting ctx = identReq ctx := (identReq_eq ctx).symm
  have hrequest : connectTo ctx = connectRequest ctx := (connectRequest_eq ctx).symm
  cases replies with
  | nil => exact absurd h hrefused
  | cons method replies =>
    rw [loginPhase] at h
    split at h
    · exact absurd h hrefused
    next hproceeds =>
    obtain ⟨hne, hfive, hff⟩ : method ≠ [] ∧ method.getD 0 5 = 5 ∧ method.getD 1 0 ≠ 0xFF := by
      simpa only [not_or, not_not, ne_eq] using hproceeds
    have hversion : method[0]? = some 5 := by
      obtain ⟨version, rest, rfl⟩ := List.exists_cons_of_ne_nil hne
      exact congrArg some hfive
    split at h
    · next htwo =>
      cases hauth : authMessage ctx with
      | error e =>
        rw [hauth] at h
        cases h
      | ok message =>
        rw [hauth] at h
        cases message with
        | none => exact absurd h hrefused
        | some message =>
          obtain ⟨u, p, husable, rfl⟩ := exists_usable_of_authMessage hauth
          cases replies with
          | nil => exact absurd h hrefused
          | cons status replies =>
            simp only [Except.map, passwordPhase] at h
            split at h
            · next hstatus =>
              obtain ⟨connect, rfl, hconnect, rfl⟩ := connects_of_connectPhase (Except.ok.inj h)
              rw [← hgreeting, ← hrequest]
              exact .password hversion (getElem?_of_getD htwo (by decide)) husable
                (getElem?_of_getD hstatus.2 (by decide)) hconnect
            · exact absurd h hrefused
    · next htwo =>
      obtain ⟨connect, rfl, hconnect, rfl⟩ := connects_of_connectPhase (Except.ok.inj h)
      rw [← hgreeting, ← hrequest]
      refine .plain hversion (fun m hm => ?_) hconnect
      rw [List.getD_eq_getElem?_getD, Option.mem_def.mp hm, Option.getD_some] at htwo hff
      exact ⟨htwo, hff⟩

/-- The bytes sent to a peer are the first ones received from the other one. -/
theorem Phase.sent_prefix (h : Phase localSocket remoteSocket ctx x) (b : Bool) :
    x.sent b <+: x.received b := by
  cases h with
  | waiting | refused => exact List.prefix_rfl
  | relaying _ _ hsafe =>
    obtain ⟨q, hreceived, -⟩ := hsafe.held b
    exact ⟨q, hreceived.symm⟩

/-- A relay that was used was granted by the replies. -/
theorem Phase.granted {b : Bool} (h : Phase localSocket remoteSocket ctx x)
    (hused : x.received b ≠ [] ∨ (x.socket.relay b).recvOp.isSome ∨
      (x.socket.relay b).sendOp.isSome) : Granted ctx x.replies x.socket.sent := by
  cases h with
  | waiting => simp [awaiting, idle_create] at hused
  | refused _ hidle => simp [hidle] at hused
  | relaying hphase => exact granted_of_loginPhase hphase

/-- An open connection waits for a reply, or relays. -/
theorem Phase.pending (h : Phase localSocket remoteSocket ctx x)
    (hopen : ∃ b, (x.socket.socket b).isSome) : x.socket.negotiateRecv.isSome ∨
      ∀ b, (x.socket.relay b).recvOp.isSome ∨ (x.socket.relay b).sendOp.isSome := by
  obtain ⟨b, hopen⟩ := hopen
  cases h with
  | waiting => exact .inl rfl
  | refused hclosed =>
    rw [hclosed.closed] at hopen
    cases hopen
  | relaying _ _ hsafe =>
    rcases hsafe.phase with hflow | hclosed
    · refine .inr fun d => ?_
      obtain ⟨q, c, hq⟩ := hflow.queues d
      have hrecv := hq.represents.recvOp_isSome
      have hsend := hq.represents.sendOp_isSome
      rcases Nat.eq_zero_or_pos q.length with hz | hpos
      · exact .inl (hrecv.mpr (by rw [hz]; decide))
      · exact .inr (hsend.mpr hpos)
    · have hnone := hclosed.closed b
      rw [show x.socket.socket b = none from hnone] at hopen
      cases hopen

/-- In every run of a connection, whichever of its calls are refused or fail and in whatever order
they complete: the bytes sent to a peer are the first bytes received from the other one; a byte is
received, or a relay call issued, only after the server's replies granted the connection that
exactly the bytes sent to it asked for; and a connection with an open socket waits for a reply, or
for a relay call in either direction. -/
theorem relays_after_dialogue (h : (system localSocket remoteSocket ctx).Reachable x) :
    (∀ b, x.sent b <+: x.received b) ∧
      (∀ b, x.received b ≠ [] ∨ (x.socket.relay b).recvOp.isSome ∨
          (x.socket.relay b).sendOp.isSome → Granted ctx x.replies x.socket.sent) ∧
      ((∃ b, (x.socket.socket b).isSome) → x.socket.negotiateRecv.isSome ∨
        ∀ b, (x.socket.relay b).recvOp.isSome ∨ (x.socket.relay b).sendOp.isSome) := by
  have hphase := phase_of_reachable h
  exact ⟨hphase.sent_prefix, fun _ => hphase.granted, hphase.pending⟩

/-- A tunnel to 10.0.0.2, port 80, without credentials. -/
def plainContext : NegotiateContext := ⟨⟨10, 0, 0, 2⟩, 80, none, none⟩

/-- The tunnel after the CONNECT reply. -/
def connected : TcpTunnel where
  socket :=
    { awaiting 0 1 plainContext .connectSent .connectResponse (identRespInit.overlay [5, 0])
        [5, 1, 0, 5, 1, 0, 1, 10, 0, 0, 2, 0, 80] with
      toTcpProxySocket := (RelayRun.start 0 1).socket
      connectResponse := socks5RespInit.overlay [5, 0, 0, 1, 0, 0, 0, 0, 0, 0]
      negotiateRecv := none }
  replies := [[5, 0], [5, 0, 0, 1, 0, 0, 0, 0, 0, 0]]

/-- The server selects no authentication and connects. -/
theorem connected_reachable : (system 0 1 plainContext).Reachable connected := by
  have hinit : (system 0 1 plainContext).Reachable
      { socket := awaiting 0 1 plainContext .loginSent .identResp identRespInit [5, 1, 0] } :=
    .init ⟨⟨true, true⟩, true, rfl⟩
  have hmethod := hinit.snoc (M := system 0 1 plainContext)
    (@Step.reply _ _ [5, 0] ⟨true, true⟩ true _ rfl (by decide) (by decide) rfl)
  exact hmethod.snoc (M := system 0 1 plainContext)
    (@Step.reply _ _ [5, 0, 0, 1, 0, 0, 0, 0, 0, 0] ⟨true, true⟩ true _ rfl (by decide) (by decide)
      rfl)

/-- Then the local peer sends its first byte. -/
theorem firstByte_reachable : ∃ x, (system 0 1 plainContext).Reachable x ∧ x.received true = [7] ∧
    x.socket.sent = [5, 1, 0, 5, 1, 0, 1, 10, 0, 0, 2, 0, 80] := by
  have hstep : RelayStep connected.relayRun (.received true [7] ⟨true, true⟩) _ :=
    .received rfl (by decide) (by decide)
  exact ⟨_, connected_reachable.snoc (M := system 0 1 plainContext) (.relay hstep), rfl, rfl⟩

/-- The local peer's first byte is received after the dialogue, and is being sent. -/
theorem relays_after_dialogue_one_byte :
    ∃ x, (system 0 1 plainContext).Reachable x ∧ x.received true = [7] ∧
      Granted plainContext x.replies [5, 1, 0, 5, 1, 0, 1, 10, 0, 0, 2, 0, 80] := by
  obtain ⟨x, hreach, hreceived, hsent⟩ := firstByte_reachable
  have hgranted := (relays_after_dialogue hreach).2.1 true (.inl (by rw [hreceived]; decide))
  rw [hsent] at hgranted
  exact ⟨x, hreach, hreceived, hgranted⟩

end TcpTunnel

end CutieProxy
