import CutieProxy.Proxy.Socks5TcpProxySocket

/-!
# What a run of the SOCKS5 negotiation does

A run is determined by the completions alone. `loginPhase`, `passwordPhase` and `connectPhase` read
off them what the state machine does from the state the phase is named after, and
`observe_run` states that the machine does it. A byte that a completion does not deliver is read
as the structure holds it: version 5 and method 0 before the first reply, method 2 before the status
reply, reply code 0 before the CONNECT reply.
-/

namespace CutieProxy

open Socks5TcpProxySocket

/-- What a finished negotiation shows: the bytes sent to the server, the sockets closed, and whether
the relay was started. -/
structure NegotiateOutcome where
  sent : List UInt8
  closed : List Socket
  relayStarted : Bool
  deriving DecidableEq, Repr

/-- What a run of the negotiation shows, with the completions it left. -/
def observe (r : Socks5TcpProxySocket × List (List UInt8)) :
    NegotiateOutcome × List (List UInt8) :=
  (⟨r.1.sent, r.1.closed, r.1.relayStarted⟩, r.2)

/-- The negotiation was refused: both sockets are closed, the remote one first. -/
def refused (localSocket remoteSocket : Socket) (sent : List UInt8) : NegotiateOutcome :=
  ⟨sent, [remoteSocket, localSocket], false⟩

/-- The relay was started. -/
def relaying (sent : List UInt8) : NegotiateOutcome := ⟨sent, [], true⟩

theorem refused_ne_relaying {localSocket remoteSocket : Socket} {sent sent' : List UInt8} :
    refused localSocket remoteSocket sent' ≠ relaying sent := by
  simp [refused, relaying]

/-- The username/password message for the credentials of a context, none when they are missing or
not of 1 to 255 bytes. -/
def authMessage (ctx : NegotiateContext) : Except Abort (Option (List UInt8)) :=
  match ctx.socks5Username, ctx.socks5Password with
  | some username, some password =>
    if username.length > socks5UsernameMaxLength ∨ username.length < 1 ∨
        password.length > socks5UsernameMaxLength ∨ password.length < 1 then .ok none
    else UsernameAuth.init username password
  | _, _ => .ok none

section Phases

variable (localSocket remoteSocket : Socket) (ctx : NegotiateContext)

/-- From the CONNECT request on, with the bytes sent so far. -/
def connectPhase (sent : List UInt8) : List (List UInt8) → NegotiateOutcome × List (List UInt8)
  | [] => (refused localSocket remoteSocket sent, [])
  | chunk :: chunks =>
    if chunk ≠ [] ∧ chunk.getD 1 0 = 0 then (relaying sent, chunks)
    else (refused localSocket remoteSocket sent, chunks)

/-- From the username/password message on. -/
def passwordPhase (sent : List UInt8) : List (List UInt8) → NegotiateOutcome × List (List UInt8)
  | [] => (refused localSocket remoteSocket sent, [])
  | chunk :: chunks =>
    if chunk ≠ [] ∧ chunk.getD 1 2 = 0 then
      connectPhase localSocket remoteSocket (sent ++ connectRequest ctx) chunks
    else (refused localSocket remoteSocket sent, chunks)

/-- From the greeting on. -/
def loginPhase : List (List UInt8) → Except Abort (NegotiateOutcome × List (List UInt8))
  | [] => .ok (refused localSocket remoteSocket (identReq ctx), [])
  | chunk :: chunks =>
    if chunk = [] ∨ chunk.getD 0 5 ≠ 5 ∨ chunk.getD 1 0 = 0xFF then
      .ok (refused localSocket remoteSocket (identReq ctx), chunks)
    else if chunk.getD 1 0 = 2 then (authMessage ctx).map fun
      | none => (refused localSocket remoteSocket (identReq ctx), chunks)
      | some message =>
        passwordPhase localSocket remoteSocket ctx (identReq ctx ++ message) chunks
    else .ok (connectPhase localSocket remoteSocket (identReq ctx ++ connectRequest ctx) chunks)

/-! ## The machine does what the phases say -/

/-- A machine that waits for a reply. -/
def awaiting (state : Socks5State) (buffer : ReplyBuffer) (identResp : Image 2)
    (sent : List UInt8) : Socks5TcpProxySocket where
  toTcpProxySocket := (TcpProxySocket.create localSocket remoteSocket).associateToCompletionPort
  negotiateCtx := some ctx
  currentState := state
  identResp := identResp
  negotiateRecv := some buffer
  sent := sent

/-- The callback hands a negotiation receive of at least one byte to its handler. -/
theorem deliver_of_ne_nil {buffer : ReplyBuffer} {data : List UInt8} (h : data ≠ [])
    (s : Socks5TcpProxySocket) : s.deliver buffer data =
      processReceiveNegotiateComplete ⟨true, true⟩ true data.length false
        (s.finishNegotiateRecv buffer data) := by
  have : data.length ≠ 0 := fun hz => h (List.length_eq_zero_iff.1 hz)
  simp [deliver, completionCallback, handlers, this, Except.bind]

/-- A negotiation with no pending receive is over. -/
theorem negotiate_over {s : Socks5TcpProxySocket} (h : s.negotiateRecv = none)
    (chunks : List (List UInt8)) : negotiate chunks s = .ok (s, chunks) := by
  cases chunks <;> simp [negotiate, h]

variable {identResp : Image 2} {sent : List UInt8} {ok : Accepts} {recvLocal : Bool}

/-- What the handler does with a CONNECT reply. -/
theorem process_connectSent {s : Socks5TcpProxySocket} (h : s.currentState = .connectSent) (n : Nat) :
    s.processReceiveNegotiateComplete ok recvLocal n false =
      if s.connectResponse.reply = 0 then
        .ok (s.liftBase fun base => (base.startDataRelay recvLocal ok.recv).2)
      else .ok (s.liftBase (·.closeClient true false)) := by
  simp only [processReceiveNegotiateComplete, h, Bool.false_eq_true, if_false, ne_eq, ite_not]

/-- What the handler does with a status reply. -/
theorem process_passwordSent {s : Socks5TcpProxySocket} (h : s.currentState = .passwordSent)
    (hctx : s.negotiateCtx = some ctx) (n : Nat) :
    s.processReceiveNegotiateComplete ok recvLocal n false =
      if s.identResp.method = 0 then
        .ok (({ s with currentState := .passwordResponded } : Socks5TcpProxySocket).sendNegotiate
          ok (connectRequest ctx) .connectResponse .connectSent)
      else .ok (({ s with currentState := .passwordResponded } : Socks5TcpProxySocket).liftBase
        (·.closeClient true false)) := by
  simp only [processReceiveNegotiateComplete, h, hctx, Bool.false_eq_true, if_false, ne_eq, ite_not]

/-- What the handler does with a method reply. -/
theorem process_loginSent {s : Socks5TcpProxySocket} (h : s.currentState = .loginSent)
    (hctx : s.negotiateCtx = some ctx) (n : Nat) :
    s.processReceiveNegotiateComplete ok recvLocal n false =
      if s.identResp.version ≠ 5 ∨ s.identResp.method = 0xFF then
        .ok (({ s with currentState := .loginResponded } : Socks5TcpProxySocket).liftBase
          (·.closeClient true false))
      else if s.identResp.method = 2 then
        ({ s with currentState := .loginResponded } : Socks5TcpProxySocket).sendUsernameAuth ok ctx
      else .ok (({ s with currentState := .loginResponded } : Socks5TcpProxySocket).sendNegotiate
          ok (connectRequest ctx) .connectResponse .connectSent) := by
  simp only [processReceiveNegotiateComplete, h, hctx, Bool.false_eq_true, if_false]

/-- The answer to a reply that selects username and password, by the message it sends. -/
theorem sendUsernameAuth_eq (s : Socks5TcpProxySocket) :
    s.sendUsernameAuth ok ctx = (authMessage ctx).map fun
      | none => s.liftBase (·.closeClient true false)
      | some message => s.sendNegotiate ok message .identResp .passwordSent := by
  unfold sendUsernameAuth authMessage
  cases ctx.socks5Username with
  | none => rfl
  | some username =>
    cases ctx.socks5Password with
    | none => rfl
    | some password =>
      simp only
      split
      · rfl
      · next hlen =>
        have hmax : username.length ≤ 255 ∧ password.length ≤ 255 := by
          simp only [socks5UsernameMaxLength] at hlen
          omega
        by_cases hfit : (UsernameAuth.cStr username).length < 255 ∧
            (UsernameAuth.cStr password).length < 255
        · rw [UsernameAuth.init_eq hmax.1 hmax.2 hfit.1 hfit.2]
          rfl
        · rw [UsernameAuth.init_abort hmax.1 hmax.2 hfit]
          rfl

/-- The CONNECT reply is judged by its reply code. -/
theorem negotiate_connect (chunks : List (List UInt8)) :
    (negotiate chunks (awaiting localSocket remoteSocket ctx .connectSent .connectResponse identResp
      sent)).map observe = .ok (connectPhase localSocket remoteSocket sent chunks) := by
  cases chunks with
  | nil => rfl
  | cons chunk chunks =>
    by_cases hnil : chunk = []
    · subst hnil
      rw [connectPhase, if_neg (by simp)]
      show (negotiate chunks _).map observe = _
      rw [negotiate_over rfl]
      rfl
    · show ((Socks5TcpProxySocket.deliver _ chunk _).bind (negotiate chunks)).map observe = _
      rw [deliver_of_ne_nil hnil, connectPhase]
      simp only [hnil, ne_eq, not_false_eq_true, true_and]
      rw [process_connectSent rfl, show Image.reply _ = chunk.getD 1 0 from rfl]
      by_cases hzero : chunk.getD 1 0 = 0
      · rw [if_pos hzero, if_pos hzero]
        show (negotiate chunks _).map observe = _
        rw [negotiate_over rfl]
        rfl
      · rw [if_neg hzero, if_neg hzero]
        show (negotiate chunks _).map observe = _
        rw [negotiate_over rfl]
        rfl

/-- The status reply is judged by its second byte, over the method of the first reply. -/
theorem negotiate_password (hmethod : identResp.method = 2) (chunks : List (List UInt8)) :
    (negotiate chunks (awaiting localSocket remoteSocket ctx .passwordSent .identResp identResp
      sent)).map observe = .ok (passwordPhase localSocket remoteSocket ctx sent chunks) := by
  cases chunks with
  | nil => rfl
  | cons chunk chunks =>
    by_cases hnil : chunk = []
    · subst hnil
      rw [passwordPhase, if_neg (by simp)]
      show (negotiate chunks _).map observe = _
      rw [negotiate_over rfl]
      rfl
    · have hstatus : ((awaiting localSocket remoteSocket ctx .passwordSent .identResp identResp
          sent).finishNegotiateRecv .identResp chunk).identResp.method = chunk.getD 1 2 := by
        rw [← hmethod]
        rfl
      show ((Socks5TcpProxySocket.deliver _ chunk _).bind (negotiate chunks)).map observe = _
      rw [deliver_of_ne_nil hnil, passwordPhase]
      simp only [hnil, ne_eq, not_false_eq_true, true_and]
      rw [process_passwordSent ctx rfl rfl, hstatus]
      by_cases hzero : chunk.getD 1 2 = 0
      · rw [if_pos hzero, if_pos hzero]
        exact negotiate_connect localSocket remoteSocket ctx chunks
      · rw [if_neg hzero, if_neg hzero]
        show (negotiate chunks _).map observe = _
        rw [negotiate_over rfl]
        rfl

/-- The method reply is judged by its version and method. -/
theorem negotiate_login (chunks : List (List UInt8)) :
    (negotiate chunks (awaiting localSocket remoteSocket ctx .loginSent .identResp identRespInit
      (identReq ctx))).map observe = loginPhase localSocket remoteSocket ctx chunks := by
  cases chunks with
  | nil => rfl
  | cons chunk chunks =>
    by_cases hnil : chunk = []
    · subst hnil
      rw [loginPhase, if_pos (.inl rfl)]
      show (negotiate chunks _).map observe = _
      rw [negotiate_over rfl]
      rfl
    · show ((Socks5TcpProxySocket.deliver _ chunk _).bind (negotiate chunks)).map observe = _
      rw [deliver_of_ne_nil hnil, loginPhase]
      simp only [hnil, false_or]
      rw [process_loginSent ctx rfl rfl, show Image.version _ = chunk.getD 0 5 from rfl,
        show Image.method _ = chunk.getD 1 0 from rfl]
      by_cases hversion : chunk.getD 0 5 ≠ 5 ∨ chunk.getD 1 0 = 0xFF
      · rw [if_pos hversion, if_pos hversion]
        show (negotiate chunks _).map observe = _
        rw [negotiate_over rfl]
        rfl
      · rw [if_neg hversion, if_neg hversion]
        by_cases hmethod : chunk.getD 1 0 = 2
        · rw [if_pos hmethod, if_pos hmethod, sendUsernameAuth_eq]
          cases authMessage ctx with
          | error e => rfl
          | ok message =>
            cases message with
            | none =>
              show (negotiate chunks _).map observe = _
              rw [negotiate_over rfl]
              rfl
            | some message =>
              have hresp : (identRespInit.overlay chunk).method = 2 := hmethod
              exact negotiate_password localSocket remoteSocket ctx hresp chunks
        · rw [if_neg hmethod, if_neg hmethod]
          exact negotiate_connect localSocket remoteSocket ctx chunks

/-- A negotiation does what `loginPhase` reads off its completions. -/
theorem observe_run (chunks : List (List UInt8)) :
    (Socks5TcpProxySocket.run localSocket remoteSocket ctx chunks).map observe =
      loginPhase localSocket remoteSocket ctx chunks :=
  negotiate_login localSocket remoteSocket ctx chunks

/-- The phases after a method reply delivered by itself. -/
theorem loginPhase_method (version method : UInt8) (chunks : List (List UInt8)) :
    loginPhase localSocket remoteSocket ctx ([version, method] :: chunks) =
      if version ≠ 5 ∨ method = 0xFF then
        .ok (refused localSocket remoteSocket (identReq ctx), chunks)
      else if method = 2 then (authMessage ctx).map fun
        | none => (refused localSocket remoteSocket (identReq ctx), chunks)
        | some message =>
          passwordPhase localSocket remoteSocket ctx (identReq ctx ++ message) chunks
      else .ok (connectPhase localSocket remoteSocket (identReq ctx ++ connectRequest ctx)
        chunks) := by
  simp only [loginPhase, List.getD_cons_zero, List.getD_cons_succ, reduceCtorEq, false_or]

end Phases

/-! ## Credentials -/

variable {ctx : NegotiateContext} {u p : List UInt8}

/-- The context has credentials of 1 to 255 bytes each. -/
structure NegotiateContext.Usable (ctx : NegotiateContext) (username password : List UInt8) :
    Prop where
  username_eq : ctx.socks5Username = some username
  password_eq : ctx.socks5Password = some password
  username_pos : 1 ≤ username.length
  username_le : username.length ≤ 255
  password_pos : 1 ≤ password.length
  password_le : password.length ≤ 255

/-- The characters of both credentials fit the buffers of `strcpy_s`. -/
def CredentialsFit (username password : List UInt8) : Prop :=
  (UsernameAuth.cStr username).length < 255 ∧ (UsernameAuth.cStr password).length < 255

theorem NegotiateContext.Usable.unique {u' p' : List UInt8} (h : ctx.Usable u p)
    (h' : ctx.Usable u' p') : u' = u ∧ p' = p :=
  ⟨Option.some.inj (h'.username_eq.symm.trans h.username_eq),
    Option.some.inj (h'.password_eq.symm.trans h.password_eq)⟩

/-- Usable credentials are sent as `init` copies them. -/
theorem authMessage_usable (h : ctx.Usable u p) : authMessage ctx = UsernameAuth.init u p := by
  obtain ⟨hu, hp, hupos, hule, hppos, hple⟩ := h
  rw [authMessage, hu, hp]
  refine if_neg ?_
  simp only [socks5UsernameMaxLength]
  omega

/-- Credentials that fit are sent as the zeroed structure holds them. -/
theorem authMessage_fit (h : ctx.Usable u p) (hfit : CredentialsFit u p) :
    authMessage ctx =
      .ok (some (UsernameAuth.rfc1929 (UsernameAuth.zeroTail u) (UsernameAuth.zeroTail p))) := by
  rw [authMessage_usable h, UsernameAuth.init_eq h.username_le h.password_le hfit.1 hfit.2]

/-- Credentials that do not fit end the process. -/
theorem authMessage_abort (h : ctx.Usable u p) (hfit : ¬ CredentialsFit u p) :
    authMessage ctx = .error .invalidParameter := by
  rw [authMessage_usable h, UsernameAuth.init_abort h.username_le h.password_le hfit]

/-- Without usable credentials no message is sent. -/
theorem authMessage_unusable (h : ∀ u p, ¬ ctx.Usable u p) : authMessage ctx = .ok none := by
  unfold authMessage
  split
  · next username password hu hp =>
    refine if_pos ?_
    by_contra hlen
    simp only [socks5UsernameMaxLength] at hlen
    exact h username password ⟨hu, hp, by omega, by omega, by omega, by omega⟩
  · rfl

end CutieProxy
