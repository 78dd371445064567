import CutieProxy.Proxy.Socks5Correct

/-!
# The ASSOCIATE dialogue of `socks5_local_udp_proxy_server`

`associateToSocks5Proxy` is the blocking dialogue that asks an upstream server for a UDP relay port.
The results of its `send` and `recv` calls are arguments, numbered in the order of the calls. Every
reply is one `recv` into a structure that is initialised to look like success, and only an error of
`recv` is looked at: a short read or the end of the stream leaves the missing bytes at their initial
values, and the ASSOCIATE reply is read as one for IPv4 whatever its address type. `associates_iff`
is the exact condition under which a port is returned for complete successful dialogues only.
-/

namespace CutieProxy

/-! ## The code -/

/-- The results of the calls of a dialogue, by number: whether a `send` succeeded, and the bytes a
`recv` delivered, none of them at the end of the stream; `none` is `SOCKET_ERROR`. -/
structure SocketCalls where
  send : Nat → Bool
  recv : Nat → Option (List UInt8)

/-- `recv` for `n` bytes: the system delivers at most as many. -/
def SocketCalls.received (calls : SocketCalls) (n call : Nat) : Option (List UInt8) :=
  (calls.recv call).map (·.take n)

/-- The ASSOCIATE request, for no address in particular. -/
def associateRequest : List UInt8 := socks5Req 3 1 ⟨0, 0, 0, 0⟩ 0

/-- The end of `associate_to_socks5_proxy`: request the association with the calls numbered `call`.
The result is the port, in host order, and the bytes sent so far. -/
def requestAssociation (calls : SocketCalls) (call : Nat) (sent : List UInt8) :
    Option UInt16 × List UInt8 :=
  if !calls.send call then (none, sent)
  else
    let sent := sent ++ associateRequest
    match calls.received 10 call with
    | none => (none, sent)
    | some data =>
      let associateResp := socks5RespInit.overlay data
      if associateResp.respVersion ≠ 5 ∨ associateResp.reply ≠ 0 then (none, sent)
      else (some (ntohs associateResp.bindPort), sent)

/-- The middle of `associate_to_socks5_proxy`: log in with the calls numbered 1; the status is
received over the method reply. -/
def login (calls : SocketCalls) (identResp : Image 2) (sent authReq : List UInt8) :
    Option UInt16 × List UInt8 :=
  if !calls.send 1 then (none, sent)
  else
    let sent := sent ++ authReq
    match calls.received 2 1 with
    | none => (none, sent)
    | some data =>
      let identResp := identResp.overlay data
      if identResp.method ≠ 0 then (none, sent) else requestAssociation calls 2 sent

/-- `associate_to_socks5_proxy`. The exception of the constructor of `socks5_username_auth` cannot
leave the function, which is `noexcept`. -/
def associateToSocks5Proxy (ctx : NegotiateContext) (calls : SocketCalls) :
    Except Abort (Option UInt16 × List UInt8) :=
  if !calls.send 0 then .ok (none, [])
  else
    let sent := identReq ctx
    match calls.received 2 0 with
    | none => .ok (none, sent)
    | some data =>
      let identResp := identRespInit.overlay data
      if identResp.version ≠ 5 ∨ identResp.method = 0xFF then .ok (none, sent)
      else if identResp.method = 2 then
        match ctx.socks5Username with
        | none => .ok (none, sent)
        | some username =>
          if username.length > socks5UsernameMaxLength ∨ username.length < 1 then .ok (none, sent)
          else match ctx.socks5Password with
            | none => .ok (none, sent)
            | some password =>
              if password.length > socks5UsernameMaxLength ∨ password.length < 1 then
                .ok (none, sent)
              else do
                match ← UsernameAuth.init username password with
                | none => .error .uncaughtException
                | some authReq => return login calls identResp sent authReq
      else .ok (requestAssociation calls 1 sent)

/-! ## Successful dialogues -/

/-- A full ASSOCIATE reply of version 5 with reply code 0 and an IPv4 address, and its BND.PORT. -/
structure AssociateReply (data : List UInt8) (port : UInt16) : Prop where
  length_eq : data.length = 10
  version_eq : data[0]? = some 5
  reply_eq : data[1]? = some 0
  addressType_eq : data[3]? = some 1
  port_eq : port.toNat = 256 * (data.getD 8 0).toNat + (data.getD 9 0).toNat

/-- The bytes received make a complete successful dialogue that names `port`. -/
def SuccessfulAssociation (ctx : NegotiateContext) (calls : SocketCalls) (port : UInt16) : Prop :=
  ∃ method, calls.received 2 0 = some [5, method] ∧ method ∈ offeredMethods ctx ∧
    if method = 2 then (∃ u p, ctx.Usable u p) ∧
      (∃ version, calls.received 2 1 = some [version, 0]) ∧
      ∃ data, calls.received 10 2 = some data ∧ AssociateReply data port
    else ∃ data, calls.received 10 1 = some data ∧ AssociateReply data port

/-- A port is returned for complete successful dialogues only, and it is the one they name; in every
other case none is. -/
def Associates (ctx : NegotiateContext) (calls : SocketCalls) : Prop :=
  ∃ port sent, associateToSocks5Proxy ctx calls = .ok (port, sent) ∧
    ∀ p, port = some p → SuccessfulAssociation ctx calls p

/-- The request numbered `call` was sent, and no byte received of the reply `data` refuses it. -/
def NotRefused (calls : SocketCalls) (call : Nat) (data : List UInt8) : Prop :=
  calls.send call = true ∧ calls.received 10 call = some data ∧ data.getD 0 5 = 5 ∧
    data.getD 1 0 = 0

/-- All ten bytes of an ASSOCIATE reply were received, and it has an IPv4 address. -/
def WholeIpv4 (data : List UInt8) : Prop := data.length = 10 ∧ data[3]? = some 1

/-- The condition: credentials that method 2 asks for have fewer than 255 characters; where no byte
received in the whole dialogue refuses it, the method reply and the ASSOCIATE reply were received
whole, the method was 0 or 2, and the reply has an IPv4 address. -/
def RepliesWhole (ctx : NegotiateContext) (calls : SocketCalls) : Prop :=
  calls.send 0 = true → ∀ ident, calls.received 2 0 = some ident → ident.getD 0 5 = 5 →
    ident.getD 1 0 ≠ 0xFF →
      if ident.getD 1 0 = 2 then ∀ u p, ctx.Usable u p → CredentialsFit u p ∧
        (calls.send 1 = true → ∀ status, calls.received 2 1 = some status → status.getD 1 2 = 0 →
          ∀ data, NotRefused calls 2 data → WholeIpv4 data)
      else ∀ data, NotRefused calls 1 data → ident = [5, 0] ∧ WholeIpv4 data

/-! ## What the code returns -/

section

variable {ctx : NegotiateContext} {calls : SocketCalls} {call : Nat} {sent data ident : List UInt8}
  {port : UInt16}

theorem received_length_le {n : Nat} (h : calls.received n call = some data) : data.length ≤ n := by
  rw [SocketCalls.received, Option.map_eq_some_iff] at h
  obtain ⟨all, -, rfl⟩ := h
  exact List.length_take_le n all

/-- A port is returned for a reply no received byte of which refuses the request. -/
theorem requestAssociation_eq_some :
    (requestAssociation calls call sent).1 = some port ↔
      ∃ data, NotRefused calls call data ∧
        port = ntohs (word16 (data.getD 8 0) (data.getD 9 0)) := by
  unfold requestAssociation NotRefused
  by_cases hsend : calls.send call = true
  · simp only [hsend, Bool.not_true, Bool.false_eq_true, if_false, true_and]
    cases hrecv : calls.received 10 call with
    | none => simp
    | some data =>
      simp only [Option.some.injEq, and_assoc, exists_eq_left']
      rw [show Image.respVersion _ = data.getD 0 5 from rfl,
        show Image.reply _ = data.getD 1 0 from rfl,
        show Image.bindPort _ = word16 (data.getD 8 0) (data.getD 9 0) from rfl]
      split
      · next hno => simp only [reduceCtorEq, false_iff]; tauto
      · next hyes => simp only [Option.some.injEq, eq_comm (b := port)]; tauto
  · simp only [hsend, Bool.not_false, if_true, Bool.false_eq_true, false_and]
    simp

/-- The returned port is right exactly when the reply was received whole and is one for IPv4. -/
theorem associateReply_iff (h : NotRefused calls call data)
    (hport : port = ntohs (word16 (data.getD 8 0) (data.getD 9 0))) :
    AssociateReply data port ↔ WholeIpv4 data := by
  refine ⟨fun hr => ⟨hr.length_eq, hr.addressType_eq⟩, fun ⟨hlen, htype⟩ => ?_⟩
  refine ⟨hlen, ?_, ?_, htype, ?_⟩
  · have hversion := h.2.2.1
    rw [List.getD_eq_getElem?_getD, List.getElem?_eq_getElem (by omega)] at hversion
    rw [List.getElem?_eq_getElem (by omega)]
    exact congrArg some hversion
  · have hreply := h.2.2.2
    rw [List.getD_eq_getElem?_getD, List.getElem?_eq_getElem (by omega)] at hreply
    rw [List.getElem?_eq_getElem (by omega)]
    exact congrArg some hreply
  · rw [hport, toNat_ntohs_word16]

/-- The association step returns only ports of complete replies for IPv4 exactly when such a reply
was received. -/
theorem requestAssociation_sound {P : Prop} :
    (∀ port, (requestAssociation calls call sent).1 = some port →
      P ∧ ∃ data, calls.received 10 call = some data ∧ AssociateReply data port) ↔
      ∀ data, NotRefused calls call data → P ∧ WholeIpv4 data := by
  constructor
  · intro h data hdata
    obtain ⟨hp, data', hdata', hreply⟩ := h _ (requestAssociation_eq_some.2 ⟨data, hdata, rfl⟩)
    rw [hdata.2.1] at hdata'
    cases hdata'
    exact ⟨hp, hreply.length_eq, hreply.addressType_eq⟩
  · intro h port hport
    obtain ⟨data, hdata, hport⟩ := requestAssociation_eq_some.1 hport
    obtain ⟨hp, hwhole⟩ := h data hdata
    exact ⟨hp, data, hdata.2.1, (associateReply_iff hdata hport).2 hwhole⟩

/-- The dialogue after a method reply, by the message it logs in with. -/
theorem associateToSocks5Proxy_eq (hsend : calls.send 0 = true)
    (hident : calls.received 2 0 = some ident) (hversion : ident.getD 0 5 = 5)
    (hmethod : ident.getD 1 0 ≠ 0xFF) :
    associateToSocks5Proxy ctx calls =
      if ident.getD 1 0 = 2 then (authMessage ctx).map fun
        | none => (none, identReq ctx)
        | some authReq => login calls (identRespInit.overlay ident) (identReq ctx) authReq
      else .ok (requestAssociation calls 1 (identReq ctx)) := by
  have hv : (identRespInit.overlay ident).version = 5 := hversion
  have hm : (identRespInit.overlay ident).method = ident.getD 1 0 := rfl
  unfold associateToSocks5Proxy authMessage
  simp only [hsend, hident, hv, hm, hmethod, Bool.not_true, Bool.false_eq_true, if_false, ne_eq,
    not_true_eq_false, or_self]
  split
  · cases ctx.socks5Username with
    | none => rfl
    | some username =>
      cases ctx.socks5Password with
      | none => simp only [ite_self]; rfl
      | some password =>
        simp only
        by_cases hu : username.length > socks5UsernameMaxLength ∨ username.length < 1
        · rw [if_pos hu, if_pos (by tauto)]
          rfl
        · rw [if_neg hu]
          by_cases hp : password.length > socks5UsernameMaxLength ∨ password.length < 1
          · rw [if_pos hp, if_pos (by tauto)]
            rfl
          · rw [if_neg hp, if_neg (by tauto)]
            have hmax : username.length ≤ 255 ∧ password.length ≤ 255 := by
              simp only [socks5UsernameMaxLength] at hu hp
              omega
            by_cases hfit : CredentialsFit username password
            · rw [UsernameAuth.init_eq hmax.1 hmax.2 hfit.1 hfit.2]
              rfl
            · rw [UsernameAuth.init_abort hmax.1 hmax.2 hfit]
              rfl
  · rfl

/-- The login returns a port when its status is 0 and the association step does. -/
theorem login_eq_some {identResp : Image 2} {authReq : List UInt8}
    (hmethod : identResp.method = 2) :
    (login calls identResp sent authReq).1 = some port ↔
      calls.send 1 = true ∧ ∃ status, calls.received 2 1 = some status ∧ status.getD 1 2 = 0 ∧
        (requestAssociation calls 2 (sent ++ authReq)).1 = some port := by
  unfold login
  by_cases hsend : calls.send 1 = true
  · simp only [hsend, Bool.not_true, Bool.false_eq_true, if_false, true_and]
    cases hrecv : calls.received 2 1 with
    | none => simp
    | some status =>
      have hstatus : (identResp.overlay status).method = status.getD 1 2 := by
        rw [← hmethod]
        rfl
      simp only [Option.some.injEq, exists_eq_left', hstatus]
      split
      · next hno => exact iff_of_false (by simp) fun h => hno h.1
      · next hyes => exact (and_iff_right (not_not.1 hyes)).symm
  · simp [hsend]

/-- A dialogue that returns is right when its port is. -/
theorem associates_of_ok {port : Option UInt16}
    (h : associateToSocks5Proxy ctx calls = .ok (port, sent)) :
    Associates ctx calls ↔ ∀ p, port = some p → SuccessfulAssociation ctx calls p := by
  constructor
  · rintro ⟨port', sent', h', hp⟩
    rw [h] at h'
    cases h'
    exact hp
  · exact fun hp => ⟨port, sent, h, hp⟩

/-- A dialogue that returns no port is right. -/
theorem associates_of_none (h : associateToSocks5Proxy ctx calls = .ok (none, sent)) :
    Associates ctx calls :=
  (associates_of_ok h).2 fun _ hp => by cases hp

/-- A reply of two bytes of which the second was received was received whole. -/
theorem eq_pair {method other : UInt8} (version : UInt8) (hlen : ident.length ≤ 2)
    (hmethod : ident.getD 1 other = method) (hne : method ≠ other) :
    ident = [ident.getD 0 version, method] := by
  match ident with
  | [] | [_] => exact absurd hmethod.symm hne
  | [_, _] => rw [← hmethod]; rfl
  | _ :: _ :: _ :: _ => simp only [List.length_cons] at hlen; omega

/-- The condition speaks of the method reply that was received. -/
theorem repliesWhole_iff (hsend : calls.send 0 = true)
    (hident : calls.received 2 0 = some ident) :
    RepliesWhole ctx calls ↔ (ident.getD 0 5 = 5 → ident.getD 1 0 ≠ 0xFF →
      if ident.getD 1 0 = 2 then ∀ u p, ctx.Usable u p → CredentialsFit u p ∧
        (calls.send 1 = true → ∀ status, calls.received 2 1 = some status →
          status.getD 1 2 = 0 → ∀ data, NotRefused calls 2 data → WholeIpv4 data)
      else ∀ data, NotRefused calls 1 data → ident = [5, 0] ∧ WholeIpv4 data) := by
  refine ⟨fun h => h hsend ident hident, fun h _ ident' hident' => ?_⟩
  rw [hident] at hident'
  cases hident'
  exact h

/-- A successful dialogue over a method other than 2 selects method 0. -/
theorem successfulAssociation_iff_of_ne (hident : calls.received 2 0 = some ident)
    (hm : ident.getD 1 0 ≠ 2) :
    SuccessfulAssociation ctx calls port ↔
      ident = [5, 0] ∧ ∃ data, calls.received 10 1 = some data ∧ AssociateReply data port := by
  constructor
  · rintro ⟨method, hpair, hoffered, hreply⟩
    obtain rfl : ident = [5, method] := Option.some.inj (hident.symm.trans hpair)
    rcases mem_offeredMethods.1 hoffered with rfl | ⟨rfl, -⟩
    · exact ⟨rfl, hreply⟩
    · exact absurd rfl hm
  · rintro ⟨rfl, hreply⟩
    exact ⟨0, hident, mem_offeredMethods.2 (.inl rfl), hreply⟩

/-- A successful dialogue over method 2, with usable credentials, has status 0. -/
theorem successfulAssociation_iff_of_eq {u p : List UInt8}
    (hident : calls.received 2 0 = some [5, 2]) (huse : ctx.Usable u p) :
    SuccessfulAssociation ctx calls port ↔
      (∃ version, calls.received 2 1 = some [version, 0]) ∧
        ∃ data, calls.received 10 2 = some data ∧ AssociateReply data port := by
  constructor
  · rintro ⟨method, hpair, -, hreply⟩
    obtain rfl : method = 2 := by
      rw [hident] at hpair
      cases hpair
      rfl
    exact hreply.2
  · intro hreply
    have hoffered : 2 ∈ offeredMethods ctx :=
      mem_offeredMethods.2 (.inr ⟨rfl, by rw [huse.username_eq]; rfl⟩)
    exact ⟨2, hident, hoffered, ⟨u, p, huse⟩, hreply⟩

/-- After a method reply that selects neither 2 nor 255 the dialogue is right when both replies were
received whole, the method is 0 and the second reply is one for IPv4. -/
theorem associates_iff_of_ne (hident : calls.received 2 0 = some ident)
    (hm : ident.getD 1 0 ≠ 2)
    (heq : associateToSocks5Proxy ctx calls = .ok (requestAssociation calls 1 sent)) :
    Associates ctx calls ↔
      ∀ data, NotRefused calls 1 data → ident = [5, 0] ∧ WholeIpv4 data := by
  rw [associates_of_ok heq]
  simp only [successfulAssociation_iff_of_ne hident hm]
  exact requestAssociation_sound

/-- After a method reply that selects 2, and with credentials that fit, the dialogue is right when
the ASSOCIATE reply that follows status 0 was received whole and is one for IPv4. -/
theorem associates_iff_of_eq {u p authReq : List UInt8} (hident : calls.received 2 0 = some [5, 2])
    (huse : ctx.Usable u p)
    (heq : associateToSocks5Proxy ctx calls =
      .ok (login calls (identRespInit.overlay [5, 2]) sent authReq)) :
    Associates ctx calls ↔
      (calls.send 1 = true → ∀ status, calls.received 2 1 = some status → status.getD 1 2 = 0 →
        ∀ data, NotRefused calls 2 data → WholeIpv4 data) := by
  rw [associates_of_ok heq]
  simp only [successfulAssociation_iff_of_eq hident huse]
  constructor
  · intro hsound hsend status hstatus hzero data hdata
    have hreply := requestAssociation_sound.1 (fun port hport =>
      hsound port ((login_eq_some rfl).2 ⟨hsend, status, hstatus, hzero, hport⟩)) data hdata
    exact hreply.2
  · intro hcond port hport
    obtain ⟨hsend, status, hstatus, hzero, hport⟩ := (login_eq_some rfl).1 hport
    have hlens := hcond hsend status hstatus hzero
    have hpair : status = [status.getD 0 0, 0] :=
      eq_pair 0 (received_length_le hstatus) hzero (by decide)
    exact requestAssociation_sound.2
      (fun data hdata => ⟨⟨_, hpair ▸ hstatus⟩, hlens data hdata⟩) port hport

/-- After a method reply that selects 2 the dialogue is right when the credentials fit and the
replies were received whole, the last one for IPv4. -/
theorem associates_iff_of_password (hsend : calls.send 0 = true)
    (hident : calls.received 2 0 = some [5, 2]) :
    Associates ctx calls ↔ ∀ u p, ctx.Usable u p → CredentialsFit u p ∧
      (calls.send 1 = true → ∀ status, calls.received 2 1 = some status → status.getD 1 2 = 0 →
        ∀ data, NotRefused calls 2 data → WholeIpv4 data) := by
  have heq : associateToSocks5Proxy ctx calls = _ :=
    associateToSocks5Proxy_eq hsend hident rfl (by decide)
  have hm : ([5, 2] : List UInt8).getD 1 0 = 2 := rfl
  rw [if_pos hm] at heq
  by_cases huse : ∃ u p, ctx.Usable u p
  case neg =>
    have hnone : ∀ u p, ¬ ctx.Usable u p := fun u p h => huse ⟨u, p, h⟩
    rw [authMessage_unusable hnone] at heq
    exact iff_of_true (associates_of_none heq) fun u p h => absurd h (hnone u p)
  obtain ⟨u, p, huse⟩ := huse
  by_cases hfit : CredentialsFit u p
  case neg =>
    rw [authMessage_abort huse hfit] at heq
    refine iff_of_false ?_ fun h => hfit (h u p huse).1
    rintro ⟨_, _, h, -⟩
    rw [heq] at h
    cases h
  rw [authMessage_fit huse hfit] at heq
  rw [associates_iff_of_eq hident huse heq]
  constructor
  · intro hcond u' p' huse'
    obtain ⟨rfl, rfl⟩ := huse.unique huse'
    exact ⟨hfit, hcond⟩
  · exact fun hcond => (hcond u p huse).2

end

/-- For all results of the socket calls and all credentials: a port is returned for complete
successful dialogues only, and it is the BND.PORT of the reply, and in every other case none is
returned, if and only if the dialogue meets `RepliesWhole`. -/
theorem associates_iff (ctx : NegotiateContext) (calls : SocketCalls) :
    Associates ctx calls ↔ RepliesWhole ctx calls := by
  by_cases hsend : calls.send 0 = true
  case neg =>
    have heq : associateToSocks5Proxy ctx calls = .ok (none, []) := by
      simp [associateToSocks5Proxy, hsend]
    exact iff_of_true (associates_of_none heq) fun h => absurd h hsend
  cases hident : calls.received 2 0 with
  | none =>
    have heq : associateToSocks5Proxy ctx calls = .ok (none, identReq ctx) := by
      simp [associateToSocks5Proxy, hsend, hident]
    refine iff_of_true (associates_of_none heq) fun _ ident h => ?_
    rw [hident] at h
    cases h
  | some ident =>
    rw [repliesWhole_iff hsend hident]
    by_cases hgo : ident.getD 0 5 = 5 ∧ ident.getD 1 0 ≠ 0xFF
    case neg =>
      have hno : (identRespInit.overlay ident).version ≠ 5 ∨
          (identRespInit.overlay ident).method = 0xFF := by
        by_contra hyes
        exact hgo ⟨not_not.1 fun h => hyes (.inl h), fun h => hyes (.inr h)⟩
      have heq : associateToSocks5Proxy ctx calls = .ok (none, identReq ctx) := by
        simp only [associateToSocks5Proxy, hsend, hident, Bool.not_true, Bool.false_eq_true,
          if_false, if_pos hno]
      exact iff_of_true (associates_of_none heq) fun hv hm => absurd ⟨hv, hm⟩ hgo
    obtain ⟨hversion, hmethod⟩ := hgo
    simp only [hversion, hmethod, ne_eq, not_false_eq_true, forall_const]
    by_cases hm : ident.getD 1 0 = 2
    · have hpair : ident = [5, 2] := by
        have := eq_pair 5 (received_length_le hident) hm (by decide)
        rwa [hversion] at this
      rw [if_pos hm]
      exact associates_iff_of_password hsend (hpair ▸ hident)
    · rw [if_neg hm]
      have heq : associateToSocks5Proxy ctx calls = _ :=
        associateToSocks5Proxy_eq hsend hident hversion hmethod
      rw [if_neg hm] at heq
      exact associates_iff_of_ne hident hm heq

/-- The server ends its stream before the first reply: port 0 is returned. -/
theorem associates_end_of_stream :
    ¬ Associates ⟨⟨192, 0, 2, 1⟩, 1080, none, none⟩ ⟨fun _ => true, fun _ => some []⟩ := by
  rintro ⟨port, sent, hrun, hport⟩
  have hzero : (associateToSocks5Proxy ⟨⟨192, 0, 2, 1⟩, 1080, none, none⟩
      ⟨fun _ => true, fun _ => some []⟩).map Prod.fst = .ok (some 0) := rfl
  rw [hrun] at hzero
  obtain ⟨method, hident, -⟩ := hport 0 (Except.ok.inj hzero)
  exact absurd hident (by simp [SocketCalls.received])

end CutieProxy
