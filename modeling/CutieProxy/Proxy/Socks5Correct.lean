import CutieProxy.Proxy.Socks5Dialogue

/-!
# The SOCKS5 negotiation against the protocol

The server's bytes cut into whole replies (`wholeReplies`), what a successful dialogue is by
RFC 1928 and RFC 1929 (`Successful`), and what the client has to send in one (`dialogueBytes`).
The state machine starts the relay exactly in the successful dialogues, but for four slips: it takes
any method other than 2 and 255 for "no authentication", it does not read the version of the CONNECT
reply, it copies the credentials only up to their first NUL, and it ends the process on a credential
of 255 characters. `negotiates_iff` is the exact condition.
-/

namespace CutieProxy

open Socks5TcpProxySocket

/-! ## Whole replies -/

/-- The length of the CONNECT reply at the front of a stream, by its address type: 4 for IPv6, 3 for
a name with its length, anything else as long as one for IPv4. `none` when the bytes that say so are
missing. -/
def replyLength : List UInt8 → Option Nat
  | _ :: _ :: _ :: addressType :: rest =>
    if addressType = 4 then some 22
    else if addressType = 3 then rest.head?.map fun length => 7 + length.toNat
    else some 10
  | _ => none

/-- The length of the CONNECT reply at the front of a stream that holds all of it. -/
def completeReply (conn : List UInt8) : Option Nat := (replyLength conn).filter (· ≤ conn.length)

/-- The completions of a CONNECT reply delivered whole, as far as its receive reaches, and of what
follows it. -/
def wholeConnect (conn : List UInt8) : List (List UInt8) :=
  match completeReply conn with
  | some n => [conn.take (min n ReplyBuffer.connectResponse.size),
      conn.drop (min n ReplyBuffer.connectResponse.size)]
  | none => []

/-- The completions of a status reply delivered whole and of what follows it. -/
def wholeStatus : List UInt8 → List (List UInt8)
  | version :: status :: conn => [version, status] :: wholeConnect conn
  | _ => []

/-- The completions of a server's bytes with each reply delivered whole; a reply that is not
complete is the end of the stream. -/
def wholeReplies : List UInt8 → List (List UInt8)
  | version :: method :: rest =>
    [version, method] :: if method = 2 then wholeStatus rest else wholeConnect rest
  | _ => []

/-- The CONNECT reply is complete and has reply code 0. -/
def Answered (conn : List UInt8) : Prop := (completeReply conn).isSome ∧ conn.getD 1 0 = 0

instance (conn : List UInt8) : Decidable (Answered conn) :=
  inferInstanceAs (Decidable (_ ∧ _))

theorem replyLength_ge {conn : List UInt8} {n : Nat} (h : replyLength conn = some n) : 7 ≤ n := by
  unfold replyLength at h
  split at h
  · next addressType rest =>
    split at h
    · cases h; decide
    · split at h
      · cases rest with
        | nil => cases h
        | cons length rest => cases h; exact Nat.le_add_right 7 _
      · cases h; decide
  · cases h

theorem completeReply_some {conn : List UInt8} {n : Nat} (h : completeReply conn = some n) :
    7 ≤ n ∧ n ≤ conn.length := by
  rw [completeReply, Option.filter_eq_some_iff] at h
  exact ⟨replyLength_ge h.1, of_decide_eq_true h.2⟩

/-- A CONNECT reply delivered whole is judged by its reply code. -/
theorem connectPhase_whole (localSocket remoteSocket : Socket) (sent conn : List UInt8) :
    (connectPhase localSocket remoteSocket sent (wholeConnect conn)).1 =
      if Answered conn then relaying sent else refused localSocket remoteSocket sent := by
  unfold wholeConnect
  cases hc : completeReply conn with
  | none => rw [if_neg (by simp [Answered, hc])]; rfl
  | some n =>
    obtain ⟨hn, hlen⟩ := completeReply_some hc
    simp only [connectPhase, ReplyBuffer.size]
    have hcode : (conn.take (min n 10)).getD 1 0 = conn.getD 1 0 := by
      simp only [List.getD_eq_getElem?_getD]
      rw [List.getElem?_take_of_lt (by omega)]
    have hne : conn.take (min n 10) ≠ [] := by
      rw [← List.length_pos_iff, List.length_take]
      omega
    simp only [hcode, hne, ne_eq, not_false_eq_true, true_and, Answered, hc, Option.isSome_some]
    split <;> rfl

/-! ## Successful dialogues -/

/-- The methods the greeting offers. -/
def offeredMethods (ctx : NegotiateContext) : List UInt8 :=
  if ctx.socks5Username.isSome then [0, 2] else [0]

/-- The CONNECT reply is complete, of version 5 and with reply code 0. -/
def ConnectSucceeds (conn : List UInt8) : Prop := Answered conn ∧ conn.head? = some 5

/-- The server's bytes make a successful dialogue: a method reply of version 5 with an offered
method, status 0 for usable credentials when that method is 2, and a successful CONNECT reply. -/
def Successful (ctx : NegotiateContext) : List UInt8 → Prop
  | version :: method :: rest =>
    version = 5 ∧ method ∈ offeredMethods ctx ∧
      if method = 2 then (∃ u p, ctx.Usable u p) ∧
        ∃ authVersion conn, rest = authVersion :: 0 :: conn ∧ ConnectSucceeds conn
      else ConnectSucceeds rest
  | _ => False

/-- What the client sends in a successful dialogue: the greeting, the RFC 1929 message when method 2
was selected, and the CONNECT request. -/
def dialogueBytes (ctx : NegotiateContext) (stream : List UInt8) : List UInt8 :=
  [5, UInt8.ofNat (offeredMethods ctx).length] ++ offeredMethods ctx ++
    (if stream.getD 1 0 = 2 then
      UsernameAuth.rfc1929 (ctx.socks5Username.getD []) (ctx.socks5Password.getD [])
    else []) ++
    ([5, 1, 0, 1] ++ ctx.remoteAddress.toBytes ++ beBytes ctx.remotePort)

/-- The relay is started exactly in the successful dialogues, both sockets are closed in all others,
and a successful dialogue sends the bytes it has to. -/
def Negotiates (localSocket remoteSocket : Socket) (ctx : NegotiateContext)
    (stream : List UInt8) : Prop :=
  ∃ s rest, run localSocket remoteSocket ctx (wholeReplies stream) = .ok (s, rest) ∧
    (s.relayStarted = true ↔ Successful ctx stream) ∧
    (s.relayStarted = false → localSocket ∈ s.closed ∧ remoteSocket ∈ s.closed) ∧
    (s.relayStarted = true → s.sent = dialogueBytes ctx stream)

/-- The condition: credentials that method 2 asks for have fewer than 255 characters; where the
server goes on to a complete CONNECT reply with code 0, its method was 0 or 2, that reply has
version 5, and credentials sent have no byte but zeros after a zero. -/
def Unambiguous (ctx : NegotiateContext) : List UInt8 → Prop
  | version :: method :: rest => version = 5 → method ≠ 0xFF →
    if method = 2 then ∀ u p, ctx.Usable u p → CredentialsFit u p ∧
      ∀ authVersion conn, rest = authVersion :: 0 :: conn → Answered conn →
        conn.head? = some 5 ∧ UsernameAuth.zeroTail u = u ∧ UsernameAuth.zeroTail p = p
    else Answered rest → method = 0 ∧ rest.head? = some 5
  | _ => True

theorem identReq_eq (ctx : NegotiateContext) :
    identReq ctx = [5, UInt8.ofNat (offeredMethods ctx).length] ++ offeredMethods ctx := by
  unfold identReq offeredMethods
  cases ctx.socks5Username <;> rfl

theorem connectRequest_eq (ctx : NegotiateContext) :
    connectRequest ctx = [5, 1, 0, 1] ++ ctx.remoteAddress.toBytes ++ beBytes ctx.remotePort := by
  rw [connectRequest, socks5Req, leBytes_htons]
  rfl

/-- What a successful dialogue sends, by the requests of the code. -/
theorem dialogueBytes_eq (ctx : NegotiateContext) (stream : List UInt8) :
    dialogueBytes ctx stream = identReq ctx ++
      (if stream.getD 1 0 = 2 then
        UsernameAuth.rfc1929 (ctx.socks5Username.getD []) (ctx.socks5Password.getD [])
      else []) ++ connectRequest ctx := by
  rw [identReq_eq, connectRequest_eq, dialogueBytes]

/-- Method 0 is always offered, method 2 when there is a user name, no other method ever. -/
theorem mem_offeredMethods {ctx : NegotiateContext} {method : UInt8} :
    method ∈ offeredMethods ctx ↔
      method = 0 ∨ method = 2 ∧ ctx.socks5Username.isSome = true := by
  unfold offeredMethods
  split
  · next h => simp [h]
  · next h => simp [h]

/-! ## The machine on whole replies -/

section Judge

variable {localSocket remoteSocket : Socket} {ctx : NegotiateContext} {stream : List UInt8}

/-- What `Negotiates` asks of an outcome. -/
structure Judged (localSocket remoteSocket : Socket) (ctx : NegotiateContext)
    (stream : List UInt8) (o : NegotiateOutcome) : Prop where
  started : o.relayStarted = true ↔ Successful ctx stream
  closed : o.relayStarted = false → localSocket ∈ o.closed ∧ remoteSocket ∈ o.closed
  bytes : o.relayStarted = true → o.sent = dialogueBytes ctx stream

/-- What holds of the machine is a statement about the phases. -/
theorem negotiates_iff_judged :
    Negotiates localSocket remoteSocket ctx stream ↔
      ∃ o, (loginPhase localSocket remoteSocket ctx (wholeReplies stream)).map Prod.fst = .ok o ∧
        Judged localSocket remoteSocket ctx stream o := by
  rw [← observe_run]
  constructor
  · rintro ⟨s, rest, hrun, hstarted, hclosed, hbytes⟩
    exact ⟨⟨s.sent, s.closed, s.relayStarted⟩, by rw [hrun]; rfl, hstarted, hclosed, hbytes⟩
  · rintro ⟨o, ho, hjudged⟩
    cases hrun : run localSocket remoteSocket ctx (wholeReplies stream) with
    | error e => rw [hrun] at ho; cases ho
    | ok result =>
      obtain ⟨s, rest⟩ := result
      rw [hrun] at ho
      cases ho
      exact ⟨s, rest, hrun, hjudged.started, hjudged.closed, hjudged.bytes⟩

/-- A refusal is right exactly when the dialogue is not successful. -/
theorem judged_refused {sent : List UInt8} :
    Judged localSocket remoteSocket ctx stream (refused localSocket remoteSocket sent) ↔
      ¬ Successful ctx stream := by
  have hnot : ¬ (refused localSocket remoteSocket sent).relayStarted = true := by simp [refused]
  constructor
  · exact fun h hsucc => hnot (h.started.2 hsucc)
  · intro h
    exact ⟨⟨fun hf => absurd hf hnot, fun hs => absurd hs h⟩, fun _ => by simp [refused],
      fun hf => absurd hf hnot⟩

/-- A relay is right exactly when the dialogue is successful and sent the bytes it has to. -/
theorem judged_relaying {sent : List UInt8} :
    Judged localSocket remoteSocket ctx stream (relaying sent) ↔
      Successful ctx stream ∧ sent = dialogueBytes ctx stream :=
  ⟨fun h => ⟨h.started.1 rfl, h.bytes rfl⟩,
    fun h => ⟨⟨fun _ => h.1, fun _ => rfl⟩, fun hf => by simp [relaying] at hf, fun _ => h.2⟩⟩

/-- From the CONNECT request on. -/
theorem judged_connect {sent conn : List UInt8}
    (hsucc : Successful ctx stream → Answered conn) :
    Judged localSocket remoteSocket ctx stream
        (connectPhase localSocket remoteSocket sent (wholeConnect conn)).1 ↔
      (Answered conn → Successful ctx stream ∧ sent = dialogueBytes ctx stream) := by
  rw [connectPhase_whole]
  split
  · next h => rw [judged_relaying]; exact ⟨fun hj _ => hj, fun hj => hj h⟩
  · next h =>
    rw [judged_refused]
    exact ⟨fun _ ha => absurd ha h, fun _ hs => h (hsucc hs)⟩

/-- The outcome of the phases is the one that is judged. -/
theorem exists_ok_iff {o : NegotiateOutcome} {P : NegotiateOutcome → Prop} :
    (∃ o', (Except.ok o : Except Abort NegotiateOutcome) = .ok o' ∧ P o') ↔ P o :=
  ⟨fun ⟨_, h, hp⟩ => by cases h; exact hp, fun hp => ⟨o, rfl, hp⟩⟩

end Judge

/-- The phases on a method reply delivered whole. -/
theorem loginPhase_whole (localSocket remoteSocket : Socket) (ctx : NegotiateContext)
    (version method : UInt8) (rest : List UInt8) :
    loginPhase localSocket remoteSocket ctx (wholeReplies (version :: method :: rest)) =
      if version ≠ 5 ∨ method = 0xFF then
        .ok (refused localSocket remoteSocket (identReq ctx),
          if method = 2 then wholeStatus rest else wholeConnect rest)
      else if method = 2 then (authMessage ctx).map fun
        | none => (refused localSocket remoteSocket (identReq ctx), wholeStatus rest)
        | some message => passwordPhase localSocket remoteSocket ctx (identReq ctx ++ message)
            (wholeStatus rest)
      else .ok (connectPhase localSocket remoteSocket (identReq ctx ++ connectRequest ctx)
        (wholeConnect rest)) := by
  rw [wholeReplies, loginPhase_method]
  by_cases hm : method = 2
  · subst hm
    rfl
  · simp only [hm, if_false]

/-- A successful dialogue with method 2 needs a status reply. -/
theorem successful_password {ctx : NegotiateContext} {rest u p : List UInt8}
    (h : ctx.Usable u p) : Successful ctx (5 :: 2 :: rest) ↔
      ∃ authVersion conn, rest = authVersion :: 0 :: conn ∧ ConnectSucceeds conn := by
  simp only [Successful, if_true, true_and]
  exact ⟨fun ⟨_, _, hr⟩ => hr, fun hr => ⟨mem_offeredMethods.2
    (.inr ⟨rfl, by rw [h.username_eq]; rfl⟩), ⟨u, p, h⟩, hr⟩⟩

/-- From the username/password message on, with credentials that fit. -/
theorem judged_password {localSocket remoteSocket : Socket} {ctx : NegotiateContext}
    {rest u p : List UInt8} (h : ctx.Usable u p) :
    Judged localSocket remoteSocket ctx (5 :: 2 :: rest)
        (passwordPhase localSocket remoteSocket ctx (identReq ctx ++ UsernameAuth.rfc1929
          (UsernameAuth.zeroTail u) (UsernameAuth.zeroTail p)) (wholeStatus rest)).1 ↔
      ∀ authVersion conn, rest = authVersion :: 0 :: conn → Answered conn →
        conn.head? = some 5 ∧ UsernameAuth.zeroTail u = u ∧ UsernameAuth.zeroTail p = p := by
  match rest with
  | [] => exact judged_refused.trans (by simp [successful_password h])
  | [_] => exact judged_refused.trans (by simp [successful_password h])
  | authVersion :: status :: conn =>
    simp only [wholeStatus, passwordPhase, ne_eq, reduceCtorEq, not_false_eq_true, true_and,
      List.getD_cons_succ, List.getD_cons_zero]
    by_cases hs : status = 0
    · subst hs
      rw [if_pos rfl, judged_connect]
      · have hbytes : identReq ctx ++ UsernameAuth.rfc1929 (UsernameAuth.zeroTail u)
              (UsernameAuth.zeroTail p) ++ connectRequest ctx =
            dialogueBytes ctx (5 :: 2 :: authVersion :: 0 :: conn) ↔
            UsernameAuth.zeroTail u = u ∧ UsernameAuth.zeroTail p = p := by
          rw [dialogueBytes_eq, h.username_eq, h.password_eq]
          simp only [List.getD_cons_succ, List.getD_cons_zero, if_true, Option.getD_some,
            List.append_cancel_right_eq, List.append_cancel_left_eq]
          exact UsernameAuth.rfc1929_inj (by simp) (by simp)
        rw [hbytes, successful_password h]
        constructor
        · rintro hj _ _ heq ha
          cases heq
          obtain ⟨⟨_, _, heq, hc⟩, hz⟩ := hj ha
          cases heq
          exact ⟨hc.2, hz⟩
        · intro hj ha
          obtain ⟨hhead, hz⟩ := hj authVersion conn rfl ha
          exact ⟨⟨authVersion, conn, rfl, ha, hhead⟩, hz⟩
      · rintro hsucc
        obtain ⟨_, _, heq, hc⟩ := (successful_password h).1 hsucc
        cases heq
        exact hc.1
    · rw [if_neg hs]
      refine judged_refused.trans (iff_of_true ?_ ?_)
      · rintro hsucc
        obtain ⟨_, _, heq, -⟩ := (successful_password h).1 hsucc
        cases heq
        exact hs rfl
      · rintro _ _ heq
        cases heq
        exact absurd rfl hs

/-- For every stream of the server, each reply delivered whole: the relay is started exactly in the
successful dialogues, every other dialogue closes both sockets, and a successful one sends exactly
its bytes, if and only if the stream and the credentials meet `Unambiguous`. -/
theorem negotiates_iff (localSocket remoteSocket : Socket) (ctx : NegotiateContext)
    (stream : List UInt8) :
    Negotiates localSocket remoteSocket ctx stream ↔ Unambiguous ctx stream := by
  rw [negotiates_iff_judged]
  match stream with
  | [] => exact exists_ok_iff.trans (judged_refused.trans (by simp [Successful, Unambiguous]))
  | [_] => exact exists_ok_iff.trans (judged_refused.trans (by simp [Successful, Unambiguous]))
  | version :: method :: rest =>
    rw [loginPhase_whole]
    by_cases href : version ≠ 5 ∨ method = 0xFF
    · rw [if_pos href]
      refine exists_ok_iff.trans (judged_refused.trans (iff_of_true ?_ ?_))
      · rintro ⟨hv, hm, -⟩
        rcases mem_offeredMethods.1 hm with rfl | ⟨rfl, -⟩ <;> exact href.elim (· hv) (by decide)
      · exact fun hv hm => absurd href (by simp [hv, hm])
    · rw [if_neg href]
      obtain ⟨rfl, hff⟩ : version = 5 ∧ method ≠ 0xFF := by
        simpa [not_or] using href
      by_cases hm : method = 2
      · subst hm
        by_cases huse : ∃ u p, ctx.Usable u p
        · obtain ⟨u, p, huse⟩ := huse
          -- the credentials of a context are the only ones `Unambiguous` speaks of
          have hunamb : Unambiguous ctx (5 :: 2 :: rest) ↔ CredentialsFit u p ∧
              ∀ authVersion conn, rest = authVersion :: 0 :: conn → Answered conn →
                conn.head? = some 5 ∧ UsernameAuth.zeroTail u = u ∧
                  UsernameAuth.zeroTail p = p := by
            refine ⟨fun h => h rfl hff u p huse, fun h _ _ u' p' huse' => ?_⟩
            obtain ⟨rfl, rfl⟩ := huse.unique huse'
            exact h
          rw [hunamb]
          by_cases hfit : CredentialsFit u p
          · rw [authMessage_fit huse hfit]
            exact exists_ok_iff.trans ((judged_password huse).trans (by simp [hfit]))
          · rw [authMessage_abort huse hfit]
            exact iff_of_false (by rintro ⟨o, ho, -⟩; cases ho) (fun h => hfit h.1)
        · have huse' : ∀ u p, ¬ ctx.Usable u p := fun u p h => huse ⟨u, p, h⟩
          rw [authMessage_unusable huse']
          refine exists_ok_iff.trans (judged_refused.trans (iff_of_true ?_ ?_))
          · rintro ⟨-, -, hc⟩
            exact huse hc.1
          · exact fun _ _ u p h => absurd h (huse' u p)
      · rw [if_neg hm]
        have hbytes : identReq ctx ++ connectRequest ctx =
            dialogueBytes ctx (5 :: method :: rest) := by
          rw [dialogueBytes_eq]
          simp [hm]
        have hsucc : Successful ctx (5 :: method :: rest) ↔
            method = 0 ∧ Answered rest ∧ rest.head? = some 5 := by
          simp only [Successful, true_and, if_neg hm, mem_offeredMethods]
          simp [hm, ConnectSucceeds]
        refine exists_ok_iff.trans ((judged_connect fun h => (hsucc.1 h).2.1).trans ?_)
        simp only [hsucc, hbytes, and_true, Unambiguous, if_neg hm]
        exact ⟨fun h _ _ ha => ⟨(h ha).1, (h ha).2.2⟩,
          fun h ha => ⟨(h trivial hff ha).1, ha, (h trivial hff ha).2⟩⟩

/-- A server that selects method 1, which was not offered, has its relay started. -/
theorem negotiates_method_not_offered :
    ¬ Negotiates 0 1 ⟨⟨192, 0, 2, 1⟩, 80, none, none⟩ [5, 1, 5, 0, 0, 1, 0, 0, 0, 0, 0, 0] := by
  rintro ⟨s, rest, hrun, hstarted, -, -⟩
  have hrelay : (run 0 1 ⟨⟨192, 0, 2, 1⟩, 80, none, none⟩
      (wholeReplies [5, 1, 5, 0, 0, 1, 0, 0, 0, 0, 0, 0])).map (·.1.relayStarted) = .ok true := rfl
  rw [hrun] at hrelay
  have hsucc := hstarted.1 (Except.ok.inj hrelay)
  exact absurd hsucc.2.1 (by decide)

end CutieProxy
