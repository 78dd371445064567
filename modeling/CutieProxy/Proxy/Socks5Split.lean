import CutieProxy.Proxy.Socks5Correct

/-!
# Splitting the replies of the SOCKS5 server

The handler reads a reply structure after any completion, however few bytes it delivered, and a
CONNECT reply longer than the structure is read in part. `SplitIndependent` says that a run over
some completions shows what the run over whole replies shows and leaves the relay the bytes after
the CONNECT reply; `splitIndependent_iff` is the exact condition on the completions. `Agrees` is
`SplitIndependent` from a phase on, and is decided one phase at a time.
-/

namespace CutieProxy

open Socks5TcpProxySocket

/-! ## The property -/

/-- The bytes after the complete CONNECT reply at the front of a stream. -/
def afterConnect (conn : List UInt8) : Option (List UInt8) :=
  (completeReply conn).map fun n => conn.drop n

/-- The bytes after a status reply and a complete CONNECT reply. -/
def afterStatus : List UInt8 → Option (List UInt8)
  | _ :: _ :: conn => afterConnect conn
  | _ => none

/-- The bytes of a server after its complete CONNECT reply. -/
def afterReplies : List UInt8 → Option (List UInt8)
  | _ :: method :: rest => if method = 2 then afterStatus rest else afterConnect rest
  | _ => none

/-- A run shows the same as with whole replies, and a relay it starts begins right after the CONNECT
reply. -/
def SplitIndependent (localSocket remoteSocket : Socket) (ctx : NegotiateContext)
    (chunks : List (List UInt8)) : Prop :=
  (run localSocket remoteSocket ctx chunks).map (fun r => (observe r).1) =
      (run localSocket remoteSocket ctx (wholeReplies chunks.flatten)).map
        (fun r => (observe r).1) ∧
    ∀ s rest, run localSocket remoteSocket ctx chunks = .ok (s, rest) → s.relayStarted = true →
      afterReplies chunks.flatten = some rest.flatten

/-! ## The condition -/

/-- From the CONNECT request on: the first completion has at least two bytes, and with reply code 0
it is the CONNECT reply, all of it and nothing else. -/
def ConnectDelivered : List (List UInt8) → Prop
  | [] => True
  | chunk :: chunks => 2 ≤ chunk.length ∧
      (chunk.getD 1 0 = 0 → completeReply (chunk :: chunks).flatten = some chunk.length)

/-- From the username/password message on: a status reply delivered by itself is followed by such
completions, and half a status reply is not followed by status 0. -/
def PasswordDelivered : List (List UInt8) → Prop
  | [_] :: chunks => chunks.flatten.head? ≠ some 0
  | (_ :: status :: _) :: chunks => status = 0 → ConnectDelivered chunks
  | _ => True

/-- After half a method reply of version 5: the next completion goes on with a method other than 2
and 255 and at least the first byte of the CONNECT reply, which is read as its reply code: where it
is 0 the rest of the completion is the whole CONNECT reply, with code 0, and where it is not 0 the
CONNECT reply is incomplete or has another code. -/
def HalfMethodDelivered : List (List UInt8) → Prop
  | (method :: code :: rest) :: chunks => method ≠ 2 ∧ method ≠ 0xFF ∧
      if code = 0 then Answered (code :: rest ++ chunks.flatten) ∧
        completeReply (code :: rest ++ chunks.flatten) = some (code :: rest).length
      else ¬ Answered (code :: rest ++ chunks.flatten)
  | _ => False

/-- The condition on the completions of a run. -/
def Delivered (ctx : NegotiateContext) : List (List UInt8) → Prop
  | [version] :: chunks => version = 5 → HalfMethodDelivered chunks
  | (version :: method :: _) :: chunks => version = 5 →
      if method = 2 then ∀ u p, ctx.Usable u p → CredentialsFit u p → PasswordDelivered chunks
      else method ≠ 0xFF → ConnectDelivered chunks
  | _ => True

/-! ## One phase at a time -/

/-- The outcome `a` over some completions is the outcome `b` over whole replies, and a relay started
begins with the bytes `after`. -/
def Agrees (a : NegotiateOutcome × List (List UInt8)) (b : NegotiateOutcome)
    (after : Option (List UInt8)) : Prop :=
  a.1 = b ∧ (a.1.relayStarted = true → after = some a.2.flatten)

section Phases

variable {localSocket remoteSocket : Socket} {ctx : NegotiateContext} {sent : List UInt8}
  {chunk : List UInt8} {chunks : List (List UInt8)}

/-- The CONNECT reply ends with a completion exactly when it is as long. -/
theorem afterConnect_eq_some :
    afterConnect (chunk :: chunks).flatten = some chunks.flatten ↔
      completeReply (chunk :: chunks).flatten = some chunk.length := by
  rw [afterConnect]
  cases hc : completeReply (chunk :: chunks).flatten with
  | none => simp
  | some n =>
    obtain ⟨-, hle⟩ := completeReply_some hc
    simp only [Option.map_some, Option.some.injEq, List.flatten_cons]
    constructor
    · intro h
      have hlen := congrArg List.length h
      rw [List.flatten_cons] at hle
      rw [List.length_drop, List.length_append] at hlen
      rw [List.length_append] at hle
      omega
    · rintro rfl
      exact List.drop_left' rfl

/-- A refusal agrees with a refusal only. -/
theorem agrees_refused {b : NegotiateOutcome} {after : Option (List UInt8)} :
    Agrees (refused localSocket remoteSocket sent, chunks) b after ↔
      b = refused localSocket remoteSocket sent :=
  ⟨fun h => h.1.symm, fun h => ⟨h.symm, fun hf => by simp [refused] at hf⟩⟩

/-- A relay agrees with a relay that begins with the same bytes. -/
theorem agrees_relaying {b : NegotiateOutcome} {after : Option (List UInt8)} :
    Agrees (relaying sent, chunks) b after ↔ b = relaying sent ∧ after = some chunks.flatten :=
  ⟨fun h => ⟨h.1.symm, h.2 rfl⟩, fun h => ⟨h.1.symm, fun _ => h.2⟩⟩

/-- Whole replies start the relay exactly when the CONNECT reply is answered. -/
theorem connectPhase_whole_eq_relaying {conn : List UInt8} :
    (connectPhase localSocket remoteSocket sent (wholeConnect conn)).1 = relaying sent ↔
      Answered conn := by
  rw [connectPhase_whole]
  split
  · next h => exact iff_of_true rfl h
  · next h => exact iff_of_false refused_ne_relaying h

theorem connectPhase_whole_eq_refused {conn : List UInt8} :
    (connectPhase localSocket remoteSocket sent (wholeConnect conn)).1 =
      refused localSocket remoteSocket sent ↔ ¬ Answered conn := by
  rw [connectPhase_whole]
  split
  · next h => exact iff_of_false refused_ne_relaying.symm (not_not.2 h)
  · next h => exact iff_of_true rfl h

/-- From the CONNECT request on. -/
theorem agrees_connect (hchunk : ∀ c ∈ chunks.head?, 1 ≤ c.length) :
    Agrees (connectPhase localSocket remoteSocket sent chunks)
        (connectPhase localSocket remoteSocket sent (wholeConnect chunks.flatten)).1
        (afterConnect chunks.flatten) ↔ ConnectDelivered chunks := by
  cases chunks with
  | nil => exact iff_of_true ⟨rfl, fun hf => by simp [connectPhase, refused] at hf⟩ trivial
  | cons chunk chunks =>
    have hpos : 1 ≤ chunk.length := hchunk chunk rfl
    have hne : chunk ≠ [] := List.length_pos_iff.1 hpos
    -- the second byte of a completion of two bytes is that of the stream
    have hcode : 2 ≤ chunk.length → (chunk :: chunks).flatten.getD 1 0 = chunk.getD 1 0 := by
      intro hlen
      simp only [List.flatten_cons, List.getD_eq_getElem?_getD]
      rw [List.getElem?_append_left (by omega)]
    rw [connectPhase, ConnectDelivered]
    by_cases hzero : chunk.getD 1 0 = 0
    · rw [if_pos ⟨hne, hzero⟩, agrees_relaying, connectPhase_whole_eq_relaying,
        afterConnect_eq_some]
      constructor
      · rintro ⟨-, hafter⟩
        obtain ⟨hn, -⟩ := completeReply_some hafter
        exact ⟨by omega, fun _ => hafter⟩
      · rintro ⟨hlen, hafter⟩
        have hafter := hafter hzero
        exact ⟨⟨by rw [hafter]; rfl, (hcode hlen).trans hzero⟩, hafter⟩
    · rw [if_neg fun h => hzero h.2, agrees_refused, connectPhase_whole_eq_refused]
      have hlen : 2 ≤ chunk.length := by
        by_contra hlt
        apply hzero
        rw [List.getD_eq_getElem?_getD, List.getElem?_eq_none (by omega)]
        rfl
      exact iff_of_true (fun ha => hzero ((hcode hlen).symm.trans ha.2))
        ⟨hlen, fun h => absurd h hzero⟩

/-- A CONNECT request was sent on top of what had been sent. -/
theorem sent_connect_ne {sent' : List UInt8} :
    (connectPhase localSocket remoteSocket (sent ++ connectRequest ctx) (wholeConnect sent')).1 ≠
      refused localSocket remoteSocket sent := by
  rw [connectPhase_whole]
  split
  · exact refused_ne_relaying.symm
  · simp [refused, connectRequest_eq]

/-- From the username/password message on. -/
theorem agrees_password (hchunk : ∀ c ∈ chunks.head?, 1 ≤ c.length ∧ c.length ≤ 2)
    (hnext : ∀ v cs, chunks = [v, 0] :: cs → ∀ c ∈ cs.head?, 1 ≤ c.length) :
    Agrees (passwordPhase localSocket remoteSocket ctx sent chunks)
        (passwordPhase localSocket remoteSocket ctx sent (wholeStatus chunks.flatten)).1
        (afterStatus chunks.flatten) ↔ PasswordDelivered chunks := by
  match chunks with
  | [] => exact iff_of_true ⟨rfl, fun hf => by simp [passwordPhase, refused] at hf⟩ trivial
  | [] :: _ => exact absurd (hchunk [] rfl).1 (by decide)
  | (_ :: _ :: _ :: _) :: _ =>
    have := (hchunk _ rfl).2
    simp only [List.length_cons] at this
    omega
  | [version] :: chunks =>
    -- half a status reply reads as the method of the first reply, which is not 0
    have hphase : passwordPhase localSocket remoteSocket ctx sent ([version] :: chunks) =
        (refused localSocket remoteSocket sent, chunks) := by
      simp [passwordPhase]
    rw [hphase, agrees_refused]
    simp only [PasswordDelivered, List.flatten_cons, List.singleton_append]
    cases chunks.flatten with
    | nil => exact iff_of_true rfl (by simp)
    | cons status conn =>
      simp only [wholeStatus, passwordPhase, List.getD_cons_succ, List.getD_cons_zero, ne_eq,
        reduceCtorEq, not_false_eq_true, true_and, List.head?_cons, Option.some.injEq]
      by_cases hs : status = 0
      · rw [if_pos hs]
        exact iff_of_false sent_connect_ne (not_not.2 hs)
      · rw [if_neg hs]
        exact iff_of_true rfl hs
  | [version, status] :: chunks =>
    simp only [wholeStatus, passwordPhase, List.getD_cons_succ, List.getD_cons_zero, ne_eq,
      reduceCtorEq, not_false_eq_true, true_and, PasswordDelivered, List.flatten_cons,
      List.cons_append, List.nil_append, afterStatus]
    by_cases hs : status = 0
    · subst hs
      simp only [if_true, forall_const]
      exact agrees_connect (hnext version chunks rfl)
    · rw [if_neg hs, if_neg hs]
      exact iff_of_true (agrees_refused.2 rfl) fun h => absurd h hs

/-- Nothing is sent after the CONNECT request. -/
theorem connectPhase_sent (chunks : List (List UInt8)) :
    (connectPhase localSocket remoteSocket sent chunks).1.sent = sent := by
  unfold connectPhase
  split
  · rfl
  · split <;> rfl

/-- What was sent up to the username/password message stays at the front. -/
theorem passwordPhase_sent (chunks : List (List UInt8)) :
    ∃ tail, (passwordPhase localSocket remoteSocket ctx sent chunks).1.sent = sent ++ tail := by
  unfold passwordPhase
  split
  · exact ⟨[], by simp [refused]⟩
  · split
    · exact ⟨connectRequest ctx, connectPhase_sent _⟩
    · exact ⟨[], by simp [refused]⟩

/-- The CONNECT request follows the greeting of a whole method reply for a method other than 2 and
255 only. -/
theorem method_of_sent_connect {method : UInt8} {rest : List UInt8} {b : NegotiateOutcome}
    (hb : (loginPhase localSocket remoteSocket ctx (wholeReplies (5 :: method :: rest))).map
      Prod.fst = .ok b) (hsent : b.sent = identReq ctx ++ connectRequest ctx) :
    method ≠ 2 ∧ method ≠ 0xFF := by
  have hconnect : connectRequest ctx ≠ [] := by simp [connectRequest_eq]
  rw [loginPhase_whole] at hb
  constructor
  · rintro rfl
    rw [if_neg (by decide), if_pos rfl] at hb
    by_cases huse : ∃ u p, ctx.Usable u p
    · obtain ⟨u, p, huse⟩ := huse
      by_cases hfit : CredentialsFit u p
      · rw [authMessage_fit huse hfit] at hb
        cases hb
        obtain ⟨tail, htail⟩ : ∃ tail, (passwordPhase localSocket remoteSocket ctx
            (identReq ctx ++ UsernameAuth.rfc1929 (UsernameAuth.zeroTail u)
              (UsernameAuth.zeroTail p)) (wholeStatus rest)).1.sent =
            identReq ctx ++ UsernameAuth.rfc1929 (UsernameAuth.zeroTail u)
              (UsernameAuth.zeroTail p) ++ tail := passwordPhase_sent _
        -- the username/password message starts with version 1, the request with version 5
        have heq := htail.symm.trans hsent
        rw [List.append_assoc, List.append_cancel_left_eq, connectRequest_eq] at heq
        simp [UsernameAuth.rfc1929] at heq
      · rw [authMessage_abort huse hfit] at hb
        cases hb
    · rw [authMessage_unusable fun u p h => huse ⟨u, p, h⟩] at hb
      cases hb
      simp [refused, hconnect] at hsent
  · rintro rfl
    rw [if_pos (by decide)] at hb
    cases hb
    simp [refused, hconnect] at hsent

/-- Half a method reply, the rest of it by itself: the relay would begin with the CONNECT reply. -/
theorem not_agrees_half_byte {method : UInt8} {b : NegotiateOutcome}
    (hb : (loginPhase localSocket remoteSocket ctx
      (wholeReplies (5 :: ([method] :: chunks).flatten))).map Prod.fst = .ok b) :
    ¬ Agrees (connectPhase localSocket remoteSocket (identReq ctx ++ connectRequest ctx)
      ([method] :: chunks)) b (afterReplies (5 :: ([method] :: chunks).flatten)) := by
  intro hagree
  have hsent := (congrArg NegotiateOutcome.sent hagree.1).symm.trans (connectPhase_sent _)
  obtain ⟨htwo, -⟩ := method_of_sent_connect hb hsent
  have hphase : connectPhase localSocket remoteSocket (identReq ctx ++ connectRequest ctx)
      ([method] :: chunks) = (relaying (identReq ctx ++ connectRequest ctx), chunks) := by
    simp [connectPhase]
  rw [hphase] at hagree
  have hafter := (agrees_relaying.1 hagree).2
  simp only [List.flatten_cons, List.singleton_append, afterReplies, if_neg htwo, afterConnect,
    Option.map_eq_some_iff] at hafter
  obtain ⟨n, hn, hdrop⟩ := hafter
  have hlen := congrArg List.length hdrop
  have hbounds := completeReply_some hn
  rw [List.length_drop] at hlen
  omega

/-- Half a method reply, the rest of it with the beginning of the CONNECT reply, whose first byte is
read as its reply code. -/
theorem agrees_half_code {method code : UInt8} {rest : List UInt8} (htwo : method ≠ 2)
    (hff : method ≠ 0xFF) :
    (∃ b, (loginPhase localSocket remoteSocket ctx
        (wholeReplies (5 :: method :: ((code :: rest) :: chunks).flatten))).map Prod.fst = .ok b ∧
      Agrees (connectPhase localSocket remoteSocket (identReq ctx ++ connectRequest ctx)
          ((method :: code :: rest) :: chunks)) b
        (afterReplies (5 :: method :: ((code :: rest) :: chunks).flatten))) ↔
      if code = 0 then Answered (code :: rest ++ chunks.flatten) ∧
        completeReply (code :: rest ++ chunks.flatten) = some (code :: rest).length
      else ¬ Answered (code :: rest ++ chunks.flatten) := by
  have hphase : connectPhase localSocket remoteSocket (identReq ctx ++ connectRequest ctx)
      ((method :: code :: rest) :: chunks) =
        if code = 0 then (relaying (identReq ctx ++ connectRequest ctx), chunks)
        else (refused localSocket remoteSocket (identReq ctx ++ connectRequest ctx), chunks) := by
    simp [connectPhase]
  rw [loginPhase_whole, if_neg (by simp [hff]), if_neg htwo]
  simp only [afterReplies, if_neg htwo]
  refine exists_ok_iff.trans ?_
  rw [hphase]
  by_cases hcode : code = 0
  · rw [if_pos hcode, if_pos hcode, agrees_relaying, connectPhase_whole_eq_relaying,
      afterConnect_eq_some]
    rfl
  · rw [if_neg hcode, if_neg hcode, agrees_refused, connectPhase_whole_eq_refused]
    rfl

/-- Half a method reply of version 5: the handler goes on to the CONNECT request. -/
theorem agrees_half (hnext : ∀ c ∈ chunks.head?, 1 ≤ c.length) :
    (∃ b, (loginPhase localSocket remoteSocket ctx (wholeReplies (5 :: chunks.flatten))).map
        Prod.fst = .ok b ∧
      Agrees (connectPhase localSocket remoteSocket (identReq ctx ++ connectRequest ctx) chunks) b
        (afterReplies (5 :: chunks.flatten))) ↔ HalfMethodDelivered chunks := by
  match chunks with
  | [] =>
    refine iff_of_false ?_ id
    rintro ⟨b, hb, hagree⟩
    cases hb
    have hconnect : connectRequest ctx ≠ [] := by simp [connectRequest_eq]
    have := congrArg NegotiateOutcome.sent hagree.1
    simp [connectPhase, refused, hconnect] at this
  | [] :: _ => exact absurd (hnext [] rfl) (by decide)
  | [method] :: chunks =>
    refine iff_of_false ?_ id
    rintro ⟨b, hb, hagree⟩
    exact not_agrees_half_byte hb hagree
  | (method :: code :: rest) :: chunks =>
    have hflat : 5 :: ((method :: code :: rest) :: chunks).flatten =
        5 :: method :: ((code :: rest) :: chunks).flatten := rfl
    rw [hflat, HalfMethodDelivered]
    by_cases hmethod : method ≠ 2 ∧ method ≠ 0xFF
    · obtain ⟨htwo, hff⟩ := hmethod
      exact (agrees_half_code htwo hff).trans ⟨fun h => ⟨htwo, hff, h⟩, fun h => h.2.2⟩
    · refine iff_of_false ?_ fun h => hmethod ⟨h.1, h.2.1⟩
      rintro ⟨b, hb, hagree⟩
      exact hmethod (method_of_sent_connect hb
        ((congrArg NegotiateOutcome.sent hagree.1).symm.trans (connectPhase_sent _)))

end Phases

/-! ## Completions that can be dispatched -/

section Deliverable

variable {localSocket remoteSocket : Socket} {ctx : NegotiateContext} {identResp : Image 2}
  {sent chunk : List UInt8} {chunks : List (List UInt8)}

/-- The completions can be dispatched to the machine in this state. -/
theorem deliverable_cons {state : Socks5State} {buffer : ReplyBuffer}
    (h : Deliverable (chunk :: chunks)
      (awaiting localSocket remoteSocket ctx state buffer identResp sent)) :
    (1 ≤ chunk.length ∧ chunk.length ≤ buffer.size) ∧
      ∀ s', (awaiting localSocket remoteSocket ctx state buffer identResp sent).deliver buffer chunk =
        .ok s' → Deliverable chunks s' := by
  obtain ⟨hpos, hle, hnext⟩ := h
  exact ⟨⟨hpos, hle⟩, fun s' hs => by rw [hs] at hnext; exact hnext⟩

theorem deliverable_head {state : Socks5State} {buffer : ReplyBuffer}
    (h : Deliverable chunks (awaiting localSocket remoteSocket ctx state buffer identResp sent)) :
    ∀ c ∈ chunks.head?, 1 ≤ c.length ∧ c.length ≤ buffer.size := by
  cases chunks with
  | nil => simp
  | cons chunk chunks =>
    intro c hc
    cases hc
    exact (deliverable_cons h).1

/-- After a status reply of 0 the CONNECT reply is awaited. -/
theorem deliverable_password {version : UInt8}
    (h : Deliverable ([version, 0] :: chunks)
      (awaiting localSocket remoteSocket ctx .passwordSent .identResp identResp sent)) :
    ∀ c ∈ chunks.head?, 1 ≤ c.length := by
  have hnext := (deliverable_cons h).2 _ (by
    rw [deliver_of_ne_nil (by simp), process_passwordSent ctx rfl rfl]
    exact if_pos rfl)
  exact fun c hc => (deliverable_head hnext c hc).1

/-- After a method reply that asks for nothing, or half of one, the CONNECT reply is awaited. -/
theorem deliverable_login (hne : chunk ≠ [])
    (h : Deliverable (chunk :: chunks)
      (awaiting localSocket remoteSocket ctx .loginSent .identResp identRespInit sent))
    (hgo : ¬ (chunk.getD 0 5 ≠ 5 ∨ chunk.getD 1 0 = 0xFF)) (hm : chunk.getD 1 0 ≠ 2) :
    ∀ c ∈ chunks.head?, 1 ≤ c.length := by
  have hnext := (deliverable_cons h).2 _ (by
    rw [deliver_of_ne_nil hne, process_loginSent ctx rfl rfl]
    exact (if_neg hgo).trans (if_neg hm))
  exact fun c hc => (deliverable_head hnext c hc).1

/-- After a method reply that asks for credentials that fit, the status reply is awaited. -/
theorem deliverable_auth {u p : List UInt8} (huse : ctx.Usable u p) (hfit : CredentialsFit u p)
    (h : Deliverable ([5, 2] :: chunks)
      (awaiting localSocket remoteSocket ctx .loginSent .identResp identRespInit sent)) :
    (∀ c ∈ chunks.head?, 1 ≤ c.length ∧ c.length ≤ 2) ∧
      ∀ v cs, chunks = [v, 0] :: cs → ∀ c ∈ cs.head?, 1 ≤ c.length := by
  have hnext := (deliverable_cons h).2 _ (by
    rw [deliver_of_ne_nil (by simp), process_loginSent ctx rfl rfl]
    refine ((if_neg (show ¬ ((5 : UInt8) ≠ 5 ∨ (2 : UInt8) = 0xFF) by decide)).trans
      (if_pos rfl)).trans ?_
    rw [sendUsernameAuth_eq, authMessage_fit huse hfit]
    rfl)
  refine ⟨deliverable_head hnext, ?_⟩
  rintro v cs rfl
  exact deliverable_password hnext

end Deliverable

/-! ## Whole runs -/

section Runs

variable {localSocket remoteSocket : Socket} {ctx : NegotiateContext}
  {chunks : List (List UInt8)}

theorem run_map_observe (chunks : List (List UInt8)) :
    (run localSocket remoteSocket ctx chunks).map (fun r => (observe r).1) =
      (loginPhase localSocket remoteSocket ctx chunks).map Prod.fst := by
  rw [← observe_run]
  cases run localSocket remoteSocket ctx chunks <;> rfl

/-- A run that ends agrees with the run over whole replies. -/
theorem splitIndependent_of_ok {a : NegotiateOutcome × List (List UInt8)}
    (ha : loginPhase localSocket remoteSocket ctx chunks = .ok a) :
    SplitIndependent localSocket remoteSocket ctx chunks ↔
      ∃ b, (loginPhase localSocket remoteSocket ctx (wholeReplies chunks.flatten)).map Prod.fst =
        .ok b ∧ Agrees a b (afterReplies chunks.flatten) := by
  rw [SplitIndependent, run_map_observe, run_map_observe, ha]
  rw [← observe_run] at ha
  cases hrun : run localSocket remoteSocket ctx chunks with
  | error e => rw [hrun] at ha; cases ha
  | ok result =>
    rw [hrun] at ha
    cases ha
    constructor
    · rintro ⟨heq, hafter⟩
      exact ⟨_, heq.symm, rfl, fun hstart => hafter _ _ rfl hstart⟩
    · rintro ⟨b, hb, heq, hafter⟩
      refine ⟨(hb.trans (congrArg _ heq.symm)).symm, fun s rest hs hstart => ?_⟩
      cases hs
      exact hafter hstart

/-- A run that ends the process agrees with one over whole replies that does. -/
theorem splitIndependent_of_error {e : Abort}
    (ha : loginPhase localSocket remoteSocket ctx chunks = .error e) :
    SplitIndependent localSocket remoteSocket ctx chunks ↔
      (loginPhase localSocket remoteSocket ctx (wholeReplies chunks.flatten)).map Prod.fst =
        .error e := by
  rw [SplitIndependent, run_map_observe, run_map_observe, ha]
  rw [← observe_run] at ha
  cases hrun : run localSocket remoteSocket ctx chunks with
  | error e => exact ⟨fun h => h.1.symm, fun h => ⟨h.symm, fun _ _ hs => by cases hs⟩⟩
  | ok result => rw [hrun] at ha; cases ha

/-- Half a method reply: the handler goes on to the CONNECT request if it is of version 5. -/
theorem splitIndependent_half {version : UInt8}
    (h : Deliverable ([version] :: chunks)
      (awaiting localSocket remoteSocket ctx .loginSent .identResp identRespInit (identReq ctx))) :
    SplitIndependent localSocket remoteSocket ctx ([version] :: chunks) ↔
      (version = 5 → HalfMethodDelivered chunks) := by
  by_cases hv : version = 5
  · subst hv
    -- half a method reply reads as one that asks for nothing
    have hphase : loginPhase localSocket remoteSocket ctx ([5] :: chunks) =
        .ok (connectPhase localSocket remoteSocket (identReq ctx ++ connectRequest ctx)
          chunks) := rfl
    rw [splitIndependent_of_ok hphase]
    have hnext := deliverable_login (by simp) h
      (show ¬ ((5 : UInt8) ≠ 5 ∨ (0 : UInt8) = 0xFF) by decide)
      (show (0 : UInt8) ≠ 2 by decide)
    exact (agrees_half hnext).trans ⟨fun hd _ => hd, fun hd => hd rfl⟩
  · have hphase : loginPhase localSocket remoteSocket ctx ([version] :: chunks) =
        .ok (refused localSocket remoteSocket (identReq ctx), chunks) := by
      simp [loginPhase, hv]
    rw [splitIndependent_of_ok hphase]
    refine iff_of_true ?_ fun h => absurd h hv
    simp only [agrees_refused, List.flatten_cons, List.singleton_append]
    cases chunks.flatten with
    | nil => exact ⟨_, rfl, rfl⟩
    | cons method rest =>
      rw [loginPhase_whole, if_pos (.inl hv)]
      exact ⟨_, rfl, rfl⟩

/-- A refusal by the method reply is the same however the rest is split. -/
theorem splitIndependent_refused {version method : UInt8} (href : version ≠ 5 ∨ method = 0xFF) :
    SplitIndependent localSocket remoteSocket ctx ([version, method] :: chunks) := by
  have hphase := loginPhase_method localSocket remoteSocket ctx version method chunks
  have hflat : ([version, method] :: chunks).flatten = version :: method :: chunks.flatten := rfl
  rw [if_pos href] at hphase
  rw [splitIndependent_of_ok hphase, hflat, loginPhase_whole, if_pos href]
  exact ⟨_, rfl, agrees_refused.2 rfl⟩

/-- A method reply that asks for credentials. -/
theorem splitIndependent_password
    (h : Deliverable ([5, 2] :: chunks)
      (awaiting localSocket remoteSocket ctx .loginSent .identResp identRespInit (identReq ctx))) :
    SplitIndependent localSocket remoteSocket ctx ([5, 2] :: chunks) ↔
      ∀ u p, ctx.Usable u p → CredentialsFit u p → PasswordDelivered chunks := by
  have hgo : ¬ ((5 : UInt8) ≠ 5 ∨ (2 : UInt8) = 0xFF) := by decide
  have hphase := loginPhase_method localSocket remoteSocket ctx 5 2 chunks
  have hflat : ([5, 2] :: chunks).flatten = 5 :: 2 :: chunks.flatten := rfl
  rw [if_neg hgo, if_pos rfl] at hphase
  by_cases huse : ∃ u p, ctx.Usable u p
  · obtain ⟨u, p, huse⟩ := huse
    by_cases hfit : CredentialsFit u p
    · rw [authMessage_fit huse hfit] at hphase
      obtain ⟨hchunk, hnext⟩ := deliverable_auth huse hfit h
      rw [splitIndependent_of_ok hphase, hflat, loginPhase_whole, if_neg hgo, if_pos rfl,
        authMessage_fit huse hfit]
      refine exists_ok_iff.trans ((agrees_password hchunk hnext).trans ?_)
      exact ⟨fun hd _ _ _ _ => hd, fun hd => hd u p huse hfit⟩
    · rw [authMessage_abort huse hfit] at hphase
      rw [splitIndependent_of_error hphase, hflat, loginPhase_whole, if_neg hgo, if_pos rfl,
        authMessage_abort huse hfit]
      refine iff_of_true rfl fun u' p' huse' hfit' => ?_
      obtain ⟨rfl, rfl⟩ := huse.unique huse'
      exact absurd hfit' hfit
  · have hnone : ∀ u p, ¬ ctx.Usable u p := fun u p h => huse ⟨u, p, h⟩
    rw [authMessage_unusable hnone] at hphase
    rw [splitIndependent_of_ok hphase, hflat, loginPhase_whole, if_neg hgo, if_pos rfl,
      authMessage_unusable hnone]
    exact iff_of_true ⟨_, rfl, agrees_refused.2 rfl⟩ fun u p h => absurd h (hnone u p)

/-- A method reply that asks for nothing. -/
theorem splitIndependent_connect {method : UInt8} (hff : method ≠ 0xFF) (hm : method ≠ 2)
    (h : Deliverable ([5, method] :: chunks)
      (awaiting localSocket remoteSocket ctx .loginSent .identResp identRespInit (identReq ctx))) :
    SplitIndependent localSocket remoteSocket ctx ([5, method] :: chunks) ↔
      ConnectDelivered chunks := by
  have hgo : ¬ ((5 : UInt8) ≠ 5 ∨ method = 0xFF) := by simp [hff]
  have hphase := loginPhase_method localSocket remoteSocket ctx 5 method chunks
  have hflat : ([5, method] :: chunks).flatten = 5 :: method :: chunks.flatten := rfl
  rw [if_neg hgo, if_neg hm] at hphase
  have hnext := deliverable_login (by simp) h hgo hm
  rw [splitIndependent_of_ok hphase, hflat, loginPhase_whole, if_neg hgo, if_neg hm]
  simp only [afterReplies, if_neg hm]
  exact exists_ok_iff.trans (agrees_connect hnext)

end Runs

/-- For all completions that can be dispatched: the run shows what it shows with each reply
delivered whole, and a relay it starts begins with the first byte after the complete CONNECT reply,
if and only if the completions meet `Delivered`. -/
theorem splitIndependent_iff (localSocket remoteSocket : Socket) (ctx : NegotiateContext)
    (chunks : List (List UInt8))
    (h : Deliverable chunks ((create localSocket remoteSocket ctx).start ⟨true, true⟩ true).2) :
    SplitIndependent localSocket remoteSocket ctx chunks ↔ Delivered ctx chunks := by
  have hstart : Deliverable chunks (awaiting localSocket remoteSocket ctx .loginSent .identResp
      identRespInit (identReq ctx)) := h
  have hhead := deliverable_head hstart
  match chunks with
  | [] =>
    rw [splitIndependent_of_ok rfl]
    exact iff_of_true ⟨_, rfl, agrees_refused.2 rfl⟩ trivial
  | [] :: _ => exact absurd (hhead [] rfl).1 (by decide)
  | (_ :: _ :: _ :: _) :: _ =>
    have := (hhead _ rfl).2
    simp only [List.length_cons, ReplyBuffer.size] at this
    omega
  | [version] :: chunks => exact splitIndependent_half hstart
  | [version, method] :: chunks =>
    by_cases href : version ≠ 5 ∨ method = 0xFF
    · refine iff_of_true (splitIndependent_refused href) fun hv => ?_
      obtain rfl : method = 0xFF := href.resolve_left (not_not.2 hv)
      rw [if_neg (by decide)]
      exact fun h => absurd rfl h
    · obtain ⟨rfl, hff⟩ : version = 5 ∧ method ≠ 0xFF := by simpa [not_or] using href
      by_cases hm : method = 2
      · subst hm
        exact (splitIndependent_password hstart).trans ⟨fun hd _ => hd, fun hd => hd rfl⟩
      · simp only [Delivered, if_neg hm, hff, ne_eq, not_false_eq_true, forall_const]
        exact splitIndependent_connect hff hm hstart

/-- The CONNECT reply comes by itself, with the first byte for the client in the next completion. -/
theorem splitIndependent_iff_by_replies :
    SplitIndependent 0 1 ⟨⟨192, 0, 2, 1⟩, 80, none, none⟩
      [[5, 0], [5, 0, 0, 1, 0, 0, 0, 0, 0, 0], [72]] := by
  refine (splitIndependent_iff 0 1 _ _ ?_).2 ?_
  · exact ⟨by decide, by decide, by decide, by decide, trivial⟩
  · exact fun _ _ => ⟨by decide, fun _ => rfl⟩

/-- One byte of the CONNECT reply is delivered first: the relay is started, and the rest of the
reply goes to the client. -/
theorem splitIndependent_one_byte :
    Deliverable [[5, 0], [5], [0, 0, 1, 0, 0, 0, 0, 0, 0]]
        ((create 0 1 ⟨⟨192, 0, 2, 1⟩, 80, none, none⟩).start ⟨true, true⟩ true).2 ∧
      ¬ SplitIndependent 0 1 ⟨⟨192, 0, 2, 1⟩, 80, none, none⟩
        [[5, 0], [5], [0, 0, 1, 0, 0, 0, 0, 0, 0]] := by
  refine ⟨⟨by decide, by decide, by decide, by decide, trivial⟩, ?_⟩
  rintro ⟨-, hafter⟩
  have hnone := hafter _ _ rfl rfl
  exact absurd hnone (by decide)

end CutieProxy
