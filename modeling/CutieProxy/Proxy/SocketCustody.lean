import Mathlib.Tactic.Abel
import CutieProxy.Lib.Ledger
import CutieProxy.Proxy.TcpProxyThreads

/-!
# Which thread closes which handle

An accepted handle and the handle of its remote socket go from the accept thread to an element of
`sock_array_events_`, from there to a proxy socket, and are closed by the last that holds them.
Three exits close a handle another one still holds: a `connect` that fails at once does not withdraw
the element, the exit of the connect thread closes the elements the accept thread is in `connect`
with, and `start_data_relay` closes the local socket without the member becoming `INVALID_SOCKET`.

A closing of a proxy socket leaves the handles it holds or closed the same
(`TcpProxySocket.Custody`), and so every handle is counted once, with its owner or as closed
(`Accounted`), in the runs that take none of these exits (`CustodySound`): `closed_once`.
`unsound_step_breaks` says that any other step ends that. In every run a proxy socket keeps the
sockets and the context it was built with, until it closes them
(`Socks5TcpProxySocket.KeepsEnds`).
-/

namespace CutieProxy

open Transition

/-! ## The handles of a proxy socket -/

namespace TcpProxySocket

variable {s t u : TcpProxySocket} {ok : Accepts}

/-- The handles in `local_socket_` and `remote_socket_`. -/
def openHandles (s : TcpProxySocket) : Multiset Socket :=
  Multiset.ofList (s.socket true).toList + Multiset.ofList (s.socket false).toList

/-- The handles the proxy socket holds or closed. -/
def handles (s : TcpProxySocket) : Multiset Socket := s.openHandles + Multiset.ofList s.closed

/-- Both sockets are open, or none. -/
def Paired (s : TcpProxySocket) : Prop := (s.socket true).isSome = (s.socket false).isSome

/-- From `s` to `t` the open sockets were closed once each, or nothing was closed. -/
def Custody (s t : TcpProxySocket) : Prop :=
  (t.socket = s.socket ∧ t.closed = s.closed) ∨
    ((∀ b, t.socket b = none) ∧ t.handles = s.handles)

theorem Custody.refl (s : TcpProxySocket) : s.Custody s := Or.inl ⟨rfl, rfl⟩

theorem Custody.handles (h : s.Custody t) : t.handles = s.handles := by
  obtain ⟨hsocket, hclosed⟩ | ⟨-, heq⟩ := h
  · unfold TcpProxySocket.handles openHandles
    rw [hsocket, hclosed]
  · exact heq

theorem Custody.trans (h : s.Custody t) (h' : t.Custody u) : s.Custody u := by
  obtain ⟨hsocket, hclosed⟩ | ⟨hnone, -⟩ := id h'
  · obtain ⟨hsocket', hclosed'⟩ | ⟨hnone', -⟩ := id h
    · exact Or.inl ⟨hsocket.trans hsocket', hclosed.trans hclosed'⟩
    · exact Or.inr ⟨fun b => (congrFun hsocket b).trans (hnone' b), h'.handles.trans h.handles⟩
  · exact Or.inr ⟨hnone, h'.handles.trans h.handles⟩

theorem Custody.paired (h : s.Custody t) (hs : s.Paired) : t.Paired := by
  obtain ⟨hsocket, -⟩ | ⟨hnone, -⟩ := h
  · unfold Paired
    rw [hsocket]
    exact hs
  · unfold Paired
    rw [hnone, hnone]

/-- What was open and is not was closed. -/
theorem Custody.mem_closed (h : s.Custody t) (hnone : ∀ b, t.socket b = none) {x : Socket}
    (hopen : s.socket true = some x) : x ∈ t.closed := by
  have hmem : x ∈ t.handles := by
    rw [h.handles]
    unfold TcpProxySocket.handles openHandles
    rw [hopen]
    exact Multiset.mem_add.mpr (Or.inl (Multiset.mem_add.mpr (Or.inl (List.mem_singleton_self x))))
  unfold TcpProxySocket.handles openHandles at hmem
  rw [hnone, hnone] at hmem
  simpa using hmem

theorem closeSocket_handles (b : Bool) : (s.closeSocket b).handles = s.handles := by
  unfold closeSocket
  split
  · rfl
  · next h heq =>
    show Multiset.ofList (Function.update s.socket b none true).toList +
      Multiset.ofList (Function.update s.socket b none false).toList +
        Multiset.ofList (s.closed ++ [h]) = s.handles
    rw [← Multiset.coe_add]
    unfold handles openHandles
    cases b with
    | true =>
      rw [Function.update_self, Function.update_of_ne (by decide), heq]
      show (0 : Multiset Socket) + _ + (_ + {h}) = {h} + _ + _
      abel
    | false =>
      rw [Function.update_self, Function.update_of_ne (by decide), heq]
      show _ + (0 : Multiset Socket) + (_ + {h}) = _ + {h} + _
      abel

/-- A handle that is closed is not closed again, as the member becomes `INVALID_SOCKET`. -/
theorem custody_closeClient (isReceive b : Bool) : s.Custody (s.closeClient isReceive b) := by
  refine Or.inr ⟨closeClient_socket s isReceive b, ?_⟩
  unfold closeClient
  dsimp only
  rw [closeSocket_handles]
  have hmodify : ∀ (u : TcpProxySocket) (b : Bool) (f : Relay → Relay),
      (u.modifyRelay b f).handles = u.handles := fun _ _ _ => rfl
  have hfirst : ∀ v : TcpProxySocket, v = (if (s.socket b).isSome then
      { s.closeSocket b with connectionStatus := .clientCompleted } else s) →
      v.handles = s.handles := by
    rintro v rfl
    split
    · exact closeSocket_handles b
    · rfl
  split
  · rw [hmodify, hfirst _ rfl]
  · rw [hmodify, hfirst _ rfl]

theorem custody_modifyRelay {b : Bool} {f : Relay → Relay} : s.Custody (s.modifyRelay b f) :=
  Or.inl ⟨rfl, rfl⟩

theorem custody_wsaRecv (accepted b : Bool) : s.Custody (s.wsaRecv accepted b) := by
  unfold wsaRecv
  split
  · exact custody_modifyRelay
  · exact custody_closeClient ..

theorem custody_wsaSend (accepted b : Bool) : s.Custody (s.wsaSend accepted b) := by
  unfold wsaSend
  split
  · exact custody_modifyRelay
  · exact custody_closeClient ..

theorem custody_processReceiveBufferComplete (n : Nat) (b : Bool) :
    s.Custody (s.processReceiveBufferComplete ok n b) := by
  unfold processReceiveBufferComplete
  split
  · exact custody_modifyRelay
  · dsimp only
    generalize hsend : (if (s.relay b).sendBuf.len = 0 then _ else s) = u
    have hu : s.Custody u := by
      subst hsend
      split
      · exact custody_modifyRelay.trans (custody_wsaSend ..)
      · exact .refl s
    split
    · exact hu.trans custody_modifyRelay
    · exact (hu.trans custody_modifyRelay).trans (custody_wsaRecv ..)
  · exact .refl s
  · exact .refl s

theorem custody_processSendBufferComplete (n : Nat) (b : Bool) :
    s.Custody (s.processSendBufferComplete ok n b) := by
  unfold processSendBufferComplete
  dsimp only
  generalize hrecv : (if s.connectionStatus ≠ .clientCompleted ∧
      (s.relay (!b)).recvBuf.len = 0 then _ else s) = u
  have hu : s.Custody u := by
    subst hrecv
    split
    · split
      · exact custody_modifyRelay
      · exact custody_modifyRelay.trans (custody_wsaRecv ..)
    · exact .refl s
  have hshift := hu.trans
    (custody_modifyRelay (b := !b) (f := (·.shiftSend sendReceiveBufferSize n)))
  split
  · split
    · exact (hshift.trans (custody_closeClient ..)).trans custody_modifyRelay
    · exact hshift.trans custody_modifyRelay
  · split
    · exact hshift.trans custody_modifyRelay
    · exact (hshift.trans custody_modifyRelay).trans (custody_wsaSend ..)

theorem custody_isReadyForRemoval (expired : Bool) : s.Custody (s.isReadyForRemoval expired).2 := by
  unfold isReadyForRemoval
  split
  · exact .refl s
  · split
    · split
      · exact (custody_closeClient ..).trans (custody_closeClient ..)
      · exact (custody_closeClient ..).trans (custody_closeClient ..)
    · exact .refl s

/-- A relay whose second receive is not refused. -/
theorem custody_startDataRelay {recvLocal recvRemote : Bool} (hs : s.Paired)
    (hsound : recvLocal = true → (s.socket true).isSome = true → recvRemote = true) :
    s.Custody (s.startDataRelay recvLocal recvRemote).2 := by
  unfold startDataRelay
  split
  · next hfirst =>
    obtain ⟨haccepted, hopen⟩ := Bool.and_eq_true_iff.mp hfirst
    have hremote : (s.socket false).isSome = true := hs ▸ hopen
    have hrecv : s.wsaRecv recvLocal true = s.modifyRelay true _ := if_pos hfirst
    dsimp only
    rw [if_pos (Bool.and_eq_true_iff.mpr ⟨hsound haccepted hopen, by rw [hrecv]; exact hremote⟩)]
    exact (custody_wsaRecv ..).trans (custody_wsaRecv ..)
  · exact (custody_closeClient ..).trans custody_modifyRelay

/-- A second receive that is refused closes the local socket twice. -/
theorem startDataRelay_refused {h : Socket} (hopen : s.socket true = some h) :
    2 ≤ (s.startDataRelay true false).2.closed.count h := by
  have hstart : (s.startDataRelay true false).2 =
      closeClient true false { s.wsaRecv true true with
        closed := (s.wsaRecv true true).closed ++ ((s.wsaRecv true true).socket true).toList } := by
    unfold startDataRelay
    rw [hopen]
    rfl
  have hrecv : s.wsaRecv true true =
      s.modifyRelay true fun r => { r with recvOp := some r.recvBuf } := by
    unfold wsaRecv
    rw [hopen]
    rfl
  rw [hstart, hrecv]
  generalize hu : ({ s.modifyRelay true (fun r => { r with recvOp := some r.recvBuf }) with
    closed := _ } : TcpProxySocket) = u
  have hsocket : u.socket true = some h := by
    subst hu
    exact hopen
  have hclosed : 1 ≤ u.closed.count h := by
    subst hu
    show 1 ≤ (s.closed ++ (s.socket true).toList).count h
    rw [hopen, List.count_append]
    simp
  have hnone := closeClient_socket u true false
  have hsame := congrArg (Multiset.count h) (custody_closeClient (s := u) true false).handles
  unfold handles openHandles at hsame
  rw [hnone, hnone, hsocket] at hsame
  simp only [Option.toList_none, Option.toList_some, Multiset.count_add, Multiset.coe_count,
    List.count_nil, List.count_singleton_self] at hsame
  omega

/-- The destructor closes what is open. -/
theorem destroy_closed (s : TcpProxySocket) : Multiset.ofList s.destroy.closed = s.handles := by
  have hspec := closeSocket_spec (s.closeSocket true) false
  have hnone : s.destroy.socket true = none ∧ s.destroy.socket false = none :=
    ⟨hspec.2.1.trans (closeSocket_spec s true).1, hspec.1⟩
  have hsame : s.destroy.handles = s.handles :=
    (closeSocket_handles false).trans (closeSocket_handles true)
  rw [← hsame]
  unfold handles openHandles
  rw [hnone.1, hnone.2]
  exact (zero_add _).symm

end TcpProxySocket

namespace Socks5TcpProxySocket

variable {s t : Socks5TcpProxySocket} {ok : Accepts} {recvLocal endServer : Bool}
  {c : ProxyCompletion}

/-- From `s` to `t` the open sockets were closed once each, or nothing was closed. -/
abbrev Custody (s t : Socks5TcpProxySocket) : Prop :=
  s.toTcpProxySocket.Custody t.toTcpProxySocket

/-- The completion is that of a CONNECT reply that starts the relay. -/
def StartsRelay (endServer : Bool) (s : Socks5TcpProxySocket) : ProxyCompletion → Prop
  | .negotiateRead data status => endServer = false ∧ status = true ∧ data ≠ [] ∧
      s.currentState = .connectSent ∧
      (s.finish (.negotiateRead data status)).connectResponse.reply = 0 ∧
      (s.socket true).isSome = true
  | _ => False

theorem custody_sendNegotiate (message : List UInt8) (buffer : ReplyBuffer) (next : Socks5State) :
    s.Custody (s.sendNegotiate ok message buffer next) := by
  unfold sendNegotiate
  dsimp only
  generalize hsend : (if (ok.send && (s.socket false).isSome) = true then
    { s with sent := s.sent ++ message } else s.liftBase (·.closeClient false false)) = u
  have hu : s.Custody u := by
    subst hsend
    split
    · exact .refl _
    · exact TcpProxySocket.custody_closeClient ..
  split
  · exact hu
  · exact hu.trans (TcpProxySocket.custody_closeClient ..)

/-- The start of a proxy socket, with no negotiation or with the first message of one. -/
theorem custody_start (hs : s.Paired) (hsound : s.negotiateCtx = none → recvLocal = true →
    (s.socket true).isSome = true → ok.recv = true) : s.Custody (s.start ok recvLocal).2 := by
  unfold start remoteNegotiate
  cases hctx : s.negotiateCtx with
  | none => exact TcpProxySocket.custody_startDataRelay hs (hsound hctx)
  | some ctx =>
    show s.Custody (if s.currentState = .preLogin then _ else s)
    split
    · exact custody_sendNegotiate ..
    · exact .refl _

/-- A proxy socket whose remote socket is not connected closes both when it starts. -/
theorem start_unconnected (hs : s.Paired) (hstate : s.currentState = .preLogin) {h : Socket}
    (hopen : s.socket true = some h) (recvLocal : Bool) :
    h ∈ (s.start ⟨false, false⟩ recvLocal).2.closed := by
  cases hctx : s.negotiateCtx with
  | none =>
    have hstart : (s.start ⟨false, false⟩ recvLocal).2.toTcpProxySocket =
        (s.toTcpProxySocket.startDataRelay recvLocal false).2 := by
      unfold start remoteNegotiate
      rw [hctx]
      rfl
    rw [hstart]
    cases recvLocal with
    | true =>
      have htwice := TcpProxySocket.startDataRelay_refused hopen
      exact List.count_pos_iff.mp (Nat.lt_of_lt_of_le Nat.zero_lt_two htwice)
    | false =>
      have hcustody : s.toTcpProxySocket.Custody
          (s.toTcpProxySocket.startDataRelay false false).2 :=
        TcpProxySocket.custody_startDataRelay hs nofun
      refine hcustody.mem_closed (fun b => ?_) hopen
      exact TcpProxySocket.closeClient_socket s.toTcpProxySocket true true b
  | some ctx =>
    have hstart : (s.start ⟨false, false⟩ recvLocal).2 =
        s.sendNegotiate ⟨false, false⟩ (identReq ctx) .identResp .loginSent := by
      unfold start remoteNegotiate
      rw [hctx, hstate]
      rfl
    rw [hstart]
    refine (custody_sendNegotiate ..).mem_closed (fun b => ?_) hopen
    have hclosed := TcpProxySocket.closeClient_socket (s.toTcpProxySocket.closeClient false false)
    exact hclosed true false b

theorem custody_sendUsernameAuth {ctx : NegotiateContext}
    (h : s.sendUsernameAuth ok ctx = .ok t) : s.Custody t := by
  unfold sendUsernameAuth at h
  split at h
  · next username password _ _ =>
    split at h
    · cases h
      exact TcpProxySocket.custody_closeClient ..
    · cases hinit : UsernameAuth.init username password with
      | error abort =>
        rw [hinit] at h
        cases h
      | ok message? =>
        rw [hinit] at h
        cases message? with
        | none =>
          cases h
          exact .refl _
        | some message =>
          cases h
          exact custody_sendNegotiate ..
  · cases h
    exact TcpProxySocket.custody_closeClient ..

theorem custody_processReceiveNegotiateComplete {n : Nat} {isLocal : Bool} (hs : s.Paired)
    (hsound : s.currentState = .connectSent → s.connectResponse.reply = 0 →
      recvLocal = true → (s.socket true).isSome = true → ok.recv = true)
    (h : s.processReceiveNegotiateComplete ok recvLocal n isLocal = .ok t) : s.Custody t := by
  unfold processReceiveNegotiateComplete at h
  split at h
  · cases h
    exact .refl _
  · split at h
    · dsimp only at h
      split at h
      · cases h
        exact TcpProxySocket.custody_closeClient ..
      · split at h
        · cases h
        · split at h
          · exact custody_sendUsernameAuth (s := { s with currentState := .loginResponded }) h
          · cases h
            exact custody_sendNegotiate (s := { s with currentState := .loginResponded }) ..
    · dsimp only at h
      split at h
      · cases h
        exact TcpProxySocket.custody_closeClient ..
      · split at h
        · cases h
        · cases h
          exact custody_sendNegotiate (s := { s with currentState := .passwordResponded }) ..
    · next hstate =>
      split at h
      · cases h
        exact TcpProxySocket.custody_closeClient ..
      · next hreply =>
        cases h
        exact TcpProxySocket.custody_startDataRelay hs
          (hsound hstate (Decidable.not_not.mp hreply))
    all_goals
      cases h
      exact .refl _

/-- The end of a call leaves the handles and the state of the negotiation. -/
theorem finish_spec (c : ProxyCompletion) : (s.finish c).socket = s.socket ∧
    (s.finish c).closed = s.closed ∧ (s.finish c).currentState = s.currentState := by
  cases c with
  | relayRead isLocal data status =>
    simp only [finish]
    split <;> exact ⟨rfl, rfl, rfl⟩
  | relayWrite isLocal numBytes status => exact ⟨rfl, rfl, rfl⟩
  | negotiateRead data status =>
    simp only [finish]
    split
    · next buffer _ => cases buffer <;> exact ⟨rfl, rfl, rfl⟩
    · exact ⟨rfl, rfl, rfl⟩
  | negotiateWrite numBytes status => exact ⟨rfl, rfl, rfl⟩

/-- The callback closes what is open once, apart from the handler of negotiation receives. -/
theorem custody_callback {op : ProxyIoOperation} {isLocal status : Bool} {n : Nat}
    (h : (completionCallback (handlers ok recvLocal) endServer op isLocal n status (.ok s)).2 =
      .ok t)
    (hnegotiate : op = .negotiateIoRead → endServer = false → status = true → n ≠ 0 →
      s.processReceiveNegotiateComplete ok recvLocal n isLocal = .ok t → s.Custody t) :
    s.Custody t := by
  unfold completionCallback at h
  split at h
  · cases h
    exact .refl _
  · next hend =>
    split at h
    · cases h
      exact TcpProxySocket.custody_closeClient ..
    · next hread =>
      split at h
      · cases h
        exact TcpProxySocket.custody_closeClient ..
      · next hstatus =>
        cases op with
        | relayIoRead =>
          cases h
          exact TcpProxySocket.custody_processReceiveBufferComplete ..
        | relayIoWrite =>
          cases h
          exact TcpProxySocket.custody_processSendBufferComplete ..
        | negotiateIoRead =>
          have hn : n ≠ 0 := by
            rintro rfl
            exact hread (by simp)
          exact hnegotiate rfl (Bool.eq_false_iff.mpr hend) (by simpa using hstatus) hn h
        | negotiateIoWrite =>
          cases h
          exact .refl _
        | injectIoWrite =>
          cases h
          exact .refl _

/-- The callback of a completion closes what is open once, unless it starts the relay and the second
receive is refused. -/
theorem custody_dispatch (hs : s.Paired)
    (hsound : s.StartsRelay endServer c → recvLocal = true → ok.recv = true)
    (h : s.dispatch endServer ok recvLocal c = .ok t) : s.Custody t := by
  obtain ⟨hsocket, hclosed, hstate⟩ := finish_spec (s := s) c
  have hfinish : s.Custody (s.finish c) := Or.inl ⟨hsocket, hclosed⟩
  refine hfinish.trans ?_
  cases c with
  | relayRead isLocal data status => exact custody_callback h nofun
  | relayWrite isLocal numBytes status => exact custody_callback h nofun
  | negotiateRead data status =>
    refine custody_callback h fun _ hend hstatus hn hprocess => ?_
    refine custody_processReceiveNegotiateComplete (hfinish.paired hs)
      (fun hconnect hreply hrecv hopen => hsound ?_ hrecv) hprocess
    exact ⟨hend, hstatus, List.length_eq_zero_iff.not.mp hn, hstate ▸ hconnect, hreply,
      hsocket ▸ hopen⟩
  | negotiateWrite numBytes status => exact custody_callback h nofun

/-- A completion that starts the relay, with the second receive refused, closes a handle twice. -/
theorem dispatch_refused (hstart : s.StartsRelay endServer c) (hrecv : ok.recv = false)
    (h : s.dispatch endServer ok true c = .ok t) : ∃ h, 2 ≤ t.closed.count h := by
  cases c with
  | negotiateRead data status =>
    obtain ⟨rfl, rfl, hdata, hstate, hreply, hopen⟩ := hstart
    obtain ⟨hsocket, -, hsame⟩ := finish_spec (s := s) (.negotiateRead data true)
    obtain ⟨h₀, hh₀⟩ := Option.isSome_iff_exists.mp hopen
    have hdispatch : s.dispatch false ok true (.negotiateRead data true) =
        .ok ((s.finish (.negotiateRead data true)).liftBase fun base =>
          (base.startDataRelay true ok.recv).2) := by
      unfold dispatch completionCallback
      simp [handlers, Except.bind, processReceiveNegotiateComplete, hdata, hsame, hstate, hreply]
    rw [hdispatch] at h
    cases h
    rw [hrecv]
    exact ⟨h₀, TcpProxySocket.startDataRelay_refused ((congrFun hsocket true).trans hh₀)⟩
  | relayRead | relayWrite | negotiateWrite => exact hstart.elim

end Socks5TcpProxySocket

/-! ## What a proxy socket holds -/

namespace TcpProxySocket

variable {s t : TcpProxySocket}

/-- No handle comes in. -/
theorem Custody.socket_eq (h : s.Custody t) {b : Bool} {x : Socket} (hx : t.socket b = some x) :
    s.socket b = some x := by
  rcases h with ⟨hsocket, -⟩ | ⟨hnone, -⟩
  · rw [← hsocket, hx]
  · rw [hnone] at hx
    cases hx

theorem startDataRelay_socket {recvLocal recvRemote b : Bool} {x : Socket}
    (hx : (s.startDataRelay recvLocal recvRemote).2.socket b = some x) : s.socket b = some x := by
  unfold startDataRelay at hx
  split at hx
  · dsimp only at hx
    split at hx
    · exact ((custody_wsaRecv ..).trans (custody_wsaRecv ..)).socket_eq hx
    · -- the client is closed, though the local socket was closed before
      rw [closeClient_socket] at hx
      cases hx
  · exact ((custody_closeClient ..).trans custody_modifyRelay).socket_eq hx

end TcpProxySocket

namespace Socks5TcpProxySocket

variable {s t u : Socks5TcpProxySocket} {ok : Accepts} {recvLocal endServer : Bool}

/-- `t` has the context of `s`, and no socket that is not one of `s`. -/
structure KeepsEnds (s t : Socks5TcpProxySocket) : Prop where
  negotiateCtx : t.negotiateCtx = s.negotiateCtx
  socket : ∀ b x, t.socket b = some x → s.socket b = some x

theorem KeepsEnds.trans (h : s.KeepsEnds t) (h' : t.KeepsEnds u) : s.KeepsEnds u :=
  ⟨h'.negotiateCtx.trans h.negotiateCtx, fun b x hx => h.socket b x (h'.socket b x hx)⟩

theorem Custody.keepsEnds (h : s.Custody t) (hctx : t.negotiateCtx = s.negotiateCtx) :
    s.KeepsEnds t := ⟨hctx, fun _ _ hx => h.socket_eq hx⟩

theorem keepsEnds_closeClient (isReceive b : Bool) :
    s.KeepsEnds (s.liftBase (·.closeClient isReceive b)) :=
  Custody.keepsEnds (TcpProxySocket.custody_closeClient ..) rfl

theorem keepsEnds_sendNegotiate (message : List UInt8) (buffer : ReplyBuffer) (next : Socks5State) :
    s.KeepsEnds (s.sendNegotiate ok message buffer next) := by
  refine Custody.keepsEnds (custody_sendNegotiate ..) ?_
  unfold sendNegotiate
  dsimp only
  split <;> split <;> rfl

theorem keepsEnds_start : s.KeepsEnds (s.start ok recvLocal).2 := by
  unfold start remoteNegotiate
  cases hctx : s.negotiateCtx with
  | none => exact ⟨rfl, fun b x hx => TcpProxySocket.startDataRelay_socket hx⟩
  | some ctx =>
    show s.KeepsEnds (if s.currentState = .preLogin then _ else s)
    split
    · exact keepsEnds_sendNegotiate ..
    · exact ⟨rfl, fun _ _ hx => hx⟩

theorem keepsEnds_sendUsernameAuth {ctx : NegotiateContext}
    (h : s.sendUsernameAuth ok ctx = .ok t) : s.KeepsEnds t := by
  refine Custody.keepsEnds (custody_sendUsernameAuth h) ?_
  unfold sendUsernameAuth at h
  split at h
  · next username password _ _ =>
    split at h
    · cases h
      rfl
    · cases hinit : UsernameAuth.init username password with
      | error abort =>
        rw [hinit] at h
        cases h
      | ok message? =>
        rw [hinit] at h
        cases message? with
        | none =>
          cases h
          rfl
        | some message =>
          cases h
          exact (keepsEnds_sendNegotiate message _ _).negotiateCtx
  · cases h
    rfl

/-- The handler of negotiation receives, also where it closes a socket twice. -/
theorem keepsEnds_processReceiveNegotiateComplete {n : Nat} {isLocal : Bool}
    (h : s.processReceiveNegotiateComplete ok recvLocal n isLocal = .ok t) : s.KeepsEnds t := by
  have hstate (next : Socks5State) : s.KeepsEnds { s with currentState := next } :=
    ⟨rfl, fun _ _ hx => hx⟩
  unfold processReceiveNegotiateComplete at h
  split at h
  · cases h
    exact ⟨rfl, fun _ _ hx => hx⟩
  · split at h
    · dsimp only at h
      split at h
      · cases h
        exact (hstate .loginResponded).trans (keepsEnds_closeClient ..)
      · split at h
        · cases h
        · split at h
          · exact (hstate .loginResponded).trans (keepsEnds_sendUsernameAuth h)
          · cases h
            exact (hstate .loginResponded).trans (keepsEnds_sendNegotiate ..)
    · dsimp only at h
      split at h
      · cases h
        exact (hstate .passwordResponded).trans (keepsEnds_closeClient ..)
      · split at h
        · cases h
        · cases h
          exact (hstate .passwordResponded).trans (keepsEnds_sendNegotiate ..)
    · split at h
      · cases h
        exact keepsEnds_closeClient ..
      · cases h
        exact ⟨rfl, fun b x hx => TcpProxySocket.startDataRelay_socket hx⟩
    all_goals
      cases h
      exact ⟨rfl, fun _ _ hx => hx⟩

/-- No callback gives a proxy socket another socket or another context. -/
theorem keepsEnds_callback {op : ProxyIoOperation} {isLocal status : Bool} {n : Nat}
    (h : (completionCallback (handlers ok recvLocal) endServer op isLocal n status (.ok s)).2 =
      .ok t) : s.KeepsEnds t := by
  unfold completionCallback at h
  split at h
  · cases h
    exact ⟨rfl, fun _ _ hx => hx⟩
  · split at h
    · cases h
      exact keepsEnds_closeClient ..
    · split at h
      · cases h
        exact keepsEnds_closeClient ..
      · cases op with
        | relayIoRead =>
          cases h
          exact Custody.keepsEnds (TcpProxySocket.custody_processReceiveBufferComplete ..) rfl
        | relayIoWrite =>
          cases h
          exact Custody.keepsEnds (TcpProxySocket.custody_processSendBufferComplete ..) rfl
        | negotiateIoRead => exact keepsEnds_processReceiveNegotiateComplete (n := n) h
        | negotiateIoWrite | injectIoWrite =>
          cases h
          exact ⟨rfl, fun _ _ hx => hx⟩

theorem keepsEnds_finish (c : ProxyCompletion) : s.KeepsEnds (s.finish c) := by
  refine ⟨?_, fun b x hx => by rwa [(finish_spec c).1] at hx⟩
  cases c with
  | relayRead isLocal data status =>
    simp only [finish]
    split <;> rfl
  | relayWrite isLocal numBytes status => rfl
  | negotiateRead data status =>
    simp only [finish]
    split
    · next buffer _ => cases buffer <;> rfl
    · rfl
  | negotiateWrite numBytes status => rfl

theorem keepsEnds_dispatch {c : ProxyCompletion} (h : s.dispatch endServer ok recvLocal c = .ok t) :
    s.KeepsEnds t := by
  refine (keepsEnds_finish c).trans ?_
  cases c with
  | relayRead | relayWrite | negotiateRead | negotiateWrite => exact keepsEnds_callback h

theorem keepsEnds_isReadyForRemoval (expired : Bool) :
    s.KeepsEnds { s with toTcpProxySocket := (s.toTcpProxySocket.isReadyForRemoval expired).2 } :=
  Custody.keepsEnds (TcpProxySocket.custody_isReadyForRemoval expired) rfl

end Socks5TcpProxySocket

/-! ## The handles of the server -/

/-- The handles in an element of `sock_array_events_`. -/
def PendingConnection.handles (e : PendingConnection) : Multiset Socket :=
  Multiset.ofList e.accepted.toList + Multiset.ofList e.remote.toList

theorem PendingConnection.proxySocket_handles (e : PendingConnection) :
    e.proxySocket.handles = e.handles := add_zero _

/-- The handles in the variables of the accept thread. -/
def AcceptThread.handles : AcceptThread → Multiset Socket
  | .accepted h | .refused h => {h}
  | .connecting h r => {h, r}
  | .accepting | .exited => 0

/-- Those of them that no element of `sock_array_events_` holds too, for the connect thread. -/
def AcceptThread.own (connectThread : Bool) : AcceptThread → Multiset Socket
  | .connecting h r => if connectThread then 0 else {h, r}
  | thread => thread.handles

namespace TcpProxyServer

variable {s t : TcpProxyServer} {e : Event} {h r : Socket}

/-- The handles that were passed to `closesocket`, once for each time. -/
def closedHandles (s : TcpProxyServer) : Multiset Socket :=
  Multiset.ofList s.closed + (s.proxySockets.map fun p => Multiset.ofList p.closed).sum

/-- The handles the connect thread may use or close. -/
def pendingHandles (s : TcpProxyServer) : Multiset Socket :=
  if s.connectThread then (s.sockArrayEvents.map PendingConnection.handles).sum else 0

/-- The handles of the proxy sockets. -/
def relayedHandles (s : TcpProxyServer) : Multiset Socket :=
  (s.proxySockets.map fun p => p.openHandles).sum

/-- The handles a thread or a proxy socket may use or close. -/
def keptHandles (s : TcpProxyServer) : Multiset Socket :=
  s.acceptThread.handles + s.pendingHandles + s.relayedHandles

/-- `connect` does not fail at once while the connect thread runs, that thread neither ends nor
takes the element for a connection before its `connect`, and no second receive of a relay is
refused. -/
def CustodySound (s : TcpProxyServer) : Event → Prop
  | .connectFailed => s.connectThread = false
  | .exitConnect => ∀ h r, s.acceptThread ≠ .connecting h r
  | .take e ok recvLocal => ¬ s.acceptThread.IsConnecting e ∧
      (e.negotiateCtx = none → recvLocal = true → ok.recv = true)
  | .complete p c ok recvLocal =>
    p.StartsRelay s.endServer c → recvLocal = true → ok.recv = true
  | _ => True

/-- Every handle once: with its owner, or closed. -/
def total (s : TcpProxyServer) : Multiset Socket :=
  s.acceptThread.own s.connectThread + s.pendingHandles +
    (s.proxySockets.map fun p => p.handles).sum + Multiset.ofList s.closed

theorem total_eq (s : TcpProxyServer) : s.total =
    s.acceptThread.own s.connectThread + s.pendingHandles + s.relayedHandles + s.closedHandles := by
  have hsum : (s.proxySockets.map fun p => p.handles).sum =
      s.relayedHandles + (s.proxySockets.map fun p => Multiset.ofList p.closed).sum :=
    List.sum_map_add
  unfold total closedHandles
  rw [hsum]
  abel

/-- What holds in every state of a run that is sound. -/
structure Accounted (s : TcpProxyServer) : Prop where
  numbered : s.total ≤ Multiset.range s.socketCount
  /-- The element of the connection the accept thread is connecting is the last one. -/
  connecting : s.connectThread = true → ∀ h r, s.acceptThread = .connecting h r →
    ∃ l negotiateCtx, s.sockArrayEvents = l ++ [⟨some h, some r, negotiateCtx⟩]
  pending : s.connectThread = true → ∀ e ∈ s.sockArrayEvents,
    e.accepted.isSome = true ∧ e.remote.isSome = true
  paired : ∀ p ∈ s.proxySockets, p.Paired

/-- No closed handle is kept, and none was closed twice. -/
theorem Accounted.closed (hs : s.Accounted) :
    s.closedHandles.Nodup ∧ ∀ h ∈ s.closedHandles, h ∉ s.keptHandles := by
  obtain ⟨hclosed, hapart⟩ := Ledger.apart (total_eq s ▸ hs.numbered)
  refine ⟨hclosed, fun x hx hkept => hapart x hx ?_⟩
  rw [Multiset.mem_add, Multiset.mem_add]
  unfold keptHandles at hkept
  rw [Multiset.mem_add, Multiset.mem_add] at hkept
  rcases hkept with (hkept | hkept) | hkept
  · cases hthread : s.acceptThread with
    | connecting h r =>
      rw [hthread] at hkept
      cases hconnect : s.connectThread with
      | false => exact Or.inl (Or.inl hkept)
      | true =>
        -- the element for the connection holds the handles too
        obtain ⟨l, negotiateCtx, hlast⟩ := hs.connecting hconnect h r hthread
        refine Or.inl (Or.inr ?_)
        unfold pendingHandles
        rw [hconnect, if_pos rfl, hlast, List.map_append, List.sum_append]
        refine Multiset.mem_add.mpr (Or.inr ?_)
        simpa [PendingConnection.handles, AcceptThread.handles] using hkept
    | accepting | exited | accepted h | refused h =>
      rw [hthread] at hkept
      exact Or.inl (Or.inl hkept)
  · exact Or.inl (Or.inr hkept)
  · exact Or.inr hkept

/-! ## The steps -/

/-- A proxy socket that closes what it holds once leaves the ledger. -/
theorem sum_handles_of_custody {l r : List Socks5TcpProxySocket} {p q : Socks5TcpProxySocket}
    (h : p.Custody q) : ((l ++ q :: r).map fun p => p.handles).sum =
      ((l ++ p :: r).map fun p => p.handles).sum :=
  Ledger.sum_map_replace (f := fun p : Socks5TcpProxySocket => p.handles) h.handles l r

/-- It keeps its two sockets together. -/
theorem paired_of_custody {l r : List Socks5TcpProxySocket} {p q : Socks5TcpProxySocket}
    (h : p.Custody q) (hpaired : ∀ x ∈ l ++ p :: r, x.Paired) : ∀ x ∈ l ++ q :: r, x.Paired := by
  intro x hx
  rcases List.mem_append.mp hx with hx | hx
  · exact hpaired x (List.mem_append_left _ hx)
  · rcases List.mem_cons.mp hx with rfl | hx
    · exact h.paired (hpaired p List.mem_append_cons_self)
    · exact hpaired x (List.mem_append_right _ (List.mem_cons_of_mem _ hx))

theorem Accounted.accept (hs : s.Accounted) (hthread : s.acceptThread = .accepting) :
    Accounted { s with
      acceptThread := .accepted s.socketCount
      socketCount := s.socketCount + 1 } := by
  refine ⟨le_of_eq_of_le ?_ (Ledger.cons_le_range hs.numbered), fun _ _ _ => nofun, hs.pending,
    hs.paired⟩
  rw [← Multiset.singleton_add]
  unfold total
  rw [hthread]
  show ({s.socketCount} : Multiset Socket) + s.pendingHandles + _ + _ =
    {s.socketCount} + (0 + _ + _ + _)
  abel

/-- A remote socket that cannot be bound is closed by the accept thread. -/
theorem Accounted.bindFailed (hs : s.Accounted) (hthread : s.acceptThread = .accepted h) :
    Accounted { s with
      acceptThread := .refused h
      socketCount := s.socketCount + 1
      closed := s.closed ++ [s.socketCount] } := by
  refine ⟨le_of_eq_of_le ?_ (Ledger.cons_le_range hs.numbered), fun _ _ _ => nofun, hs.pending,
    hs.paired⟩
  rw [← Multiset.singleton_add]
  unfold total
  rw [hthread, ← Multiset.coe_add]
  show ({h} : Multiset Socket) + s.pendingHandles + _ + (_ + {s.socketCount}) =
    {s.socketCount} + ({h} + _ + _ + _)
  abel

/-- The element for a connection takes its handles over, if the connect thread runs. -/
theorem Accounted.push (hs : s.Accounted) (hthread : s.acceptThread = .accepted h)
    (negotiateCtx : Option NegotiateContext) :
    Accounted { s with
      acceptThread := .connecting h s.socketCount
      socketCount := s.socketCount + 1
      sockArrayEvents := s.sockArrayEvents ++ [⟨some h, some s.socketCount, negotiateCtx⟩] } := by
  refine ⟨le_of_eq_of_le ?_ (Ledger.cons_le_range hs.numbered), fun _ h' r hconnecting => ?_,
    fun hconnect e he => ?_, hs.paired⟩
  · rw [← Multiset.singleton_add]
    unfold total pendingHandles
    rw [hthread]
    dsimp only [AcceptThread.own]
    rw [List.map_append, List.sum_append]
    generalize (s.sockArrayEvents.map PendingConnection.handles).sum = pending
    cases s.connectThread with
    | true =>
      show (0 : Multiset Socket) + (pending + ({h} + {s.socketCount} + 0)) + _ + _ =
        {s.socketCount} + ({h} + pending + _ + _)
      abel
    | false =>
      show ({h} + {s.socketCount} : Multiset Socket) + 0 + _ + _ =
        {s.socketCount} + ({h} + 0 + _ + _)
      abel
  · cases hconnecting
    exact ⟨s.sockArrayEvents, negotiateCtx, rfl⟩
  · rcases List.mem_append.mp he with he | he
    · exact hs.pending hconnect e he
    · rw [List.mem_singleton.mp he]
      exact ⟨rfl, rfl⟩

/-- `connect` goes on; without the connect thread, nobody closes its sockets. -/
theorem Accounted.connected (hs : s.Accounted) (hthread : s.acceptThread = .connecting h r) :
    Accounted { s with acceptThread := .accepting } := by
  refine ⟨le_trans ?_ hs.numbered, fun _ _ _ => nofun, hs.pending, hs.paired⟩
  unfold total
  rw [hthread]
  show (0 : Multiset Socket) + s.pendingHandles + _ + _ ≤ _ + s.pendingHandles + _ + _
  gcongr
  exact Multiset.zero_le _

theorem Accounted.connectFailed (hs : s.Accounted) (hthread : s.acceptThread = .connecting h r)
    (hsound : s.connectThread = false) :
    Accounted { s with acceptThread := .refused h, closed := s.closed ++ [r] } := by
  refine ⟨le_of_eq_of_le ?_ hs.numbered, fun _ _ _ => nofun, hs.pending, hs.paired⟩
  have hown : AcceptThread.own s.connectThread (.connecting h r) = {h} + {r} := by
    rw [hsound]
    rfl
  unfold total
  rw [hthread, hown, ← Multiset.coe_add]
  show ({h} : Multiset Socket) + s.pendingHandles + _ + (_ + {r}) = {h} + {r} + _ + _ + _
  abel

theorem Accounted.closeAccepted (hs : s.Accounted) (hthread : s.acceptThread = .refused h) :
    Accounted { s with acceptThread := .accepting, closed := s.closed ++ [h] } := by
  refine ⟨le_of_eq_of_le ?_ hs.numbered, fun _ _ _ => nofun, hs.pending, hs.paired⟩
  unfold total
  rw [hthread, ← Multiset.coe_add]
  show (0 : Multiset Socket) + s.pendingHandles + _ + (_ + {h}) = {h} + _ + _ + _
  abel

/-- The connect thread takes an element that is not the one of the connection in `connect`. -/
theorem Accounted.take (hs : s.Accounted) {l r : List PendingConnection} {e : PendingConnection}
    {ok : Accepts} {recvLocal : Bool} (hconnect : s.connectThread = true)
    (hpending : s.sockArrayEvents = l ++ e :: r)
    (hother : ¬ s.acceptThread.IsConnecting e)
    (hsound : e.negotiateCtx = none → recvLocal = true → ok.recv = true) :
    Accounted { s with
      sockArrayEvents := l ++ r
      proxySockets := s.proxySockets ++ [(e.proxySocket.start ok recvLocal).2] } := by
  have hopen := hs.pending hconnect e (hpending ▸ List.mem_append_cons_self)
  have hpaired : e.proxySocket.Paired := hopen.1.trans hopen.2.symm
  have hcustody : e.proxySocket.Custody (e.proxySocket.start ok recvLocal).2 :=
    Socks5TcpProxySocket.custody_start hpaired fun hctx hrecv _ => hsound hctx hrecv
  refine ⟨le_of_eq_of_le ?_ hs.numbered, fun _ h h' hconnecting => ?_, fun _ e' he' => ?_,
    fun p hp => ?_⟩
  · unfold total pendingHandles
    rw [hpending, Ledger.sum_map_insert, Ledger.sum_map_insert, List.append_nil, hcustody.handles,
      e.proxySocket_handles, hconnect]
    simp only [if_true]
    abel
  · obtain ⟨l', negotiateCtx, heq⟩ := hs.connecting hconnect h h' hconnecting
    rw [hpending] at heq
    obtain rfl | ⟨r', e', rfl⟩ := List.eq_nil_or_concat' r
    · obtain ⟨-, hsame⟩ := List.append_inj' heq rfl
      refine absurd ?_ hother
      rw [List.singleton_inj.mp hsame, show s.acceptThread = .connecting h h' from hconnecting]
      rfl
    · rw [← List.cons_append, ← List.append_assoc] at heq
      obtain ⟨-, hsame⟩ := List.append_inj' heq rfl
      refine ⟨l ++ r', negotiateCtx, ?_⟩
      rw [← hsame, List.append_assoc]
  · refine hs.pending hconnect e' ?_
    rw [hpending]
    exact ((List.sublist_cons_self e r).append_left l).subset he'
  · rcases List.mem_append.mp hp with hp | hp
    · exact hs.paired p hp
    · rw [List.mem_singleton.mp hp]
      exact hcustody.paired hpaired

/-- The exit of the connect thread closes what is pending. -/
theorem Accounted.exitConnect (hs : s.Accounted) (hconnect : s.connectThread = true)
    (hsound : ∀ h r, s.acceptThread ≠ .connecting h r) : s.exitConnect.Accounted := by
  refine ⟨le_of_eq_of_le ?_ hs.numbered, nofun, nofun, hs.paired⟩
  have hown : ∀ b, s.acceptThread.own b = s.acceptThread.handles := fun b => by
    cases hthread : s.acceptThread with
    | connecting h r => exact absurd hthread (hsound h r)
    | accepting | accepted h | refused h | exited => rfl
  have hpending : Multiset.ofList (s.sockArrayEvents.flatMap fun e =>
      e.accepted.toList ++ e.remote.toList) = s.pendingHandles := by
    unfold pendingHandles
    rw [hconnect, if_pos rfl, Ledger.coe_flatMap]
    rfl
  unfold total TcpProxyServer.exitConnect
  rw [hown, hown, ← Multiset.coe_add, hpending]
  show _ + (0 : Multiset Socket) + _ + (_ + s.pendingHandles) = _ + s.pendingHandles + _ + _
  abel

theorem Accounted.complete (hs : s.Accounted) {l r : List Socks5TcpProxySocket}
    {p q : Socks5TcpProxySocket} {c : ProxyCompletion} {ok : Accepts} {recvLocal : Bool}
    (hsockets : s.proxySockets = l ++ p :: r)
    (hsound : p.StartsRelay s.endServer c → recvLocal = true → ok.recv = true)
    (hdispatch : p.dispatch s.endServer ok recvLocal c = .ok q) :
    Accounted { s with proxySockets := l ++ q :: r } := by
  have hpaired : p.Paired :=
    hs.paired p (hsockets ▸ List.mem_append_cons_self)
  have hcustody := Socks5TcpProxySocket.custody_dispatch hpaired hsound hdispatch
  refine ⟨le_of_eq_of_le ?_ hs.numbered, hs.connecting, hs.pending,
    paired_of_custody hcustody (hsockets ▸ hs.paired)⟩
  unfold total
  rw [sum_handles_of_custody hcustody, ← hsockets]
  rfl

/-- A pass of `clear_thread` closes what an expired proxy socket holds, and the destructor what is
left. -/
theorem Accounted.clear (hs : s.Accounted) {l r : List Socks5TcpProxySocket}
    {p : Socks5TcpProxySocket} {expired : Bool} (hsockets : s.proxySockets = l ++ p :: r) :
    (s.clear expired l p r).Accounted := by
  have hcustody := TcpProxySocket.custody_isReadyForRemoval (s := p.toTcpProxySocket) expired
  unfold TcpProxyServer.clear
  generalize p.toTcpProxySocket.isReadyForRemoval expired = result at hcustody
  obtain ⟨ready, base⟩ := result
  have hpaired : ∀ q ∈ l ++ p :: r, q.Paired := hsockets ▸ hs.paired
  cases ready with
  | true =>
    refine ⟨le_of_eq_of_le ?_ hs.numbered, hs.connecting, hs.pending,
      fun q hq => hpaired q (((List.sublist_cons_self p r).append_left l).subset hq)⟩
    have hdestroy : Multiset.ofList base.destroy.closed = p.handles :=
      base.destroy_closed.trans hcustody.handles
    show s.acceptThread.own s.connectThread + s.pendingHandles +
      ((l ++ r).map fun p => p.handles).sum +
        Multiset.ofList (s.closed ++ base.destroy.closed) = s.total
    unfold total
    rw [hsockets, ← Multiset.coe_add, hdestroy, Ledger.sum_map_insert]
    abel
  | false =>
    have hremoved : p.Custody { p with toTcpProxySocket := base } := hcustody
    refine ⟨le_of_eq_of_le ?_ hs.numbered, hs.connecting, hs.pending,
      paired_of_custody hremoved hpaired⟩
    show _ + s.pendingHandles +
      ((l ++ { p with toTcpProxySocket := base } :: r).map fun p => p.handles).sum + _ = s.total
    rw [sum_handles_of_custody hremoved, ← hsockets]
    rfl

/-- `stop` destroys the proxy sockets. -/
theorem Accounted.join (hs : s.Accounted) (hconnect : s.connectThread = false) :
    s.join.Accounted := by
  refine ⟨le_of_eq_of_le ?_ hs.numbered, fun h => ?_, fun h => ?_, nofun⟩
  · have hpending : s.pendingHandles = 0 := by
      unfold pendingHandles
      rw [hconnect]
      rfl
    have hpending' : s.join.pendingHandles = 0 := by
      unfold pendingHandles TcpProxyServer.join
      rw [hconnect]
      rfl
    have hdestroy : Multiset.ofList (s.proxySockets.flatMap fun p =>
        p.toTcpProxySocket.destroy.closed) = (s.proxySockets.map fun p => p.handles).sum := by
      rw [Ledger.coe_flatMap]
      exact congrArg List.sum (List.map_congr_left fun p _ => p.destroy_closed)
    unfold total
    rw [hpending, hpending']
    show _ + 0 + (0 : Multiset Socket) + Multiset.ofList (s.closed ++ _) = _ + 0 + _ + _
    rw [← Multiset.coe_add, hdestroy]
    show s.acceptThread.own s.connectThread + 0 + (0 : Multiset Socket) + (_ + _) = _
    abel
  · exact absurd (hconnect.symm.trans h) nofun
  · exact absurd (hconnect.symm.trans h) nofun

theorem Accounted.step (hs : s.Accounted) (hsound : s.CustodySound e) (hstep : Step s e t) :
    t.Accounted := by
  cases hstep with
  | accept hthread hend => exact hs.accept hthread
  | noRemote hthread =>
    refine ⟨le_of_eq_of_le ?_ hs.numbered, fun _ _ _ => nofun, hs.pending, hs.paired⟩
    unfold total
    rw [hthread]
    rfl
  | bindFailed hthread => exact hs.bindFailed hthread
  | push negotiateCtx hthread => exact hs.push hthread negotiateCtx
  | connected hthread => exact hs.connected hthread
  | connectFailed hthread => exact hs.connectFailed hthread hsound
  | closeAccepted hthread => exact hs.closeAccepted hthread
  | exitAccept hthread =>
    refine ⟨le_of_eq_of_le ?_ hs.numbered, fun _ _ _ => nofun, hs.pending, hs.paired⟩
    unfold total
    rw [hthread]
    rfl
  | take ok recvLocal hconnect hpending hrefused =>
    exact hs.take hconnect hpending hsound.1 hsound.2
  | exitConnect hconnect hend => exact hs.exitConnect hconnect hsound
  | complete c ok recvLocal hsockets hcall hdispatch => exact hs.complete hsockets hsound hdispatch
  | clear expired hsockets => exact hs.clear hsockets
  | stop hend => exact ⟨hs.numbered, hs.connecting, hs.pending, hs.paired⟩
  | join hend hthread hconnect => exact hs.join hconnect

/-- In runs in which no `connect` fails at once while the connect thread runs, the connect thread
does not end while the accept thread is between the element for a connection and its `connect`, and
no relay is refused its second receive: no handle is passed to `closesocket` twice, and a handle
that was is kept by no thread and no proxy socket. -/
theorem closed_once (h : (system.restrict CustodySound).Reachable s) :
    s.closedHandles.Nodup ∧ ∀ h ∈ s.closedHandles, h ∉ s.keptHandles := by
  have hs : s.Accounted := by
    refine h.restrict_invariant (fun s hs => ?_) fun _ _ _ hs hsound hstep => hs.step hsound hstep
    cases hs
    exact ⟨le_refl _, fun _ _ _ => nofun, fun _ => nofun, nofun⟩
  exact hs.closed

/-! ## Runs that are not sound -/

/-- A handle that a proxy socket closed twice was passed to `closesocket` twice. -/
theorem not_nodup_of_count {l r : List Socks5TcpProxySocket} {q : Socks5TcpProxySocket}
    (hsockets : s.proxySockets = l ++ q :: r) (h : Socket) (hcount : 2 ≤ q.closed.count h) :
    ¬ s.closedHandles.Nodup := by
  intro hnodup
  have hone := Multiset.nodup_iff_count_le_one.mp hnodup h
  unfold closedHandles at hone
  rw [hsockets, List.map_append, List.map_cons, List.sum_append, List.sum_cons, Multiset.count_add,
    Multiset.count_add, Multiset.count_add, Multiset.coe_count, Multiset.coe_count] at hone
  omega

/-- The first step of a run that is not sound closes a handle twice, or leaves a closed handle with
an owner. -/
theorem unsound_step_breaks (hs : s.Accounted) (hunsound : ¬ s.CustodySound e)
    (hstep : Step s e t) :
    ¬ (t.closedHandles.Nodup ∧ ∀ h ∈ t.closedHandles, h ∉ t.keptHandles) := by
  rintro ⟨hnodup, hkept⟩
  cases hstep with
  | @connectFailed h r hthread =>
    have hconnect : s.connectThread = true := by simpa [CustodySound] using hunsound
    obtain ⟨l, negotiateCtx, hlast⟩ := hs.connecting hconnect h r hthread
    refine hkept r ?_ ?_
    · simp [closedHandles]
    · simp [keptHandles, pendingHandles, hconnect, hlast, PendingConnection.handles]
  | exitConnect hconnect hend =>
    obtain ⟨h, r, hthread⟩ : ∃ h r, s.acceptThread = .connecting h r := by
      simpa [CustodySound] using hunsound
    obtain ⟨l, negotiateCtx, hlast⟩ := hs.connecting hconnect h r hthread
    refine hkept r ?_ ?_
    · simp [closedHandles, TcpProxyServer.exitConnect, hlast]
    · simp [keptHandles, TcpProxyServer.exitConnect, hthread, AcceptThread.handles]
  | @take l r e ok recvLocal hconnect hpending hrefused =>
    have hopen := hs.pending hconnect e (hpending ▸ List.mem_append_cons_self)
    obtain ⟨h, hh⟩ := Option.isSome_iff_exists.mp hopen.1
    by_cases hthread : s.acceptThread.IsConnecting e
    · obtain ⟨r', hconnecting⟩ : ∃ r', s.acceptThread = .connecting h r' := by
        cases haccept : s.acceptThread with
        | connecting h' r' =>
          rw [haccept] at hthread
          rw [Option.some.inj (hh.symm.trans hthread)]
          exact ⟨r', rfl⟩
        | accepting | accepted | refused | exited =>
          rw [haccept] at hthread
          exact hthread.elim
      rw [hrefused hthread] at hkept
      have hclosed := Socks5TcpProxySocket.start_unconnected (s := e.proxySocket)
        (hopen.1.trans hopen.2.symm) rfl hh recvLocal
      refine hkept h ?_ ?_
      · unfold closedHandles
        rw [List.map_append, List.sum_append, List.map_singleton, List.sum_singleton]
        exact Multiset.mem_add.mpr (Or.inr (Multiset.mem_add.mpr (Or.inr hclosed)))
      · unfold keptHandles
        simp [hconnecting, AcceptThread.handles]
    · obtain ⟨hctx, rfl, hrecv⟩ : e.negotiateCtx = none ∧ recvLocal = true ∧ ok.recv = false := by
        simpa [CustodySound, hthread] using hunsound
      have hcount := TcpProxySocket.startDataRelay_refused (s := e.proxySocket.toTcpProxySocket) hh
      refine not_nodup_of_count (l := s.proxySockets) (r := []) rfl h ?_ hnodup
      unfold Socks5TcpProxySocket.start Socks5TcpProxySocket.remoteNegotiate
      rw [show e.proxySocket.negotiateCtx = none from hctx, hrecv]
      exact hcount
  | @complete l r p q c ok recvLocal hsockets hcall hdispatch =>
    obtain ⟨hstart, rfl, hrecv⟩ : p.StartsRelay s.endServer c ∧ recvLocal = true ∧
        ok.recv = false := by
      simpa [CustodySound] using hunsound
    obtain ⟨h, hcount⟩ := Socks5TcpProxySocket.dispatch_refused hstart hrecv hdispatch
    exact not_nodup_of_count rfl h hcount hnodup
  | _ => exact hunsound trivial

/-! ## Two runs -/

/-- A connection is accepted, connected and relayed, and the server stopped: both handles were
closed once. -/
theorem closed_once_stopped :
    ∃ s, (system.restrict CustodySound).Reachable s ∧ s.closedHandles = {0, 1} ∧
      s.closedHandles.Nodup := by
  have h₀ : (system.restrict CustodySound).Reachable {} := System.Reachable.init rfl
  have h₁ := h₀.restrict_snoc (.accept rfl rfl) trivial
  have h₂ := h₁.restrict_snoc (.push none rfl) trivial
  have h₃ := h₂.restrict_snoc (.connected rfl) trivial
  have h₄ := h₃.restrict_snoc (@Step.take _ [] [] _ ⟨true, true⟩ true rfl rfl False.elim)
    ⟨id, fun _ _ => rfl⟩
  have h₅ := h₄.restrict_snoc (.stop rfl) trivial
  have h₆ := h₅.restrict_snoc (.exitAccept rfl) trivial
  have h₇ := h₆.restrict_snoc (.exitConnect rfl rfl) nofun
  have h₈ := h₇.restrict_snoc (.join rfl rfl rfl) trivial
  exact ⟨_, h₈, rfl, (closed_once h₈).1⟩

/-- A `connect` fails at once, and the server is stopped: both handles were closed twice. -/
theorem failed_connect_closes_twice :
    ∃ s, system.Reachable s ∧ s.closedHandles = {1, 0, 0, 1} := by
  have h₀ : system.Reachable {} := System.Reachable.init rfl
  have h₁ := h₀.snoc (.accept rfl rfl)
  have h₂ := h₁.snoc (.push none rfl)
  have h₃ := h₂.snoc (.connectFailed rfl)
  have h₄ := h₃.snoc (.closeAccepted rfl)
  have h₅ := h₄.snoc (.stop rfl)
  have h₆ := h₅.snoc (.exitConnect rfl rfl)
  exact ⟨_, h₆, rfl⟩

end TcpProxyServer

end CutieProxy
