import CutieProxy.Proxy.SocketCustody

/-!
# The snapshot of `connect_to_remote_host_thread`

The connect thread copies the events of `sock_array_events_` under one acquisition of `lock_`,
waits for one of the copies, and uses the index it is given on the vector itself under another.
`TcpProxyServer` takes an arbitrary element in one step; here the thread takes its own steps, with
the events, the wait and the index, while `connect_to_remote_host` appends. `lock_` makes a step of
what is done under it. The elements carry the number of the call that stored them, which the code
does not have. The thread is the only one to erase an element, so its snapshot stays a prefix of
the events (`Inv.snapshot`).
-/

namespace CutieProxy

open Transition

/-- The handle of an event. -/
abbrev EventHandle := Nat

/-- An element of `sock_array_events_` with its event, and the number of the call of
`connect_to_remote_host` that stored it; `none` is an event that `WSACreateEvent` did not create. -/
structure EventEntry where
  call : Nat
  event : Option EventHandle
  connection : PendingConnection

/-- Where `connect_to_remote_host_thread` is, with the content of `wait_events` and
`event_index`. -/
inductive ConnectThread where
  /-- At the head of the loop. -/
  | looping
  | waiting (waitEvents : List (Option EventHandle))
  /-- The wait returned the index. -/
  | woken (waitEvents : List (Option EventHandle)) (eventIndex : Nat)
  /-- The server was found running. -/
  | building (waitEvents : List (Option EventHandle)) (eventIndex : Nat)
  | exited
  deriving DecidableEq

namespace ConnectThread

/-- The content of `wait_events`, when it is used. -/
def waitEvents : ConnectThread → List (Option EventHandle)
  | looping | exited => []
  | waiting w | woken w _ | building w _ => w

/-- The index the wait returned, while the thread has it. -/
def eventIndex : ConnectThread → Option Nat
  | looping | waiting _ | exited => none
  | woken _ i | building _ i => some i

end ConnectThread

/-- `tcp_proxy_server`, with the steps of the connect thread. -/
structure ConnectSnapshot where
  /-- All but `sock_array_events_` and the connect thread. -/
  others : TcpProxyServer := {}
  connect : ConnectThread := .looping
  /-- The event of the first element of `sock_array_events_`. -/
  wake : Option EventHandle
  /-- The other elements. -/
  entries : List EventEntry := []
  openEvents : List EventHandle
  signalled : List EventHandle := []
  /-- What the calls of `connect_to_remote_host` stored, in order. -/
  calls : List EventEntry := []
  /-- The calls whose event was signalled while it was theirs. -/
  signalledCalls : List Nat := []
  /-- What the proxy sockets were built from: the event that was closed, the element that was
  erased. -/
  built : List EventEntry := []

namespace ConnectSnapshot

/-- The events of `sock_array_events_`, in order. -/
def events (s : ConnectSnapshot) : List (Option EventHandle) :=
  s.wake :: s.entries.map EventEntry.event

/-- The server, as `TcpProxyServer` has it. -/
def server (s : ConnectSnapshot) : TcpProxyServer :=
  { s.others with
    connectThread := decide (s.connect ≠ .exited)
    sockArrayEvents := s.entries.map EventEntry.connection }

/-- What happens to the server. -/
inductive Event where
  /-- A step of the server that is none of the following. -/
  | other (e : TcpProxyServer.Event)
  | push (event : Option EventHandle) (negotiateCtx : Option NegotiateContext)
  /-- The system signals the event of an element. -/
  | signal (h : EventHandle)
  | snapshot
  /-- `wait_for_multiple_objects` returns the index. -/
  | wake (eventIndex : Nat)
  /-- The thread goes on after the wait. -/
  | proceed
  | reset
  | take (ok : Accepts) (recvLocal : Bool)
  | exit
  | stop
  | join

/-- The step is not one of `push`, `stop`, `join` and the connect thread. -/
def IsOther : TcpProxyServer.Event → Prop
  | .push _ | .take .. | .exitConnect | .stop | .join => False
  | _ => True

/-- `WSASetEvent`, and what the system does when a `connect` is over. -/
def setEvent (event : Option EventHandle) (s : ConnectSnapshot) : ConnectSnapshot :=
  { s with
    signalled := event.toList ++ s.signalled
    signalledCalls := s.signalledCalls ++
      (s.entries.filter fun e => e.event.isSome && e.event == event).map EventEntry.call }

/-- `WSACreateEvent`: the event is not signalled. -/
def createEvent (event : Option EventHandle) (s : ConnectSnapshot) : ConnectSnapshot :=
  { s with
    openEvents := event.toList ++ s.openEvents
    signalled := s.signalled.filter fun h => event != some h }

/-- `WSACloseEvent`. -/
def closeEvent (event : Option EventHandle) (s : ConnectSnapshot) : ConnectSnapshot :=
  { s with openEvents := s.openEvents.filter fun h => event != some h }

/-- `WSAResetEvent`. -/
def resetEvent (event : Option EventHandle) (s : ConnectSnapshot) : ConnectSnapshot :=
  { s with signalled := s.signalled.filter fun h => event != some h }

/-- `connect_to_remote_host` stores the accepted socket `h` and the remote socket it opens. -/
def push (event : Option EventHandle) (h : Socket) (negotiateCtx : Option NegotiateContext)
    (s : ConnectSnapshot) : ConnectSnapshot :=
  let entry : EventEntry :=
    ⟨s.calls.length, event, ⟨some h, some s.others.socketCount, negotiateCtx⟩⟩
  let created := s.createEvent event
  setEvent s.wake { created with
    others := { s.others with
      acceptThread := .connecting h s.others.socketCount
      socketCount := s.others.socketCount + 1 }
    entries := s.entries ++ [entry]
    calls := s.calls ++ [entry] }

/-- The thread builds and starts a proxy socket of the element `e`, at index `i + 1` of the vector;
`event` is at that index of the snapshot. -/
def take (event : Option EventHandle) (i : Nat) (e : EventEntry) (ok : Accepts) (recvLocal : Bool)
    (s : ConnectSnapshot) : ConnectSnapshot :=
  let closed := s.closeEvent event
  { closed with
    connect := .looping
    entries := s.entries.eraseIdx i
    others := { s.others with
      proxySockets := s.others.proxySockets ++ [(e.connection.proxySocket.start ok recvLocal).2] }
    built := s.built ++ [{ e with event }] }

/-- What the connect thread does on its exit. -/
def exit (s : ConnectSnapshot) : ConnectSnapshot :=
  { s with
    connect := .exited
    openEvents := s.openEvents.filter fun h => !s.events.contains (some h)
    others := s.server.exitConnect
    entries := s.entries.map fun e =>
      { e with connection := ⟨none, none, e.connection.negotiateCtx⟩ } }

/-- One step of a thread. -/
inductive Step : ConnectSnapshot → Event → ConnectSnapshot → Prop
  | other {s : ConnectSnapshot} {e : TcpProxyServer.Event} {t : TcpProxyServer} :
      TcpProxyServer.Step s.server e t → IsOther e → Step s (.other e) { s with others := t }
  /-- A handle that is open is not given again. -/
  | push {s : ConnectSnapshot} {h : Socket} (event : Option EventHandle)
      (negotiateCtx : Option NegotiateContext) : s.others.acceptThread = .accepted h →
      (∀ n, event = some n → n ∉ s.openEvents) →
      Step s (.push event negotiateCtx) (s.push event h negotiateCtx)
  | signal {s : ConnectSnapshot} {e : EventEntry} {h : EventHandle} : e ∈ s.entries →
      e.event = some h → Step s (.signal h) (s.setEvent (some h))
  | snapshot {s : ConnectSnapshot} : s.connect = .looping → s.others.endServer = false →
      Step s .snapshot { s with connect := .waiting s.events }
  /-- The index is that of an event of the snapshot that is signalled. -/
  | wake {s : ConnectSnapshot} {w : List (Option EventHandle)} {i : Nat} {h : EventHandle} :
      s.connect = .waiting w → w[i]? = some (some h) → h ∈ s.signalled →
      Step s (.wake i) { s with connect := .woken w i }
  | proceed {s : ConnectSnapshot} {w : List (Option EventHandle)} {i : Nat} :
      s.connect = .woken w i → s.others.endServer = false →
      Step s .proceed { s with connect := .building w i }
  | reset {s : ConnectSnapshot} {w : List (Option EventHandle)} {event : Option EventHandle} :
      s.connect = .building w 0 → w[0]? = some event →
      Step s .reset { s.resetEvent event with connect := .looping }
  /-- Every call on a remote socket whose `connect` was not called yet is refused. -/
  | take {s : ConnectSnapshot} {w : List (Option EventHandle)} {i : Nat}
      {event : Option EventHandle} {e : EventEntry} (ok : Accepts) (recvLocal : Bool) :
      s.connect = .building w (i + 1) → w[i + 1]? = some event → s.entries[i]? = some e →
      (s.others.acceptThread.IsConnecting e.connection → ok = ⟨false, false⟩) →
      Step s (.take ok recvLocal) (s.take event i e ok recvLocal)
  | exit {s : ConnectSnapshot} : s.connect = .looping ∨ (∃ w i, s.connect = .woken w i) →
      s.others.endServer = true → Step s .exit s.exit
  | stop {s : ConnectSnapshot} : s.others.endServer = false →
      Step s .stop (setEvent s.wake { s with others := { s.others with endServer := true } })
  | join {s : ConnectSnapshot} : s.others.endServer = true → s.others.acceptThread = .exited →
      s.connect = .exited → Step s .join { s with others := s.others.join, entries := [] }

/-- The runs of a server that was started. -/
def system : System ConnectSnapshot Event where
  init s := ∃ wake : Option EventHandle, s = { wake, openEvents := wake.toList }
  step := Step

variable {s t : ConnectSnapshot} {e : Event}

/-! ## The server that takes any element -/

/-- The steps of the other threads leave the vector to this module. -/
theorem IsOther.keeps {a b : TcpProxyServer} {e : TcpProxyServer.Event} (hother : IsOther e)
    (h : TcpProxyServer.Step a e b) :
    b.sockArrayEvents = a.sockArrayEvents ∧ b.connectThread = a.connectThread := by
  cases h with
  | push | take | exitConnect | stop | join => exact hother.elim
  | accept | noRemote | bindFailed | connected | connectFailed | closeAccepted | exitAccept
  | complete => exact ⟨rfl, rfl⟩
  | clear =>
    unfold TcpProxyServer.clear
    dsimp only
    split <;> exact ⟨rfl, rfl⟩

/-- A step of the other threads is one of the server. -/
theorem server_other {u : TcpProxyServer} {e : TcpProxyServer.Event} (hother : IsOther e)
    (h : TcpProxyServer.Step s.server e u) :
    ({ s with others := u } : ConnectSnapshot).server = u := by
  obtain ⟨hevents, hconnect⟩ := hother.keeps h
  unfold server at *
  cases u
  cases hevents
  cases hconnect
  rfl

@[simp] theorem server_setEvent (event : Option EventHandle) (s : ConnectSnapshot) :
    (s.setEvent event).server = s.server := rfl

@[simp] theorem server_resetEvent (event : Option EventHandle) (s : ConnectSnapshot) :
    (s.resetEvent event).server = s.server := rfl

/-- An element that is found at an index parts the vector. -/
theorem entries_parted {i : Nat} {x : EventEntry} {l : List EventEntry} (h : l[i]? = some x) :
    l = l.take i ++ x :: l.drop (i + 1) ∧ l.eraseIdx i = l.take i ++ l.drop (i + 1) := by
  obtain ⟨hi, rfl⟩ := List.getElem?_eq_some_iff.mp h
  refine ⟨?_, List.eraseIdx_eq_take_drop_succ l i⟩
  rw [← List.drop_eq_getElem_cons hi, List.take_append_drop]

/-- What the connect thread takes by its index is an element of the vector. -/
theorem server_take {i : Nat} {x : EventEntry} {event : Option EventHandle} {ok : Accepts}
    {recvLocal : Bool} (hrunning : s.connect ≠ .exited) (hx : s.entries[i]? = some x)
    (hrefused : s.others.acceptThread.IsConnecting x.connection → ok = ⟨false, false⟩) :
    TcpProxyServer.Step s.server (.take x.connection ok recvLocal)
      (s.take event i x ok recvLocal).server := by
  obtain ⟨hparted, herased⟩ := entries_parted hx
  have hstep := TcpProxyServer.Step.take (s := s.server)
    (l := (s.entries.take i).map EventEntry.connection)
    (r := (s.entries.drop (i + 1)).map EventEntry.connection) ok recvLocal
    (decide_eq_true hrunning) ?_ hrefused
  · convert hstep using 1
    unfold server take closeEvent
    simp only [herased, List.map_append]
    rw [decide_eq_true hrunning]
    rfl
  · show s.entries.map EventEntry.connection = _
    conv => lhs; rw [hparted]
    simp

/-- Each step is one of the server that takes any element, or is not seen there. -/
theorem Step.server_step (h : Step s e t) :
    t.server = s.server ∨ ∃ e', TcpProxyServer.Step s.server e' t.server := by
  cases h with
  | @other e u hstep hother => exact .inr ⟨e, server_other hother hstep ▸ hstep⟩
  | @push h event negotiateCtx haccepted hfresh =>
    have hstep := TcpProxyServer.Step.push (s := s.server) negotiateCtx haccepted
    refine .inr ⟨.push negotiateCtx, ?_⟩
    convert hstep using 1
    unfold ConnectSnapshot.push server setEvent createEvent
    simp
  | signal => exact .inl rfl
  | snapshot hconnect =>
    refine .inl ?_
    unfold server
    simp [hconnect]
  | wake hconnect =>
    refine .inl ?_
    unfold server
    simp [hconnect]
  | proceed hconnect =>
    refine .inl ?_
    unfold server
    simp [hconnect]
  | reset hconnect =>
    refine .inl ?_
    unfold server resetEvent
    simp [hconnect]
  | take ok recvLocal hconnect hevent hx hrefused =>
    exact .inr ⟨_, server_take (by simp [hconnect]) hx hrefused⟩
  | exit hconnect hend =>
    have hrunning : s.connect ≠ .exited := by
      rcases hconnect with h | ⟨w, i, h⟩ <;> simp [h]
    have hstep := TcpProxyServer.Step.exitConnect (s := s.server) (decide_eq_true hrunning) hend
    refine .inr ⟨.exitConnect, ?_⟩
    convert hstep using 1
    unfold ConnectSnapshot.exit server TcpProxyServer.exitConnect
    simp
  | stop hend => exact .inr ⟨.stop, .stop hend⟩
  | join hend haccept hconnect =>
    have hstep := TcpProxyServer.Step.join (s := s.server) hend haccept (by simp [server, hconnect])
    refine .inr ⟨.join, ?_⟩
    convert hstep using 1
    unfold server TcpProxyServer.join
    simp [hconnect]

/-- The server whose connect thread takes its steps is one that takes any element. -/
theorem server_reachable (h : system.Reachable s) : TcpProxyServer.system.Reachable s.server := by
  refine System.Reachable.invariant (M := system)
    (I := fun s => TcpProxyServer.system.Reachable s.server) ?_ ?_ h
  · rintro s ⟨wake, rfl⟩
    exact System.Reachable.init rfl
  · intro s e t hs hstep
    rcases hstep.server_step with hsame | ⟨e', hstep'⟩
    · rw [hsame]
      exact hs
    · exact hs.snoc hstep'

/-! ## The proxy sockets -/

/-- The proxy socket was built from the element: it has its context, and no other sockets. -/
def BuiltFrom (p : Socks5TcpProxySocket) (b : EventEntry) : Prop :=
  b.connection.proxySocket.KeepsEnds p

/-- Every proxy socket was built from an element of its own. -/
def Sourced (proxySockets : List Socks5TcpProxySocket) (built : List EventEntry) : Prop :=
  ∃ sources, List.Forall₂ BuiltFrom proxySockets sources ∧ sources.Sublist built

namespace Sourced

variable {l r : List Socks5TcpProxySocket} {p q : Socks5TcpProxySocket} {built : List EventEntry}

theorem replace (h : Sourced (l ++ p :: r) built) (hkeeps : p.KeepsEnds q) :
    Sourced (l ++ q :: r) built := by
  obtain ⟨sources, hsources, hsub⟩ := h
  refine ⟨sources, ?_, hsub⟩
  clear hsub
  induction l generalizing sources with
  | nil =>
    cases hsources with
    | cons hp hr => exact .cons (hp.trans hkeeps) hr
  | cons first l ih =>
    cases hsources with
    | cons hfirst hrest => exact .cons hfirst (ih _ hrest)

theorem erase (h : Sourced (l ++ p :: r) built) : Sourced (l ++ r) built := by
  obtain ⟨sources, hsources, hsub⟩ := h
  have hleft : ∃ left, List.Forall₂ BuiltFrom (l ++ r) left ∧ left.Sublist sources := by
    clear hsub
    induction l generalizing sources with
    | nil =>
      cases hsources with
      | cons _ hr => exact ⟨_, hr, List.sublist_cons_self _ _⟩
    | cons first l ih =>
      cases hsources with
      | cons hfirst hrest =>
        obtain ⟨left, hleft, hsub⟩ := ih _ hrest
        exact ⟨_, .cons hfirst hleft, hsub.cons_cons _⟩
  obtain ⟨left, hleft, hless⟩ := hleft
  exact ⟨left, hleft, hless.trans hsub⟩

theorem concat (h : Sourced l built) {b : EventEntry} (hp : BuiltFrom p b) :
    Sourced (l ++ [p]) (built ++ [b]) := by
  obtain ⟨sources, hsources, hsub⟩ := h
  exact ⟨sources ++ [b], List.rel_append hsources (.cons hp .nil),
    List.Sublist.append hsub (List.Sublist.refl _)⟩

/-- What the other threads do to the proxy sockets. -/
theorem other {a b : TcpProxyServer} {e : TcpProxyServer.Event} (h : Sourced a.proxySockets built)
    (hother : IsOther e) (hstep : TcpProxyServer.Step a e b) : Sourced b.proxySockets built := by
  cases hstep with
  | push | take | exitConnect | stop | join => exact hother.elim
  | accept | noRemote | bindFailed | connected | connectFailed | closeAccepted | exitAccept =>
    exact h
  | complete c ok recvLocal hparted hpending hdispatch =>
    rw [hparted] at h
    exact h.replace (Socks5TcpProxySocket.keepsEnds_dispatch hdispatch)
  | clear expired hparted =>
    rw [hparted] at h
    unfold TcpProxyServer.clear
    dsimp only
    split
    · exact h.erase
    · exact h.replace (Socks5TcpProxySocket.keepsEnds_isReadyForRemoval expired)

end Sourced

/-! ## The index stays in step -/

/-- The index the connect thread is given is that of the element whose event was signalled. -/
structure Inv (s : ConnectSnapshot) : Prop where
  snapshot : s.connect.waitEvents <+: s.events
  index : ∀ i, s.connect.eventIndex = some i → i < s.connect.waitEvents.length
  told : ∀ i, s.connect.eventIndex = some (i + 1) → ∀ x, s.entries[i]? = some x →
    x.call ∈ s.signalledCalls
  /-- An event that is signalled was signalled while it was the element's. -/
  owned : ∀ x ∈ s.entries, ∀ h, x.event = some h → h ∈ s.signalled → x.call ∈ s.signalledCalls
  stored : s.connect ≠ .exited → ∀ x ∈ s.entries, s.calls[x.call]? = some x
  built : ∀ b ∈ s.built, s.calls[b.call]? = some b ∧ b.call ∈ s.signalledCalls
  numbered : ∀ x ∈ s.entries, x.call < s.calls.length
  once : ((s.built ++ s.entries).map EventEntry.call).Nodup
  sourced : Sourced s.others.proxySockets s.built

namespace Inv

theorem init (wake : Option EventHandle) :
    Inv { wake, openEvents := wake.toList } where
  snapshot := List.nil_prefix
  index := nofun
  told := nofun
  owned := nofun
  stored _ := nofun
  built := nofun
  numbered := nofun
  once := List.nodup_nil
  sourced := ⟨[], .nil, List.nil_sublist _⟩

/-- A signal is counted for the elements that have the event. -/
theorem setEvent (h : Inv s) (event : Option EventHandle) : Inv (s.setEvent event) where
  snapshot := h.snapshot
  index := h.index
  told i hi x hx := List.mem_append_left _ (h.told i hi x hx)
  owned x hx n hn hmem := by
    rcases List.mem_append.mp hmem with hevent | hbefore
    · refine List.mem_append_right _ (List.mem_map_of_mem (List.mem_filter.mpr ⟨hx, ?_⟩))
      rw [Option.mem_toList.mp hevent, hn]
      simp
    · exact List.mem_append_left _ (h.owned x hx n hn hbefore)
  stored := h.stored
  built b hb := ⟨(h.built b hb).1, List.mem_append_left _ (h.built b hb).2⟩
  numbered := h.numbered
  once := h.once
  sourced := h.sourced

/-- The thread takes a step that leaves the vector and the events as they are. -/
theorem move (h : Inv s) {c : ConnectThread} (hrunning : s.connect ≠ .exited)
    (hsnapshot : c.waitEvents <+: s.events)
    (hindex : ∀ i, c.eventIndex = some i → i < c.waitEvents.length)
    (htold : ∀ i, c.eventIndex = some (i + 1) → ∀ x, s.entries[i]? = some x →
      x.call ∈ s.signalledCalls) : Inv { s with connect := c } where
  snapshot := hsnapshot
  index := hindex
  told := htold
  owned := h.owned
  stored _ := h.stored hrunning
  built := h.built
  numbered := h.numbered
  once := h.once
  sourced := h.sourced

/-- The event that woke the thread is reset. -/
theorem resetEvent (h : Inv s) (event : Option EventHandle) : Inv (s.resetEvent event) where
  snapshot := h.snapshot
  index := h.index
  told := h.told
  owned x hx n hn hmem := h.owned x hx n hn (List.mem_of_mem_filter hmem)
  stored := h.stored
  built := h.built
  numbered := h.numbered
  once := h.once
  sourced := h.sourced

/-- The element is behind those of the snapshot, and has the next number. -/
theorem push (h : Inv s) {event : Option EventHandle} {accepted : Socket}
    {negotiateCtx : Option NegotiateContext} : Inv (s.push event accepted negotiateCtx) := by
  refine setEvent ?_ s.wake
  have hlater {l : List EventEntry} {x y : EventEntry} {n : Nat} (hn : l[n]? = some x) :
      (l ++ [y])[n]? = some x := by
    rw [List.getElem?_append_left (List.getElem?_eq_some_iff.mp hn).1, hn]
  exact
    { snapshot := by
        refine h.snapshot.trans ?_
        unfold events
        rw [List.map_append, ← List.cons_append]
        exact List.prefix_append _ _
      index := h.index
      told := fun i hi x hx => by
        have hlong : i + 1 < s.events.length := (h.index _ hi).trans_le h.snapshot.length_le
        rw [List.getElem?_append_left (by simpa [events] using hlong)] at hx
        exact h.told i hi x hx
      owned := fun x hx n hn hmem => by
        obtain ⟨hbefore, hnew⟩ := List.mem_filter.mp hmem
        rcases List.mem_append.mp hx with hold | hlast
        · exact h.owned x hold n hn hbefore
        · rw [List.mem_singleton.mp hlast] at hn
          exact absurd hn (by simpa using hnew)
      stored := fun hrunning x hx => by
        rcases List.mem_append.mp hx with hold | hlast
        · exact hlater (h.stored hrunning x hold)
        · rw [List.mem_singleton.mp hlast]
          exact List.getElem?_concat_length
      built := fun b hb => ⟨hlater (h.built b hb).1, (h.built b hb).2⟩
      numbered := fun x hx => by
        rw [List.length_append, List.length_singleton]
        rcases List.mem_append.mp hx with hold | hlast
        · exact (h.numbered x hold).trans (Nat.lt_succ_self _)
        · rw [List.mem_singleton.mp hlast]
          exact Nat.lt_succ_self _
      once := by
        rw [← List.append_assoc, List.map_append, List.map_singleton]
        refine List.nodup_append.mpr ⟨h.once, by simp, ?_⟩
        intro n hn m hm hsame
        obtain ⟨x, hx, rfl⟩ := List.mem_map.mp hn
        have hlt : x.call < s.calls.length := by
          rcases List.mem_append.mp hx with hb | hentry
          · exact (List.getElem?_eq_some_iff.mp (h.built x hb).1).1
          · exact h.numbered x hentry
        rw [hsame, List.mem_singleton.mp hm] at hlt
        exact absurd hlt (Nat.lt_irrefl _)
      sourced := h.sourced }

/-- The event at the index of the snapshot is that of the element at the index. -/
theorem event_eq (h : Inv s) {i : Nat} {event : Option EventHandle} {x : EventEntry}
    (hevent : s.connect.waitEvents[i + 1]? = some event) (hx : s.entries[i]? = some x) :
    x.event = event := by
  obtain ⟨hi, rfl⟩ := List.getElem?_eq_some_iff.mp hevent
  have hsame := List.prefix_iff_getElem?.mp h.snapshot (i + 1) hi
  rw [events, List.getElem?_cons_succ, List.getElem?_map, hx] at hsame
  exact Option.some.inj hsame

/-- The wait returns the index of an element whose event was signalled. -/
theorem wake (h : Inv s) {w : List (Option EventHandle)} {i : Nat} {n : EventHandle}
    (hconnect : s.connect = .waiting w) (hevent : w[i]? = some (some n)) (hn : n ∈ s.signalled) :
    Inv { s with connect := .woken w i } := by
  have hsnapshot := h.snapshot
  rw [hconnect] at hsnapshot
  refine h.move (by simp [hconnect]) hsnapshot ?_ ?_
  · intro j hj
    cases hj
    exact (List.getElem?_eq_some_iff.mp hevent).1
  · intro j hj x hx
    cases hj
    have hsame : x.event = some n :=
      h.event_eq (by simpa [hconnect, ConnectThread.waitEvents] using hevent) hx
    exact h.owned x (List.mem_of_getElem? hx) n hsame hn

/-- The element at the index makes the proxy socket and is erased. -/
theorem take (h : Inv s) {w : List (Option EventHandle)} {i : Nat} {event : Option EventHandle}
    {x : EventEntry} {ok : Accepts} {recvLocal : Bool} (hconnect : s.connect = .building w (i + 1))
    (hevent : w[i + 1]? = some event) (hx : s.entries[i]? = some x) :
    Inv (s.take event i x ok recvLocal) := by
  have hsame : x.event = event :=
    h.event_eq (by simpa [hconnect, ConnectThread.waitEvents] using hevent) hx
  obtain rfl := hsame
  obtain ⟨hparted, herased⟩ := entries_parted hx
  have hkept {y : EventEntry} (hy : y ∈ s.entries.eraseIdx i) : y ∈ s.entries :=
    List.mem_of_mem_eraseIdx hy
  exact
    { snapshot := List.nil_prefix
      index := nofun
      told := nofun
      owned := fun y hy => h.owned y (hkept hy)
      stored := fun _ y hy => h.stored (by simp [hconnect]) y (hkept hy)
      built := fun b hb => by
        rcases List.mem_append.mp hb with hold | hlast
        · exact h.built b hold
        · rw [List.mem_singleton.mp hlast]
          exact ⟨h.stored (by simp [hconnect]) x (List.mem_of_getElem? hx),
            h.told i (by simp [hconnect, ConnectThread.eventIndex]) x hx⟩
      numbered := fun y hy => h.numbered y (hkept hy)
      once := by
        have honce := h.once
        rw [hparted] at honce
        refine (List.Perm.nodup_iff (List.Perm.map EventEntry.call ?_)).mp honce
        show List.Perm _ ((s.built ++ [x]) ++ s.entries.eraseIdx i)
        rw [herased, List.append_assoc]
        exact List.Perm.append_left _ List.perm_middle
      sourced := h.sourced.concat Socks5TcpProxySocket.keepsEnds_start }

/-- The thread is gone: what it leaves is not used. -/
theorem exit (h : Inv s) : Inv s.exit where
  snapshot := List.nil_prefix
  index := nofun
  told := nofun
  owned x hx := by
    obtain ⟨y, hy, rfl⟩ := List.mem_map.mp hx
    exact h.owned y hy
  stored := fun hrunning => absurd rfl hrunning
  built := h.built
  numbered x hx := by
    obtain ⟨y, hy, rfl⟩ := List.mem_map.mp hx
    exact h.numbered y hy
  once := by
    have honce := h.once
    rw [List.map_append] at honce ⊢
    simpa [ConnectSnapshot.exit, Function.comp_def] using honce
  sourced := h.sourced

/-- `stop` clears the vector when the thread is gone. -/
theorem join (h : Inv s) (hconnect : s.connect = .exited) :
    Inv { s with others := s.others.join, entries := [] } where
  snapshot := by
    rw [show ({ s with others := s.others.join, entries := [] } : ConnectSnapshot).connect = _
      from hconnect]
    exact List.nil_prefix
  index i hi := by simp [hconnect, ConnectThread.eventIndex] at hi
  told := nofun
  owned := nofun
  stored _ := nofun
  built := h.built
  numbered := nofun
  once := by
    refine h.once.sublist (List.Sublist.map _ ?_)
    exact List.Sublist.append (List.Sublist.refl _) (List.nil_sublist _)
  sourced := ⟨[], .nil, List.nil_sublist _⟩

/-- Every step of a thread keeps the index in step. -/
theorem step (h : Inv s) (hstep : Step s e t) : Inv t := by
  cases hstep with
  | other hstep hother =>
    exact ⟨h.snapshot, h.index, h.told, h.owned, h.stored, h.built, h.numbered, h.once,
      Sourced.other (a := s.server) h.sourced hother hstep⟩
  | push => exact h.push
  | signal => exact h.setEvent _
  | snapshot hconnect =>
    exact h.move (by simp [hconnect]) (List.prefix_refl _) nofun nofun
  | wake hconnect hevent hn => exact h.wake hconnect hevent hn
  | @proceed w i hconnect =>
    obtain ⟨hsnapshot, hindex, htold⟩ := And.intro h.snapshot (And.intro h.index h.told)
    rw [hconnect] at hsnapshot hindex htold
    exact h.move (by simp [hconnect]) hsnapshot hindex htold
  | reset hconnect =>
    exact (h.resetEvent _).move (by simp [ConnectSnapshot.resetEvent, hconnect]) List.nil_prefix
      nofun nofun
  | take ok recvLocal hconnect hevent hx => exact h.take hconnect hevent hx
  | exit => exact h.exit
  | stop =>
    refine setEvent ?_ s.wake
    exact ⟨h.snapshot, h.index, h.told, h.owned, h.stored, h.built, h.numbered, h.once, h.sourced⟩
  | join _ _ hconnect => exact h.join hconnect

end Inv

/-- The invariant holds in every state. -/
theorem inv_of_reachable (h : system.Reachable s) : Inv s := by
  refine System.Reachable.invariant (M := system) ?_ (fun _ _ _ => Inv.step) h
  rintro s ⟨wake, rfl⟩
  exact Inv.init wake

end ConnectSnapshot

end CutieProxy
