import CutieProxy.Proxy.RouterReplies
import CutieProxy.Proxy.Socks5LocalUdpProxyServer

/-!
# How a redirected datagram learns its upstream proxy

A local port whose process is matched is entered in the table of the redirection, and recorded in
`udpMapper` when it is new there. A local UDP server that reads a datagram of a port it has no proxy
socket for asks for the upstream proxy, which consumes the record, and makes a proxy socket if the
association succeeds. The port stays entered for fifteen idle minutes, the proxy socket is removed
after five or when it fails, and a port that is entered is never recorded again.

`entered_ports_are_known` says when no read goes without an answer, in runs in which no port loses
its record or its proxy socket while it is still needed (`Keeps`); `inv_step_iff` shows that any
other step leaves a port or a datagram behind. The packet thread makes its entries in one step and
hands the datagram to the redirection in another.
-/

namespace CutieProxy

open IntermediateBuffer SocksLocalRouter Transition

/-- A redirected datagram: the port of the server it goes to and the local port it comes from, in
host order. -/
structure Datagram where
  serverPort : UInt16
  localPort : UInt16
  deriving DecidableEq

/-- The router, the packet its callback is in the middle of with the port of its proxy, the proxy
sockets of the servers by server and local port, and the redirected datagrams not read yet. -/
@[ext]
structure UdpPath where
  router : SocksLocalRouter := {}
  flight : Option (UInt16 × IntermediateBuffer) := none
  proxySockets : Table Datagram UdpProxySocket := .empty
  waiting : List Datagram := []

namespace UdpPath

/-! ## Steps -/

/-- What happens on the UDP path. -/
inductive Event where
  /-- The callback enters the source port of a datagram of a matched process. -/
  | record (o : Observation) (packet : IntermediateBuffer)
  /-- The callback hands the datagram to the redirection. -/
  | redirect (now : TimePoint)
  /-- The callback handles any other packet. -/
  | packet (o : Observation) (packet : IntermediateBuffer)
  /-- A server reads a datagram; if it has no proxy socket for it, it associates or fails to. -/
  | read (u : Upstream) (address : IpAddressV4) (now : TimePoint) (d : Datagram) (associated : Bool)
  /-- A datagram is lost. -/
  | lose (d : Datagram)
  /-- The proxy socket of a server for a local port receives from the upstream proxy. -/
  | receive (now : TimePoint) (d : Datagram)
  /-- The proxy socket of a server for a local port fails. -/
  | closeClient (d : Datagram)
  /-- A pass of `clear_thread` of a server. -/
  | clear (serverPort : UInt16) (now : TimePoint)
  /-- A clean-up pass of the UDP redirection. -/
  | cleanup (now : TimePoint)
  /-- Proxies and filters are added, or proxies stopped. -/
  | configure (proxyServers : List (Option UInt16 × Option UInt16))
      (proxyToFilters : List (Nat × List FilterInterface))

/-- After the source port of a datagram is entered. -/
def recorded (o : Observation) (port : UInt16) (packet : IntermediateBuffer) (s : UdpPath) :
    UdpPath :=
  { s with
    router := (s.router.lookUpUdp o packet).recordEndpoint o.now packet
    flight := some (port, packet) }

/-- After the redirection has had the datagram. -/
def redirected (api : CNdisApi) (now : TimePoint) (port : UInt16) (packet : IntermediateBuffer)
    (s : UdpPath) : UdpPath :=
  let (action, _, router) := s.router.udpClientToServer api now port packet
  { s with
    router := router
    flight := none
    waiting :=
      if action == .revert then s.waiting ++ [⟨port, ntohs packet.thSport⟩] else s.waiting }

/-- After a server reads a datagram: `connect_to_remote_host`, and the time of its proxy socket. -/
def readDatagram (u : Upstream) (address : IpAddressV4) (now : TimePoint) (d : Datagram)
    (associated : Bool) (s : UdpPath) : UdpPath :=
  match s.proxySockets.find d with
  | some socket =>
    { s with
      waiting := s.waiting.erase d
      proxySockets := s.proxySockets.insert d { socket with timestamp := now } }
  | none =>
    let (remote, router) := s.router.queryRemotePeerUdp u address d.localPort
    { s with
      router := router
      waiting := s.waiting.erase d
      proxySockets :=
        if remote.2.2.isSome && associated then s.proxySockets.insert d { timestamp := now }
        else s.proxySockets }

/-- The proxy sockets after a pass of `clear_thread`. -/
def cleared (serverPort : UInt16) (now : TimePoint) (sockets : Table Datagram UdpProxySocket) :
    Table Datagram UdpProxySocket :=
  sockets.sweep fun d socket => d.serverPort == serverPort && socket.isReadyForRemoval now

/-- The steps of the packet thread, the servers, their proxy sockets and the clean-up threads. -/
inductive Step (api : CNdisApi) : UdpPath → Event → UdpPath → Prop
  | record {s : UdpPath} {o : Observation} {packet : IntermediateBuffer} {port : UInt16}
      (hflight : s.flight = none) (hip : packet.IsIpv4 ipprotoUdp)
      (hmulti : packet.isMulticast = false) (hport : s.router.udpPortFor o packet = some port) :
      Step api s (.record o packet) (s.recorded o port packet)
  | redirect {s : UdpPath} {now : TimePoint} {packet : IntermediateBuffer} {port : UInt16}
      (hflight : s.flight = some (port, packet)) :
      Step api s (.redirect now) (s.redirected api now port packet)
  | packet {s : UdpPath} {o : Observation} {packet : IntermediateBuffer} (hflight : s.flight = none)
      (hother : ¬ (packet.IsIpv4 ipprotoUdp ∧ packet.isMulticast = false ∧
        (s.router.udpPortFor o packet).isSome = true)) :
      Step api s (.packet o packet) { s with router := (s.router.callback api o packet).2.2 }
  | read {s : UdpPath} {u : Upstream} {address : IpAddressV4} {now : TimePoint} {d : Datagram}
      {associated : Bool} (hwaiting : d ∈ s.waiting) :
      Step api s (.read u address now d associated) (s.readDatagram u address now d associated)
  | lose {s : UdpPath} {d : Datagram} :
      Step api s (.lose d) { s with waiting := s.waiting.erase d }
  | receive {s : UdpPath} {now : TimePoint} {d : Datagram} {socket : UdpProxySocket}
      (hsocket : s.proxySockets.find d = some socket) :
      Step api s (.receive now d)
        { s with proxySockets := s.proxySockets.insert d { socket with timestamp := now } }
  | closeClient {s : UdpPath} {d : Datagram} {socket : UdpProxySocket}
      (hsocket : s.proxySockets.find d = some socket) :
      Step api s (.closeClient d)
        { s with proxySockets := s.proxySockets.insert d { socket with readyForRemoval := true } }
  | clear {s : UdpPath} {serverPort : UInt16} {now : TimePoint} :
      Step api s (.clear serverPort now)
        { s with proxySockets := cleared serverPort now s.proxySockets }
  | cleanup {s : UdpPath} {now : TimePoint} :
      Step api s (.cleanup now) { s with router := s.router.after api (.cleanupUdp now) }
  | configure {s : UdpPath} {proxyServers : List (Option UInt16 × Option UInt16)}
      {proxyToFilters : List (Nat × List FilterInterface)} :
      Step api s (.configure proxyServers proxyToFilters)
        { s with router := s.router.after api (.configure proxyServers proxyToFilters) }

/-- The runs from the construction of the router on. -/
def system (api : CNdisApi) : System UdpPath Event where
  init s := s = {}
  step := Step api

variable {api : CNdisApi} {s t : UdpPath} {o : Observation} {packet : IntermediateBuffer}
  {port p : UInt16} {now : TimePoint} {u : Upstream} {address : IpAddressV4} {d : Datagram}
  {associated : Bool} {e : Event}

/-- The two steps of a datagram of a matched process are what the callback does to the router. -/
theorem redirected_recorded (hip : packet.IsIpv4 ipprotoUdp) (hmulti : packet.isMulticast = false)
    (hport : s.router.udpPortFor o packet = some port) :
    ((s.recorded o port packet).redirected api o.now port packet).router =
      (s.router.callback api o packet).2.2 := by
  rw [callback_udp_matched hip hmulti hport]
  rfl

/-! ## What the tables hold for a port -/

/-- The local port is in `endpoints_`. -/
def Entered (p : UInt16) (s : UdpPath) : Prop :=
  (s.router.udpRedirect.endpoints.find (htons p)).isSome = true

/-- The local port is in `udp_mapper_`. -/
def Recorded (p : UInt16) (s : UdpPath) : Prop := (s.router.udpMapper.find p).isSome = true

/-- The server of the datagram has a proxy socket for its local port. -/
def HasSocket (d : Datagram) (s : UdpPath) : Prop := (s.proxySockets.find d).isSome = true

instance : Decidable (s.Entered p) := inferInstanceAs (Decidable (_ = _))

instance : Decidable (s.Recorded p) := inferInstanceAs (Decidable (_ = _))

instance : Decidable (s.HasSocket d) := inferInstanceAs (Decidable (_ = _))

/-- A datagram that waits will find a proxy socket or a record. -/
def Answered (s : UdpPath) : Prop :=
  ∀ d ∈ s.waiting, s.Recorded d.localPort ∨ s.HasSocket d

/-- Every port that is entered is recorded or has a proxy socket. -/
def Known (s : UdpPath) : Prop :=
  ∀ p, s.Entered p → s.Recorded p ∨ ∃ serverPort, s.HasSocket ⟨serverPort, p⟩

/-- No datagram that waits and no port that is entered is left behind. -/
structure Inv (s : UdpPath) : Prop where
  answered : s.Answered
  known : s.Known

theorem Inv.init : Inv {} where
  answered d hd := nomatch hd
  known p hp := by simp [Entered] at hp

/-- The invariant after a step that enters no port, keeps every record and every proxy socket, and
leaves no new datagram waiting. -/
theorem Inv.mono (h : s.Inv) (hwaiting : ∀ d ∈ t.waiting, d ∈ s.waiting)
    (hentered : ∀ p, t.Entered p → s.Entered p) (hrecorded : ∀ p, s.Recorded p → t.Recorded p)
    (hsocket : ∀ d, s.HasSocket d → t.HasSocket d) : t.Inv where
  answered d hd := (h.answered d (hwaiting d hd)).imp (hrecorded _) (hsocket d)
  known p hp := (h.known p (hentered p hp)).imp (hrecorded p)
    fun ⟨serverPort, hfound⟩ => ⟨serverPort, hsocket _ hfound⟩

/-! ## What each step does to the tables -/

/-- Entering a source port leaves no port and no datagram behind. -/
theorem Inv.recorded (h : s.Inv) (hip : packet.IsIpv4 ipprotoUdp) :
    (s.recorded o port packet).Inv := by
  cases hfind : s.router.udpRedirect.endpoints.find packet.thSport with
  | some timestamp =>
    have hsame : (s.recorded o port packet).router = s.router.lookUpUdp o packet :=
      recordEndpoint_known (s := s.router.lookUpUdp o packet) hfind
    refine h.mono (fun _ hd => hd) (fun p hp => ?_) (fun p hp => ?_) fun _ hd => hd
    · rw [Entered, hsame] at hp
      exact hp
    · rw [Recorded, hsame]
      exact hp
  | none =>
    have hnew : (s.router.lookUpUdp o packet).recordEndpoint o.now packet = _ :=
      recordEndpoint_new hip hfind
    have hmapper : (s.recorded o port packet).router.udpMapper =
        s.router.udpMapper.insert (ntohs packet.thSport) () := congrArg udpMapper hnew
    have hendpoints : (s.recorded o port packet).router.udpRedirect.endpoints =
        s.router.udpRedirect.endpoints.insert packet.thSport o.now :=
      congrArg (fun r => r.udpRedirect.endpoints) hnew
    have hrecorded : ∀ p, s.Recorded p → (s.recorded o port packet).Recorded p := by
      intro p hp
      rw [Recorded, hmapper]
      exact Table.isSome_find_insert hp
    refine ⟨fun d hd => (h.answered d hd).imp (hrecorded _) id, fun p hp => ?_⟩
    by_cases hport : htons p = packet.thSport
    · left
      rw [Recorded, hmapper, ← hport, ntohs_htons, Table.find_insert_self]
      rfl
    · rw [Entered, hendpoints, Table.find_insert_of_ne hport] at hp
      exact (h.known p hp).imp (hrecorded p) id

variable (api s now port packet) in
/-- What the redirection does to a datagram of a client: it leaves it alone, or makes it wait at the
server and refreshes the entry of its port. -/
theorem redirected_cases :
    s.redirected api now port packet = { s with flight := none } ∨
    (packet.IsIpv4 ipprotoUdp ∧ packet.isFragmented = false ∧
      s.Entered (ntohs packet.thSport)) := by
  rcases Socks5UdpLocalRedirect.processClientToServerPacket_cases api now packet (htons port)
    s.router.udpRedirect with hsame | ⟨hip, hfrag, timestamp, hfind⟩
  · left
    rw [redirected, udpClientToServer_eq hsame]
    rfl
  · right
    refine ⟨hip, hfrag, ?_⟩
    rw [Entered, htons_ntohs, hfind]
    rfl

variable (api now port) in
/-- A datagram that waits at the server after the redirection. -/
theorem redirected_waiting (hip : packet.IsIpv4 ipprotoUdp) (hfrag : packet.isFragmented = false)
    (hentered : s.Entered (ntohs packet.thSport)) :
    (s.redirected api now port packet).waiting =
        s.waiting ++ [⟨port, ntohs packet.thSport⟩] ∧
      (∀ p, (s.redirected api now port packet).Entered p ↔ s.Entered p) := by
  rw [Entered, htons_ntohs] at hentered
  obtain ⟨timestamp, hfind⟩ := Option.isSome_iff_exists.mp hentered
  have hsent : s.router.udpClientToServer api now port packet = _ :=
    udpClientToServer_eq
      (Socks5UdpLocalRedirect.processClientToServerPacket_known hip hfrag hfind)
  rw [redirected, hsent]
  refine ⟨rfl, fun p => ?_⟩
  show ((s.router.udpRedirect.endpoints.insert packet.thSport now).find (htons p)).isSome = true ↔ _
  rw [Table.isSome_find_insert_held hfind]
  rfl

variable (api) in
/-- Any other packet enters no port and changes no record. -/
theorem callback_udpTables {r : SocksLocalRouter}
    (hother : ¬ (packet.IsIpv4 ipprotoUdp ∧ packet.isMulticast = false ∧
      (r.udpPortFor o packet).isSome = true)) :
    (r.callback api o packet).2.2.udpMapper = r.udpMapper ∧
      ∀ x, ((r.callback api o packet).2.2.udpRedirect.endpoints.find x).isSome =
        (r.udpRedirect.endpoints.find x).isSome := by
  refine callback_cases (motive := fun result => result.2.2.udpMapper = r.udpMapper ∧
    ∀ x, (result.2.2.udpRedirect.endpoints.find x).isSome =
      (r.udpRedirect.endpoints.find x).isSome) ?_ ?_ ⟨rfl, fun _ => rfl⟩ ?_ ?_ ⟨rfl, fun _ => rfl⟩
    ⟨rfl, fun _ => rfl⟩
  · intro port hip hport
    refine ⟨recordSyn_udpMapper, fun x => ?_⟩
    show ((((r.lookUpTcp o packet).recordSyn packet).udpRedirect.endpoints).find x).isSome = _
    rw [recordSyn_udpRedirect]
    rfl
  · intro hip hport hproxy
    exact ⟨rfl, fun _ => rfl⟩
  · intro port hip hmulti hport
    exact absurd ⟨hip, hmulti, by rw [hport]; rfl⟩ hother
  · intro hip hport
    refine ⟨rfl, fun x => ?_⟩
    show ((Socks5UdpLocalRedirect.processServerToClientPacket api o.now packet
      r.udpRedirect).2.2.endpoints.find x).isSome = _
    rcases Socks5UdpLocalRedirect.processServerToClientPacket_cases api o.now packet
      r.udpRedirect with hsame | ⟨timestamp, hfind, hknown⟩
    · rw [hsame]
    · rw [hknown]
      exact Table.isSome_find_insert_held hfind

/-- A datagram of a port its server has a proxy socket for. -/
theorem readDatagram_eq_of_hasSocket {socket : UdpProxySocket}
    (h : s.proxySockets.find d = some socket) :
    s.readDatagram u address now d associated =
      { s with
        waiting := s.waiting.erase d
        proxySockets := s.proxySockets.insert d { socket with timestamp := now } } := by
  rw [readDatagram, h]

/-- The first datagram of a recorded port: the record is consumed. -/
theorem readDatagram_eq_of_recorded (h : s.proxySockets.find d = none)
    (hrecorded : s.Recorded d.localPort) :
    s.readDatagram u address now d associated =
      { s with
        router := { s.router with udpMapper := s.router.udpMapper.erase d.localPort }
        waiting := s.waiting.erase d
        proxySockets :=
          if associated then s.proxySockets.insert d { timestamp := now } else s.proxySockets } := by
  rw [readDatagram, h]
  simp only [queryRemotePeerUdp_known hrecorded, Option.isSome_some, Bool.true_and]

/-- It gets a proxy socket when its association succeeds. -/
theorem hasSocket_readDatagram {d' : Datagram} (h : s.proxySockets.find d = none)
    (hrecorded : s.Recorded d.localPort) :
    (s.readDatagram u address now d associated).HasSocket d' ↔
      s.HasSocket d' ∨ (associated = true ∧ d' = d) := by
  rw [readDatagram_eq_of_recorded h hrecorded]
  cases associated with
  | false => simp [HasSocket]
  | true =>
    by_cases hd : d' = d
    · simp [HasSocket, hd]
    · simp [HasSocket, hd]

/-- Its port is recorded no longer. -/
theorem recorded_readDatagram (h : s.proxySockets.find d = none)
    (hrecorded : s.Recorded d.localPort) :
    (s.readDatagram u address now d associated).Recorded p ↔ p ≠ d.localPort ∧ s.Recorded p := by
  rw [readDatagram_eq_of_recorded h hrecorded]
  by_cases hp : p = d.localPort
  · simp [Recorded, hp]
  · simp [Recorded, hp]

section Clear

variable {serverPort : UInt16} {socket : UdpProxySocket}

/-- A pass of `clear_thread` makes no proxy socket. -/
theorem hasSocket_of_cleared
    (h : HasSocket d { s with proxySockets := cleared serverPort now s.proxySockets }) :
    s.HasSocket d := by
  obtain ⟨socket, hfind⟩ := Option.isSome_iff_exists.mp h
  rw [HasSocket, (Table.find_sweep.mp hfind).1]
  rfl

/-- It removes the ones of its server that are ready for removal. -/
theorem not_hasSocket_cleared (hfind : s.proxySockets.find d = some socket)
    (hready : socket.isReadyForRemoval now = true) :
    ¬ HasSocket d { s with proxySockets := cleared d.serverPort now s.proxySockets } := by
  intro h
  obtain ⟨socket', hkept⟩ := Option.isSome_iff_exists.mp h
  obtain ⟨hfind', hold⟩ := Table.find_sweep.mp hkept
  obtain rfl : socket = socket' := Option.some.inj (hfind.symm.trans hfind')
  simp [hready] at hold

variable (serverPort now) in
/-- It keeps all the others. -/
theorem cleared_or_removed (h : s.HasSocket d) :
    HasSocket d { s with proxySockets := cleared serverPort now s.proxySockets } ∨
      (d.serverPort = serverPort ∧ ∃ socket, s.proxySockets.find d = some socket ∧
        socket.isReadyForRemoval now = true) := by
  obtain ⟨socket, hfind⟩ := Option.isSome_iff_exists.mp h
  by_cases hgone : d.serverPort = serverPort ∧ socket.isReadyForRemoval now = true
  · exact .inr ⟨hgone.1, socket, hfind, hgone.2⟩
  · refine .inl (Option.isSome_iff_exists.mpr ⟨socket, Table.find_sweep.mpr ⟨hfind, ?_⟩⟩)
    simpa using hgone

end Clear

/-! ## Runs in which no port is left behind -/

/-- The step leaves no port and no datagram behind: a datagram goes to the server that has the proxy
socket of its port, if one has it; a port whose record is consumed keeps a proxy socket for as long
as it is entered or a datagram of it waits; and so does a port whose proxy socket is removed. -/
def Keeps (s : UdpPath) : Event → Prop
  | .redirect _ =>
    ∀ port packet, s.flight = some (port, packet) → packet.IsIpv4 ipprotoUdp →
      packet.isFragmented = false → s.Entered (ntohs packet.thSport) →
      (∃ serverPort, s.HasSocket ⟨serverPort, ntohs packet.thSport⟩) →
      s.Recorded (ntohs packet.thSport) ∨ s.HasSocket ⟨port, ntohs packet.thSport⟩
  | .read _ _ _ d associated =>
    s.HasSocket d ∨
      (∀ d' ∈ s.waiting.erase d, d'.localPort = d.localPort →
        s.HasSocket d' ∨ (associated = true ∧ d' = d)) ∧
      (s.Entered d.localPort →
        associated = true ∨ ∃ serverPort, s.HasSocket ⟨serverPort, d.localPort⟩)
  | .clear serverPort now =>
    ∀ p socket, s.proxySockets.find ⟨serverPort, p⟩ = some socket →
      socket.isReadyForRemoval now = true → s.Recorded p ∨
        (⟨serverPort, p⟩ ∉ s.waiting ∧
          (s.Entered p → ∃ other, other ≠ serverPort ∧ s.HasSocket ⟨other, p⟩))
  | _ => True

theorem inv_redirected_iff (h : s.Inv) (hflight : s.flight = some (port, packet)) :
    (s.redirected api now port packet).Inv ↔ s.Keeps (.redirect now) := by
  constructor
  · intro hafter port' packet' hflight' hip hfrag hentered _
    obtain ⟨rfl, rfl⟩ : port = port' ∧ packet = packet' := by
      rw [hflight] at hflight'
      exact Prod.mk.inj (Option.some.inj hflight')
    obtain ⟨hwaiting, -⟩ := redirected_waiting api port now hip hfrag hentered
    refine hafter.answered ⟨port, ntohs packet.thSport⟩ ?_
    rw [hwaiting]
    exact List.mem_append_right _ (List.mem_singleton_self _)
  · intro hkeeps
    rcases redirected_cases api s packet port now with hsame | ⟨hip, hfrag, hentered⟩
    · rw [hsame]
      exact h.mono (fun _ hd => hd) (fun _ hp => hp) (fun _ hp => hp) fun _ hd => hd
    · obtain ⟨hwaiting, hsame⟩ := redirected_waiting api port now hip hfrag hentered
      refine ⟨fun d hd => ?_, fun p hp => h.known p ((hsame p).mp hp)⟩
      rw [hwaiting] at hd
      rcases List.mem_append.mp hd with hold | hnew
      · exact h.answered d hold
      · rw [List.mem_singleton.mp hnew]
        rcases h.known _ hentered with hrecorded | hsocket
        · exact .inl hrecorded
        · exact hkeeps port packet hflight hip hfrag hentered hsocket

/-- A server that reads the first datagram of a recorded port leaves no port and no datagram behind
when every port and datagram that needs a proxy socket has one. -/
theorem inv_firstRead_iff (h : s.Inv) (hfind : s.proxySockets.find d = none)
    (hrecorded : s.Recorded d.localPort) :
    (s.readDatagram u address now d associated).Inv ↔
      (∀ d' ∈ s.waiting.erase d, d'.localPort = d.localPort →
        s.HasSocket d' ∨ (associated = true ∧ d' = d)) ∧
      (s.Entered d.localPort →
        associated = true ∨ ∃ serverPort, s.HasSocket ⟨serverPort, d.localPort⟩) := by
  have hsocket : ∀ d', (s.readDatagram u address now d associated).HasSocket d' ↔ _ := fun _ =>
    hasSocket_readDatagram hfind hrecorded
  have hrecord : ∀ p, (s.readDatagram u address now d associated).Recorded p ↔ _ := fun _ =>
    recorded_readDatagram hfind hrecorded
  have hlost : ¬ (s.readDatagram u address now d associated).Recorded d.localPort := fun hlost =>
    ((hrecord _).mp hlost).1 rfl
  obtain ⟨hwaiting, hentered⟩ : (s.readDatagram u address now d associated).waiting =
      s.waiting.erase d ∧ ∀ p, (s.readDatagram u address now d associated).Entered p ↔
        s.Entered p := by
    rw [readDatagram_eq_of_recorded hfind hrecorded]
    exact ⟨rfl, fun _ => Iff.rfl⟩
  constructor
  · intro hafter
    refine ⟨fun d' hd' hport => ?_, fun hp => ?_⟩
    · have hanswered := hafter.answered d' (by rw [hwaiting]; exact hd')
      rw [hport] at hanswered
      exact (hsocket d').mp (hanswered.resolve_left hlost)
    · obtain ⟨serverPort, hfound⟩ :=
        (hafter.known d.localPort ((hentered _).mpr hp)).resolve_left hlost
      rcases (hsocket _).mp hfound with hold | hnew
      · exact .inr ⟨serverPort, hold⟩
      · exact .inl hnew.1
  · rintro ⟨hothers, hport⟩
    refine ⟨fun d' hd' => ?_, fun p hp => ?_⟩
    · rw [hwaiting] at hd'
      by_cases hsame : d'.localPort = d.localPort
      · exact .inr ((hsocket d').mpr (hothers d' hd' hsame))
      · rcases h.answered d' (List.mem_of_mem_erase hd') with hrec | hold
        · exact .inl ((hrecord _).mpr ⟨hsame, hrec⟩)
        · exact .inr ((hsocket d').mpr (.inl hold))
    · by_cases hsame : p = d.localPort
      · subst hsame
        rcases hport ((hentered _).mp hp) with hassociated | ⟨serverPort, hold⟩
        · exact .inr ⟨d.serverPort, (hsocket d).mpr (.inr ⟨hassociated, rfl⟩)⟩
        · exact .inr ⟨serverPort, (hsocket _).mpr (.inl hold)⟩
      · rcases h.known p ((hentered p).mp hp) with hrec | ⟨serverPort, hold⟩
        · exact .inl ((hrecord p).mpr ⟨hsame, hrec⟩)
        · exact .inr ⟨serverPort, (hsocket _).mpr (.inl hold)⟩

theorem inv_read_iff (h : s.Inv) (hwaiting : d ∈ s.waiting) :
    (s.readDatagram u address now d associated).Inv ↔
      s.Keeps (.read u address now d associated) := by
  cases hfind : s.proxySockets.find d with
  | some socket =>
    have hsocket : s.HasSocket d := by
      rw [HasSocket, hfind]
      rfl
    rw [readDatagram_eq_of_hasSocket hfind]
    refine iff_of_true ?_ (.inl hsocket)
    exact h.mono (fun _ hd => List.mem_of_mem_erase hd) (fun _ hp => hp) (fun _ hp => hp)
      fun _ hd => Table.isSome_find_insert hd
  | none =>
    have hno : ¬ s.HasSocket d := by simp [HasSocket, hfind]
    have hrecorded := (h.answered d hwaiting).resolve_right hno
    exact (inv_firstRead_iff h hfind hrecorded).trans (or_iff_right hno).symm

theorem inv_cleared_iff {serverPort : UInt16} (h : s.Inv) :
    Inv { s with proxySockets := cleared serverPort now s.proxySockets } ↔
      s.Keeps (.clear serverPort now) := by
  constructor
  · intro hafter p socket hfind hready
    have hgone := not_hasSocket_cleared (d := ⟨serverPort, p⟩) hfind hready
    by_cases hp : s.Recorded p
    · exact .inl hp
    · refine .inr ⟨fun hd => ?_, fun he => ?_⟩
      · rcases hafter.answered _ hd with hrec | hsock
        · exact hp hrec
        · exact hgone hsock
      · rcases hafter.known p he with hrec | ⟨other, hother⟩
        · exact absurd hrec hp
        · have hne : other ≠ serverPort := by
            rintro rfl
            exact hgone hother
          exact ⟨other, hne, hasSocket_of_cleared hother⟩
  · intro hkeeps
    refine ⟨fun d hd => ?_, fun p hp => ?_⟩
    · rcases h.answered d hd with hrec | hsock
      · exact .inl hrec
      · rcases cleared_or_removed now serverPort hsock with hkept | ⟨rfl, socket, hfind, hready⟩
        · exact .inr hkept
        · rcases hkeeps d.localPort socket hfind hready with hrec | ⟨hnot, -⟩
          · exact .inl hrec
          · exact absurd hd hnot
    · rcases h.known p hp with hrec | ⟨server, hsock⟩
      · exact .inl hrec
      · rcases cleared_or_removed now serverPort hsock with hkept | ⟨rfl, socket, hfind, hready⟩
        · exact .inr ⟨server, hkept⟩
        · rcases hkeeps p socket hfind hready with hrec | ⟨-, hother⟩
          · exact .inl hrec
          · obtain ⟨other, hne, hsock⟩ := hother hp
            rcases cleared_or_removed now server hsock with hkept | ⟨heq, -⟩
            · exact .inr ⟨other, hkept⟩
            · exact absurd heq hne

/-- A step leaves no port and no datagram behind exactly when it meets the condition. -/
theorem inv_step_iff (h : s.Inv) (hstep : Step api s e t) : t.Inv ↔ s.Keeps e := by
  cases hstep with
  | record hflight hip hmulti hport => exact iff_of_true (h.recorded hip) trivial
  | redirect hflight => exact inv_redirected_iff h hflight
  | packet hflight hother =>
    obtain ⟨hmapper, hendpoints⟩ := callback_udpTables api hother
    refine iff_of_true (h.mono (fun _ hd => hd) (fun p hp => ?_) (fun p hp => ?_) fun _ hd => hd)
      trivial
    · rwa [Entered, hendpoints] at hp
    · rwa [Recorded, hmapper]
  | read hwaiting => exact inv_read_iff h hwaiting
  | lose =>
    exact iff_of_true (h.mono (fun _ hd => List.mem_of_mem_erase hd) (fun _ hp => hp)
      (fun _ hp => hp) fun _ hd => hd) trivial
  | receive hsocket =>
    exact iff_of_true (h.mono (fun _ hd => hd) (fun _ hp => hp) (fun _ hp => hp)
      fun _ hd => Table.isSome_find_insert hd) trivial
  | closeClient hsocket =>
    exact iff_of_true (h.mono (fun _ hd => hd) (fun _ hp => hp) (fun _ hp => hp)
      fun _ hd => Table.isSome_find_insert hd) trivial
  | clear => exact inv_cleared_iff h
  | cleanup =>
    refine iff_of_true (h.mono (fun _ hd => hd) (fun p hp => ?_) (fun _ hp => hp) fun _ hd => hd)
      trivial
    obtain ⟨timestamp, hfind⟩ := Option.isSome_iff_exists.mp hp
    rw [Entered, (Table.find_sweep.mp hfind).1]
    rfl
  | configure =>
    exact iff_of_true (h.mono (fun _ hd => hd) (fun _ hp => hp) (fun _ hp => hp) fun _ hd => hd)
      trivial

/-- In every run in which no port is left behind: a server that reads a datagram of a port it has no
proxy socket for is given the upstream proxy, and every port that is entered is recorded or has a
proxy socket. -/
theorem entered_ports_are_known (h : ((system api).restrict Keeps).Reachable s) :
    (∀ d ∈ s.waiting, s.proxySockets.find d = none → ∀ u address,
      (s.router.queryRemotePeerUdp u address d.localPort).1 =
        (u.endpoint.ip, u.endpoint.port, some (u.negotiateContext default 0))) ∧ s.Known := by
  have hinv : s.Inv := by
    refine h.restrict_invariant (I := Inv) ?_ ?_
    · rintro s rfl
      exact Inv.init
    · intro s e t hs hkeeps hstep
      exact (inv_step_iff hs hstep).mpr hkeeps
  refine ⟨fun d hd hnone u address => ?_, hinv.known⟩
  have hno : ¬ s.HasSocket d := by simp [HasSocket, hnone]
  rw [queryRemotePeerUdp_known ((hinv.answered d hd).resolve_right hno)]

/-! ## A run -/

namespace IdleRun

open ReplyRun

/-- Before the application's datagram. -/
def configuredPath : UdpPath := { router := configured onlyApplication }

/-- The application's datagram, as it waits at the server. -/
def waitingDatagram : Datagram := ⟨1081, 5000⟩

/-- After the application's datagram is redirected. -/
def afterRedirect : UdpPath := { router := afterDatagram, waiting := [waitingDatagram] }

/-- The upstream proxy. -/
def upstream : Upstream := ⟨⟨⟨10, 0, 0, 9⟩, 1080, none⟩, none⟩

/-- After the server has read the datagram and made a proxy socket. -/
def afterRead : UdpPath :=
  { router := { afterDatagram with udpMapper := afterDatagram.udpMapper.erase 5000 }
    proxySockets := Table.empty.insert waitingDatagram { timestamp := 0 } }

/-- After a pass of `clear_thread` six minutes later. -/
def afterClear : UdpPath :=
  { afterRead with proxySockets := cleared 1081 (minutes 6) afterRead.proxySockets }

/-- After the application's next datagram. -/
def afterNext : UdpPath :=
  (afterClear.recorded observation 1081 datagram).redirected .plain (minutes 6) 1081 datagram

theorem afterRedirect_eq :
    (configuredPath.recorded observation 1081 datagram).redirected .plain 0 1081 datagram =
      afterRedirect := by
  have hrouter : ((configuredPath.recorded observation 1081 datagram).redirected .plain
      observation.now 1081 datagram).router = afterDatagram := by
    rw [redirected_recorded (by decide) (by decide) (by decide)]
    exact congrArg (fun result => result.2.2) callback_application_datagram
  have hentered : (configuredPath.recorded observation 1081 datagram).Entered
      (ntohs datagram.thSport) := by
    rw [Entered, htons_ntohs, recorded,
      recordEndpoint_new (s := configuredPath.router.lookUpUdp _ _) (by decide) rfl,
      Table.find_insert_self]
    rfl
  obtain ⟨hwaiting, -⟩ := redirected_waiting .plain 1081 observation.now
    (by decide : datagram.IsIpv4 ipprotoUdp) (by decide) hentered
  exact UdpPath.ext hrouter rfl rfl hwaiting

theorem afterRedirect_reachable : ((system .plain).restrict Keeps).Reachable afterRedirect := by
  have hconfigured : ((system .plain).restrict Keeps).Reachable configuredPath :=
    (System.Reachable.init rfl).restrict_snoc (M := system .plain) (Step.configure (s := {})) trivial
  have hport : configuredPath.router.udpPortFor observation datagram = some 1081 := by decide
  have hrecord := hconfigured.restrict_snoc (M := system .plain)
    (Step.record rfl (by decide) (by decide) hport) trivial
  rw [← afterRedirect_eq]
  have hstep : Step .plain (configuredPath.recorded observation 1081 datagram) (.redirect 0)
      ((configuredPath.recorded observation 1081 datagram).redirected .plain 0 1081 datagram) :=
    Step.redirect rfl
  refine hrecord.restrict_snoc (M := system .plain) hstep ?_
  rintro port packet hflight - - - -
  cases hflight
  left
  rw [Recorded, recorded, recordEndpoint_new (s := configuredPath.router.lookUpUdp _ _) (by decide)
    rfl, Table.find_insert_self]
  rfl

/-- The port of the application stays entered, without a record and without a proxy socket. -/
theorem afterClear_reachable : (system .plain).Reachable afterClear := by
  have hread : (system .plain).Reachable afterRead := by
    have hstep : Step .plain afterRedirect (.read upstream ⟨10, 0, 0, 2⟩ 0 waitingDatagram true) _ :=
      Step.read (List.mem_singleton_self waitingDatagram)
    rw [readDatagram_eq_of_recorded rfl (by decide)] at hstep
    exact afterRedirect_reachable.of_restrict.snoc hstep
  exact hread.snoc (M := system .plain) Step.clear

/-- The port of the application is still entered, so it is not recorded again. -/
theorem recordEndpoint_afterClear :
    (afterClear.router.lookUpUdp observation datagram).recordEndpoint observation.now datagram =
      afterClear.router := by
  have hknown : (afterClear.router.lookUpUdp observation datagram).udpRedirect.endpoints.find
      datagram.thSport = some 0 := by decide
  have howner : afterClear.router.processLookup.ownerOfUdp observation.udpTable
      (udpEndpoint datagram) = (application, _) := ProcessLookup.ownerOfUdp_known (by decide)
  rw [recordEndpoint_known hknown, lookUpUdp, howner]

theorem afterNext_reachable : (system .plain).Reachable afterNext := by
  have hport : afterClear.router.udpPortFor observation datagram = some 1081 := by decide
  have hrecord := afterClear_reachable.snoc (M := system .plain)
    (Step.record rfl (by decide) (by decide) hport)
  exact hrecord.snoc (M := system .plain) (Step.redirect rfl)

theorem afterNext_waiting : waitingDatagram ∈ afterNext.waiting := by
  have hentered : (afterClear.recorded observation 1081 datagram).Entered
      (ntohs datagram.thSport) := by
    rw [Entered, htons_ntohs, recorded, recordEndpoint_afterClear]
    decide
  obtain ⟨hwaiting, -⟩ := redirected_waiting .plain 1081 (minutes 6)
    (by decide : datagram.IsIpv4 ipprotoUdp) (by decide) hentered
  rw [afterNext, hwaiting]
  exact List.mem_append_right _ (List.mem_singleton_self _)

theorem afterNext_unrecorded : afterNext.router.udpMapper.find 5000 = none := by
  show (afterClear.recorded observation 1081 datagram).router.udpMapper.find 5000 = none
  rw [recorded, recordEndpoint_afterClear]
  exact Table.find_erase_self

end IdleRun

open IdleRun in
theorem entered_ports_are_known_application :
    (afterRedirect.router.queryRemotePeerUdp upstream ⟨10, 0, 0, 2⟩ 5000).1 =
        (⟨10, 0, 0, 9⟩, 1080, some ⟨⟨0, 0, 0, 0⟩, 0, none, none⟩) ∧ afterRedirect.Known :=
  have hknown := entered_ports_are_known afterRedirect_reachable
  ⟨hknown.1 waitingDatagram (List.mem_singleton_self _) rfl upstream _, hknown.2⟩

open IdleRun in
/-- The proxy socket of the application's port is removed after six idle minutes, while the port
stays entered for fifteen: its next datagram waits at a server that has no proxy socket for it, and
that is given no upstream proxy. -/
theorem idle_port_is_left_behind :
    (system .plain).Reachable afterClear ∧ ¬ afterClear.Known ∧
      (system .plain).Reachable afterNext ∧ waitingDatagram ∈ afterNext.waiting ∧
      afterNext.proxySockets.find waitingDatagram = none ∧
      (afterNext.router.queryRemotePeerUdp upstream ⟨10, 0, 0, 2⟩ waitingDatagram.localPort).1 =
        (default, 0, none) := by
  refine ⟨afterClear_reachable, fun hknown => ?_, afterNext_reachable, afterNext_waiting, rfl, ?_⟩
  · rcases hknown 5000 (by decide) with hrecorded | ⟨serverPort, hsocket⟩
    · exact absurd hrecorded (by decide)
    · obtain ⟨socket, hfind⟩ := Option.isSome_iff_exists.mp hsocket
      obtain ⟨hread, hkept⟩ := Table.find_sweep.mp hfind
      by_cases hserver : serverPort = 1081
      · subst hserver
        cases hread
        exact absurd hkept (by decide)
      · have hne : (⟨serverPort, 5000⟩ : Datagram) ≠ waitingDatagram := fun h =>
          hserver (congrArg Datagram.serverPort h)
        rw [afterRead, Table.find_insert_of_ne hne] at hread
        cases hread
  · exact congrArg Prod.fst (queryRemotePeerUdp_unknown afterNext_unrecorded)

end UdpPath

end CutieProxy
