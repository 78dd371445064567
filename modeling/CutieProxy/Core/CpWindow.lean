import CutieProxy.Core.Dialogs
import CutieProxy.Proxy.ProxyPorts
import CutieProxy.Proxy.ProxyRegistration

/-!
# The window

`CpWindow` keeps a list of proxies, and `start` creates a router and registers the proxies of the
list with it. The list can be edited while the router runs, which the router does not learn of:
`running_serves_rows` says that it serves the list as it was when `start` was clicked, one proxy for
every item that could be registered, with the item's filter, servers and credentials. Every item of
the list is valid and has one filter (`Inv`), so nothing is left out because of an error.

A dialog is modal, and an event of the window is one that was accepted.
-/

namespace CutieProxy

open Transition

/-! ## `Socksifier` -/

/-- What the system answers while a proxy is registered. -/
structure RegisterCalls where
  names : NameService
  add : AddCalls

/-- `Socksifier`: its router, and what the lambdas of the router's servers captured. -/
structure Socksifier where
  registration : ProxyRegistration := {}
  upstreams : List SocksLocalRouter.Upstream := []

namespace Socksifier

/-- `Socksifier::Socksifier`; `driver` tells whether the driver adds the filter for ICMP. -/
def make (driver : Bool) : Socksifier := { registration := .construct driver }

/-- `cred`. -/
def credPair (login password : List UInt8) : Option (List UInt8 × List UInt8) :=
  if login = [] then none else some (login, password)

/-- `Socksifier::addSocks5Proxy`. -/
def addSocks5Proxy (c : RegisterCalls) (endpoint : List UInt8) (protocols : SupportedProtocols)
    (start : Bool) (login password : List UInt8) (k : Socksifier) : Option Nat × Socksifier :=
  let (proxyId, registration) := k.registration.addSocks5Proxy c.names endpoint protocols
    (credPair login password) start c.add
  let captured := (c.names.parseEndpoint endpoint).map fun e => ⟨e, credPair login password⟩
  (proxyId, { registration, upstreams := k.upstreams ++ (proxyId.bind fun _ => captured).toList })

/-- `Socksifier::addFilterToProxy`. -/
def AddFilterToProxy (proxyId : Nat) (filter : FilterInterface) (k t : Socksifier) : Prop :=
  ∃ router,
    SocksLocalRouter.ProxyStep k.registration.router (.addFilterToProxy proxyId [filter]) router ∧
    t = { k with registration := { k.registration with router } }

end Socksifier

/-! ## `CpWindow` -/

/-- What the window runs on. -/
structure Desktop where
  qt : Qt
  re : RegexEngine
  tolower : UInt16 → UInt16
  regexMatch : List UInt16 → List UInt16 → Bool
  /-- `GetCurrentProcessId`. -/
  ownProcessId : UInt32

/-- `CpWindow`. -/
structure CpWindow where
  proxyList : List ProxyRow := []
  socksifier : Option Socksifier := none
  started : Bool := false

section
variable (desktop : Desktop)

/-- The filters of an item. -/
def ProxyRow.interfaces (row : ProxyRow) : List FilterInterface :=
  row.filters.map fun filter => filter.matchProcess desktop.tolower desktop.regexMatch

/-- The loop over the filters of an item. -/
inductive FiltersAdded (proxyId : Nat) : List FilterInterface → Socksifier → Socksifier → Prop
  | done (k : Socksifier) : FiltersAdded proxyId [] k k
  | next {filter : FilterInterface} {rest : List FilterInterface} {k k' t : Socksifier}
    (hfilter : k.AddFilterToProxy proxyId filter k') (hrest : FiltersAdded proxyId rest k' t) :
    FiltersAdded proxyId (filter :: rest) k t

/-- `proxyItem` is registered with the texts of the item. -/
def ProxyRow.addTo (c : RegisterCalls) (protocols : SupportedProtocols) (row : ProxyRow)
    (k : Socksifier) : Option Nat × Socksifier :=
  k.addSocks5Proxy c (toStdString row.item.endpoint) protocols true (toStdString row.item.username)
    (toStdString row.item.password)

/-- `CpWindow::processProxyItems`, from one item on. -/
inductive ProcessProxyItems : List (ProxyRow × RegisterCalls) → Socksifier → Socksifier → Prop
  | done (k : Socksifier) : ProcessProxyItems [] k k
  | skipped {row : ProxyRow} {c : RegisterCalls} {rest : List (ProxyRow × RegisterCalls)}
    {k t : Socksifier} (herror : row.item.error ≠ .none) (hrest : ProcessProxyItems rest k t) :
    ProcessProxyItems ((row, c) :: rest) k t
  | failed {row : ProxyRow} {c : RegisterCalls} {rest : List (ProxyRow × RegisterCalls)}
    {k k' t : Socksifier} {protocols : SupportedProtocols} (herror : row.item.error = .none)
    (hprotocols : row.item.protocols = some protocols) (hadd : row.addTo c protocols k = (none, k'))
    (hrest : ProcessProxyItems rest k' t) : ProcessProxyItems ((row, c) :: rest) k t
  | registered {row : ProxyRow} {c : RegisterCalls} {rest : List (ProxyRow × RegisterCalls)}
    {k k' k'' t : Socksifier} {protocols : SupportedProtocols} {proxyId : Nat}
    (herror : row.item.error = .none) (hprotocols : row.item.protocols = some protocols)
    (hadd : row.addTo c protocols k = (some proxyId, k'))
    (hfilters : FiltersAdded proxyId (row.interfaces desktop) k' k'')
    (hrest : ProcessProxyItems rest k'' t) : ProcessProxyItems ((row, c) :: rest) k t

namespace CpWindow

/-- What happens in the window. A row is the one that was clicked on; there may be none there. -/
inductive Event where
  /-- `addProxyButton`. -/
  | addProxy (inputs : List ProxyDialog.Input)
  /-- `startButton`; what the driver and the system answer. -/
  | start (driver : Bool) (calls : List RegisterCalls)
  /-- `stopButton`. -/
  | stop
  | editProxy (row : Nat) (inputs : List ProxyDialog.Input)
  | editFilters (row : Nat) (inputs : List FiltersDialog.Input)
  | delete (row : Nat)

/-- `CpWindow::addProxyItem`. -/
def addProxyItem (inputs : List ProxyDialog.Input) (s : CpWindow) : CpWindow :=
  match (inputs.foldl (ProxyDialog.after desktop.re) (ProxyDialog.init none)).proxyItem
    desktop.qt with
  | none => s
  | some newItem => { s with proxyList := s.proxyList ++ [newItem] }

/-- The action `Edit Proxy`. -/
def editProxy (row : Nat) (inputs : List ProxyDialog.Input) (s : CpWindow) : CpWindow :=
  match s.proxyList[row]? with
  | none => s
  | some item =>
    match (inputs.foldl (ProxyDialog.after desktop.re) (ProxyDialog.init (some item))).proxyItem
      desktop.qt with
    | none => s
    | some newItem =>
      { s with proxyList := (s.proxyList.insertIdx row newItem).eraseIdx (row + 1) }

/-- The action `Edit Filters`. The dialog always gives a filter
(`FiltersDialog.isSome_filter_of_inputs`). -/
def editFilters (row : Nat) (inputs : List FiltersDialog.Input) (s : CpWindow) : CpWindow :=
  match s.proxyList[row]? with
  | none => s
  | some item =>
    match (inputs.foldl (FiltersDialog.after desktop.qt desktop.ownProcessId)
      (FiltersDialog.init item.filters)).filter desktop.qt with
    | none => s
    | some filter =>
      let filters := QProxyItem.addFilter filter (QProxyItem.clearFilters item.filters)
      { s with proxyList := s.proxyList.set row { item with filters } }

/-- The action `Delete`. -/
def delete (row : Nat) (s : CpWindow) : CpWindow :=
  { s with proxyList := s.proxyList.eraseIdx row }

/-- An event of the window. -/
inductive Step : CpWindow → Event → CpWindow → Prop
  | addProxy {s : CpWindow} (inputs : List ProxyDialog.Input) :
    Step s (.addProxy inputs) (s.addProxyItem desktop inputs)
  | started {s : CpWindow} {driver : Bool} {calls : List RegisterCalls}
    (hstarted : s.started = true) : Step s (.start driver calls) s
  | start {s : CpWindow} {driver : Bool} {calls : List RegisterCalls} {k : Socksifier}
    (hstarted : s.started = false) (hcalls : calls.length = s.proxyList.length)
    (hitems : ProcessProxyItems desktop (s.proxyList.zip calls) (Socksifier.make driver) k) :
    Step s (.start driver calls) { s with started := true, socksifier := some k }
  | notStarted {s : CpWindow} (hstarted : s.started = false) : Step s .stop s
  | stop {s : CpWindow} (hstarted : s.started = true) :
    Step s .stop { s with started := false, socksifier := none }
  | editProxy {s : CpWindow} (row : Nat) (inputs : List ProxyDialog.Input) :
    Step s (.editProxy row inputs) (s.editProxy desktop row inputs)
  | editFilters {s : CpWindow} (row : Nat) (inputs : List FiltersDialog.Input) :
    Step s (.editFilters row inputs) (s.editFilters desktop row inputs)
  | delete {s : CpWindow} (row : Nat) : Step s (.delete row) (s.delete row)

/-- The runs of the window. -/
def system : System CpWindow Event where
  init s := s = {}
  step := Step desktop

end CpWindow

end

/-! ## Registering the list -/

/-- A proxy of the router, with the item it was registered for. -/
structure Registered where
  row : ProxyRow
  endpoint : IpEndpoint IpAddressV4
  servers : Option UInt16 × Option UInt16

namespace Registered

/-- What becomes of an item that is registered: nothing, unless its endpoint is parsed and its
servers come. -/
def ofItem (item : ProxyRow × RegisterCalls) : Option Registered := do
  let protocols ← item.1.item.protocols
  let endpoint ← item.2.names.parseEndpoint (toStdString item.1.item.endpoint)
  let servers ← ProxyRegistration.createServers protocols true item.2.add
  return ⟨item.1, endpoint, servers⟩

/-- The upstream proxy: the endpoint, and the credentials unless the login is empty. -/
def upstream (e : Registered) : SocksLocalRouter.Upstream :=
  ⟨e.endpoint, Socksifier.credPair (toStdString e.row.item.username)
    (toStdString e.row.item.password)⟩

end Registered

section
variable {desktop : Desktop} {k t : Socksifier} {row : ProxyRow} {c : RegisterCalls}
  {registered : List Registered} {items : List (ProxyRow × RegisterCalls)}

/-- The router has the proxies, with their servers, upstream proxies and filters. -/
structure Runs (desktop : Desktop) (registered : List Registered) (k : Socksifier) : Prop where
  servers : k.registration.router.proxyServers = registered.map (·.servers)
  upstreams : k.upstreams = registered.map (·.upstream)
  filters : k.registration.router.proxyToFilters.Perm
    (registered.zipIdx.map fun e => (e.2, e.1.row.interfaces desktop))

/-- The packets to and from the upstream proxies pass, where the driver took the filters for it. -/
def Bypasses (items : List (ProxyRow × RegisterCalls)) (k : Socksifier) : Prop :=
  ∀ item ∈ items, ∀ e ∈ Registered.ofItem item, (∀ i, item.2.add.driver i = true) →
    ∀ protocols ∈ e.row.item.protocols, ∀ f ∈ ProxyRegistration.filtersFor e.endpoint protocols,
      ⟨.v4, f⟩ ∈ k.registration.staticFilters.filters

/-- A driver that adds every filter has all of them. -/
theorem mem_addFilters_of_mem {driver : Nat → Bool} {fs : List (Filter .v4)} {calls : Nat}
    {s : StaticFilters} (hdriver : ∀ i, driver i = true) {f : Filter .v4} (hf : f ∈ fs) :
    ⟨.v4, f⟩ ∈ (ProxyRegistration.addFilters driver fs calls s).filters := by
  obtain ⟨i, hi⟩ := List.mem_iff_getElem?.mp hf
  exact ProxyRegistration.mem_addFilters.mpr (Or.inr ⟨i, f, hi, hdriver _, rfl⟩)

/-- What a registration does: without a proxy the router stays as it is, and otherwise it has one
proxy more. -/
theorem ProxyRow.addTo_cases {protocols : SupportedProtocols}
    (hprotocols : row.item.protocols = some protocols) (c : RegisterCalls) (k : Socksifier) :
    (Registered.ofItem (row, c) = none ∧ ∃ staticFilters, row.addTo c protocols k =
        (none, { k with registration := { k.registration with staticFilters } }) ∧
      ∀ g ∈ k.registration.staticFilters.filters, g ∈ staticFilters.filters) ∨
    ∃ e staticFilters, Registered.ofItem (row, c) = some e ∧ e.row = row ∧
      row.addTo c protocols k = (some k.registration.router.proxyServers.length,
        { registration :=
            { staticFilters
              router := { k.registration.router with
                proxyServers := k.registration.router.proxyServers ++ [e.servers] } }
          upstreams := k.upstreams ++ [e.upstream] }) ∧
      (∀ g ∈ k.registration.staticFilters.filters, g ∈ staticFilters.filters) ∧
      ((∀ i, c.add.driver i = true) → ∀ f ∈ ProxyRegistration.filtersFor e.endpoint protocols,
        ⟨.v4, f⟩ ∈ staticFilters.filters) := by
  cases hparse : c.names.parseEndpoint (toStdString row.item.endpoint) with
  | none =>
    refine Or.inl ⟨?_, k.registration.staticFilters, ?_, fun g hg => hg⟩
    · simp [Registered.ofItem, hprotocols, hparse]
    · simp [addTo, Socksifier.addSocks5Proxy, ProxyRegistration.addSocks5Proxy, hparse]
  | some endpoint =>
    cases hservers : ProxyRegistration.createServers protocols true c.add with
    | none =>
      refine Or.inl ⟨?_, ProxyRegistration.addFilters c.add.driver
        (ProxyRegistration.filtersFor endpoint protocols) 0 k.registration.staticFilters, ?_,
        fun g hg => ProxyRegistration.mem_addFilters.mpr (Or.inl hg)⟩
      · simp [Registered.ofItem, hprotocols, hparse, hservers]
      · simp [addTo, Socksifier.addSocks5Proxy, ProxyRegistration.addSocks5Proxy, hparse, hservers]
    | some servers =>
      refine Or.inr ⟨⟨row, endpoint, servers⟩, ProxyRegistration.addFilters c.add.driver
        (ProxyRegistration.filtersFor endpoint protocols) 0 k.registration.staticFilters, ?_, rfl,
        ?_, fun g hg => ProxyRegistration.mem_addFilters.mpr (Or.inl hg),
        fun hdriver f hf => mem_addFilters_of_mem hdriver hf⟩
      · simp [Registered.ofItem, hprotocols, hparse, hservers]
      · simp [addTo, Socksifier.addSocks5Proxy, ProxyRegistration.addSocks5Proxy, hparse, hservers,
          Registered.upstream]

/-- A filter for a proxy the map does not have is a new entry. -/
theorem pushFilter_new {proxyId : Nat} {filter : FilterInterface}
    {l : List (Nat × List FilterInterface)} (h : ∀ proxy ∈ l, proxy.1 ≠ proxyId) :
    SocksLocalRouter.pushFilter proxyId filter l = l ++ [(proxyId, [filter])] := by
  induction l with
  | nil => rfl
  | cons proxy l ih =>
    rw [SocksLocalRouter.pushFilter, if_neg (h proxy List.mem_cons_self),
      ih fun p hp => h p (List.mem_cons_of_mem _ hp), List.cons_append]

/-- The identifiers in the map are those of the proxies. -/
theorem Runs.proxyId_lt (h : Runs desktop registered k) {proxy : Nat × List FilterInterface}
    (hproxy : proxy ∈ k.registration.router.proxyToFilters) : proxy.1 < registered.length := by
  obtain ⟨e, he, rfl⟩ := List.mem_map.mp (h.filters.mem_iff.mp hproxy)
  exact (List.mem_zipIdx' he).1

/-- A proxy is registered, and its filter added. -/
theorem Runs.concat (h : Runs desktop registered k) {e : Registered} {filter : ItemFilter}
    (hone : e.row.filters = [filter]) {staticFilters : StaticFilters}
    (hfilters : FiltersAdded k.registration.router.proxyServers.length (e.row.interfaces desktop)
      { registration :=
          { staticFilters
            router := { k.registration.router with
              proxyServers := k.registration.router.proxyServers ++ [e.servers] } }
        upstreams := k.upstreams ++ [e.upstream] } t) :
    Runs desktop (registered ++ [e]) t ∧ t.registration.staticFilters = staticFilters := by
  have hlength : k.registration.router.proxyServers.length = registered.length := by
    rw [h.servers, List.length_map]
  have hinterfaces : e.row.interfaces desktop =
      [filter.matchProcess desktop.tolower desktop.regexMatch] := by
    rw [ProxyRow.interfaces, hone, List.map_singleton]
  rw [hinterfaces] at hfilters
  cases hfilters with
  | next hfilter hrest =>
    cases hrest
    obtain ⟨router, hstep, rfl⟩ := hfilter
    cases hstep with
    | filtered _ _ order _ horder =>
      have hnew : ∀ proxy ∈ k.registration.router.proxyToFilters,
          proxy.1 ≠ k.registration.router.proxyServers.length := fun proxy hproxy =>
        Nat.ne_of_lt (hlength ▸ h.proxyId_lt hproxy)
      rw [List.foldl_cons, List.foldl_nil, pushFilter_new hnew, hlength, ← hinterfaces] at horder
      refine ⟨⟨?_, ?_, ?_⟩, rfl⟩
      · simp [h.servers]
      · simp [h.upstreams]
      · rw [List.zipIdx_append, List.map_append, List.zipIdx_singleton, List.map_singleton,
          Nat.zero_add]
        exact horder.trans (h.filters.append_right _)
    | refused hrange =>
      simp only [List.length_append, List.length_singleton] at hrange
      omega

/-- Registering a list of items that have one filter each. -/
theorem ProcessProxyItems.runs (h : ProcessProxyItems desktop items k t)
    (hvalid : ∀ item ∈ items, item.1.Valid desktop.qt ∧ ∃ filter, item.1.filters = [filter])
    (hruns : Runs desktop registered k) :
    Runs desktop (registered ++ items.filterMap Registered.ofItem) t ∧ Bypasses items t ∧
      ∀ g ∈ k.registration.staticFilters.filters, g ∈ t.registration.staticFilters.filters := by
  induction h generalizing registered with
  | done k => exact ⟨by simpa using hruns, nofun, fun g hg => hg⟩
  | skipped herror _ _ => exact absurd (hvalid _ List.mem_cons_self).1.error herror
  | @failed row c rest k k' t protocols herror hprotocols hadd hrest ih =>
    have hrestValid := fun item hitem => hvalid item (List.mem_cons_of_mem _ hitem)
    rcases row.addTo_cases hprotocols c k with
      ⟨hnone, staticFilters, heq, hmono⟩ | ⟨e, staticFilters, -, -, heq, -⟩
    · rw [heq] at hadd
      cases hadd
      obtain ⟨hall, hbypass, hkept⟩ := ih hrestValid ⟨hruns.servers, hruns.upstreams, hruns.filters⟩
      rw [List.filterMap_cons_none hnone]
      refine ⟨hall, fun item hitem e he => ?_, fun g hg => hkept g (hmono g hg)⟩
      rcases List.mem_cons.mp hitem with rfl | hitem
      · rw [hnone] at he
        cases he
      · exact hbypass item hitem e he
    · rw [heq] at hadd
      cases hadd
  | @registered row c rest k k' k'' t protocols proxyId herror hprotocols hadd hfilters hrest ih =>
    have hrestValid := fun item hitem => hvalid item (List.mem_cons_of_mem _ hitem)
    obtain ⟨filter, hone⟩ := (hvalid _ List.mem_cons_self).2
    rcases row.addTo_cases hprotocols c k with
      ⟨-, staticFilters, heq, -⟩ | ⟨e, staticFilters, hsome, rfl, heq, hmono, hadded⟩
    · rw [heq] at hadd
      cases hadd
    · rw [heq] at hadd
      cases hadd
      obtain ⟨hone', hstatic⟩ := hruns.concat hone hfilters
      obtain ⟨hall, hbypass, hkept⟩ := ih hrestValid hone'
      rw [hstatic] at hkept
      rw [List.append_assoc, List.singleton_append] at hall
      rw [List.filterMap_cons_some hsome]
      refine ⟨hall, fun item hitem e' he' => ?_, fun g hg => hkept g (hmono g hg)⟩
      rcases List.mem_cons.mp hitem with rfl | hitem
      · rw [hsome] at he'
        cases he'
        intro hdriver protocols' hprotocols' f hf
        rw [hprotocols] at hprotocols'
        cases hprotocols'
        exact hkept _ (hadded hdriver f hf)
      · exact hbypass item hitem e' he'

/-! ## What the router serves -/

/-- Servers that come are those of the protocols. -/
theorem createServers_eq_some {protocols : SupportedProtocols} {o : AddCalls}
    {servers : Option UInt16 × Option UInt16}
    (h : ProxyRegistration.createServers protocols true o = some servers) :
    (servers.1.isSome = true ↔ protocols ≠ .udp) ∧
      (servers.2.isSome = true ↔ protocols ≠ .tcp) := by
  unfold ProxyRegistration.createServers at h
  cases protocols with
  | tcp =>
    cases htcp : o.tcpServer with
    | none => simp [htcp] at h
    | some port =>
      simp only [htcp] at h
      cases htcpStarts : o.tcpStarts <;> cases hemplaced : o.emplaced <;>
        simp [htcpStarts, hemplaced] at h
      rw [← h]
      simp
  | udp =>
    cases hudp : o.udpServer with
    | none => simp [hudp] at h
    | some port =>
      cases hudpStarts : o.udpStarts <;> cases hemplaced : o.emplaced <;>
        simp [hudp, hudpStarts, hemplaced] at h
      rw [← h]
      simp
  | both =>
    cases htcp : o.tcpServer with
    | none => simp [htcp] at h
    | some port =>
      cases hudp : o.udpServer with
      | none => simp [htcp, hudp] at h
      | some port' =>
        cases htcpStarts : o.tcpStarts <;> cases hudpStarts : o.udpStarts <;>
          cases hemplaced : o.emplaced <;>
            simp [htcp, hudp, htcpStarts, hudpStarts, hemplaced] at h
        rw [← h]
        simp

/-- The servers of a proxy are those of the item's protocols. -/
theorem Registered.servers_of_ofItem {item : ProxyRow × RegisterCalls} {e : Registered}
    (h : Registered.ofItem item = some e) : e.row = item.1 ∧ ∃ protocols,
      e.row.item.protocols = some protocols ∧ (e.servers.1.isSome = true ↔ protocols ≠ .udp) ∧
        (e.servers.2.isSome = true ↔ protocols ≠ .tcp) := by
  simp only [Registered.ofItem, Option.bind_eq_bind, Option.bind_eq_some_iff,
    Option.pure_def, Option.some.injEq] at h
  obtain ⟨protocols, hprotocols, endpoint, -, servers, hservers, rfl⟩ := h
  exact ⟨rfl, protocols, hprotocols, createServers_eq_some hservers⟩

/-- A filter of the item matches the process. -/
def ProxyRow.Matches (desktop : Desktop) (row : ProxyRow) (process : NetworkProcess) : Prop :=
  ItemFilter.matchesAny desktop.tolower desktop.regexMatch row.filters process = true

theorem ProxyRow.matches_iff {process : NetworkProcess} {i : Nat} :
    SocksLocalRouter.Matches process (i, row.interfaces desktop) ↔ row.Matches desktop process := by
  simp [SocksLocalRouter.Matches, ProxyRow.interfaces, ProxyRow.Matches, ItemFilter.matchesAny]

/-- A port a process is sent to is that of a proxy whose filter matches it, and the lambda of that
proxy's server answers with its upstream proxy. -/
def Serves (desktop : Desktop) (registered : List Registered) (k : Socksifier) : Prop :=
  ∀ (server : SocksLocalRouter.ServerOf) (process : NetworkProcess) (port : UInt16),
    k.registration.router.getProxyPort server process = some port →
      ∃ (i : Nat) (e : Registered), registered[i]? = some e ∧ e.row.Matches desktop process ∧
        server e.servers = some port ∧ k.upstreams[i]? = some e.upstream

/-- Where every proxy is for both protocols, a process is sent to one just when a filter matches
it. -/
def ServesAll (desktop : Desktop) (registered : List Registered) (k : Socksifier) : Prop :=
  (∀ e ∈ registered, e.row.item.protocols = some .both) → ∀ process,
    ((k.registration.router.getProxyPortTcp process).isSome = true ↔
      ∃ e ∈ registered, e.row.Matches desktop process) ∧
    ((k.registration.router.getProxyPortUdp process).isSome = true ↔
      ∃ e ∈ registered, e.row.Matches desktop process)

/-- The proxies of the router, as entries of its map. -/
theorem Runs.entry (h : Runs desktop registered k) {proxy : Nat × List FilterInterface}
    (hproxy : proxy ∈ k.registration.router.proxyToFilters) :
    ∃ e, registered[proxy.1]? = some e ∧ proxy = (proxy.1, e.row.interfaces desktop) := by
  obtain ⟨⟨e, i⟩, he, rfl⟩ := List.mem_map.mp (h.filters.mem_iff.mp hproxy)
  exact ⟨e, List.mem_zipIdx_iff_getElem?.mp he, rfl⟩

/-- The server of a proxy. -/
theorem Runs.liveServer (h : Runs desktop registered k) (server : SocksLocalRouter.ServerOf)
    {i : Nat} {e : Registered} (he : registered[i]? = some e) (filters : List FilterInterface) :
    k.registration.router.liveServer server (i, filters) = server e.servers := by
  simp [SocksLocalRouter.liveServer, h.servers, he]

theorem Runs.serves (h : Runs desktop registered k) : Serves desktop registered k := by
  intro server process port hport
  rcases k.registration.router.getProxyPort_cases server process with
    ⟨-, hnone⟩ | ⟨before, ⟨i, filters⟩, after, hsplit, -, hmatch, heq⟩
  · rw [hnone] at hport
    cases hport
  · obtain ⟨e, he, hentry⟩ := h.entry (hsplit ▸ List.mem_append_right before List.mem_cons_self)
    dsimp only at he hentry
    rw [heq, h.liveServer server he] at hport
    rw [hentry, ProxyRow.matches_iff] at hmatch
    exact ⟨i, e, he, hmatch, hport, by simp [h.upstreams, he]⟩

/-- A process that a filter matches is sent to a proxy, if every proxy has the server. -/
theorem Runs.isSome_getProxyPort (h : Runs desktop registered k)
    {server : SocksLocalRouter.ServerOf} (hall : ∀ e ∈ registered, (server e.servers).isSome = true)
    (process : NetworkProcess) :
    (k.registration.router.getProxyPort server process).isSome = true ↔
      ∃ e ∈ registered, e.row.Matches desktop process := by
  constructor
  · intro hsome
    obtain ⟨port, hport⟩ := Option.isSome_iff_exists.mp hsome
    obtain ⟨i, e, he, hmatch, -, -⟩ := h.serves server process port hport
    exact ⟨e, List.mem_of_getElem? he, hmatch⟩
  · rintro ⟨e, he, hmatch⟩
    obtain ⟨i, hi⟩ := List.getElem?_of_mem he
    have hentry : (i, e.row.interfaces desktop) ∈ k.registration.router.proxyToFilters :=
      h.filters.mem_iff.mpr (List.mem_map.mpr ⟨(e, i), List.mem_zipIdx_iff_getElem?.mpr hi, rfl⟩)
    rcases k.registration.router.getProxyPort_cases server process with
      ⟨hnone, -⟩ | ⟨before, ⟨j, filters⟩, after, hsplit, -, -, heq⟩
    · exact absurd (ProxyRow.matches_iff.mpr hmatch) (hnone _ hentry)
    · obtain ⟨e', he', -⟩ := h.entry (hsplit ▸ List.mem_append_right before List.mem_cons_self)
      rw [heq, h.liveServer server he']
      exact hall e' (List.mem_of_getElem? he')

theorem Runs.servesAll (h : Runs desktop registered k)
    (hitems : ∀ e ∈ registered, ∃ item, Registered.ofItem item = some e) :
    ServesAll desktop registered k := by
  intro hboth process
  have hservers : ∀ e ∈ registered, e.servers.1.isSome = true ∧ e.servers.2.isSome = true := by
    intro e he
    obtain ⟨item, hitem⟩ := hitems e he
    obtain ⟨-, protocols, hprotocols, htcp, hudp⟩ := Registered.servers_of_ofItem hitem
    rw [hboth e he] at hprotocols
    cases hprotocols
    exact ⟨htcp.mpr (by simp), hudp.mpr (by simp)⟩
  exact ⟨h.isSome_getProxyPort (fun e he => (hservers e he).1) process,
    h.isSome_getProxyPort (fun e he => (hservers e he).2) process⟩

end

/-! ## The runs of the window -/

namespace CpWindow

variable {desktop : Desktop} {s t : CpWindow} {e : Event}

/-- Every item is valid and has one filter, and there is a router while the window is started. -/
structure Inv (desktop : Desktop) (s : CpWindow) : Prop where
  valid : ∀ row ∈ s.proxyList, row.Valid desktop.qt ∧ ∃ filter, row.filters = [filter]
  running : s.socksifier.isSome = s.started

/-- An item that is inserted and whose successor is taken out takes its place. -/
theorem eraseIdx_insertIdx {α : Type} {l : List α} {i : Nat} (hi : i < l.length) (a : α) :
    (l.insertIdx i a).eraseIdx (i + 1) = l.set i a := by
  induction l generalizing i with
  | nil => cases hi
  | cons b l ih =>
    cases i with
    | zero => rfl
    | succ i => exact congrArg (b :: ·) (ih (Nat.lt_of_succ_lt_succ hi))

variable (desktop) in
/-- What `Edit Proxy` does: nothing, or the item is replaced by one that comes out of the dialog. -/
theorem editProxy_cases (row : Nat) (inputs : List ProxyDialog.Input) (s : CpWindow) :
    s.editProxy desktop row inputs = s ∨
      ∃ item newItem, s.proxyList[row]? = some item ∧ newItem.Valid desktop.qt ∧
        newItem.filters = item.filters ∧
        s.editProxy desktop row inputs = { s with proxyList := s.proxyList.set row newItem } := by
  unfold editProxy
  split
  · exact Or.inl rfl
  · next item hitem =>
    split
    · exact Or.inl rfl
    · next newItem hnew =>
      obtain ⟨hvalid, hfilters⟩ := ProxyDialog.proxyItem_eq_some hnew
      rw [ProxyDialog.prototype_after] at hfilters
      have hlt := (List.getElem?_eq_some_iff.mp hitem).1
      exact Or.inr ⟨item, newItem, hitem, hvalid, hfilters, by rw [eraseIdx_insertIdx hlt]⟩

variable (desktop) in
/-- What `Edit Filters` does: nothing where there is no item, and otherwise the item has the one
filter that the dialog gives. -/
theorem editFilters_cases (row : Nat) (inputs : List FiltersDialog.Input) (s : CpWindow) :
    (s.proxyList[row]? = none ∧ s.editFilters desktop row inputs = s) ∨
      ∃ item filter, s.proxyList[row]? = some item ∧
        (inputs.foldl (FiltersDialog.after desktop.qt desktop.ownProcessId)
          (FiltersDialog.init item.filters)).filter desktop.qt = some filter ∧
        s.editFilters desktop row inputs =
          { s with proxyList := s.proxyList.set row { item with filters := [filter] } } := by
  cases hitem : s.proxyList[row]? with
  | none => exact Or.inl ⟨rfl, by rw [editFilters, hitem]⟩
  | some item =>
    obtain ⟨filter, hfilter⟩ := Option.isSome_iff_exists.mp
      (@FiltersDialog.isSome_filter_of_inputs desktop.qt desktop.ownProcessId item.filters inputs)
    refine Or.inr ⟨item, filter, rfl, hfilter, ?_⟩
    rw [editFilters, hitem]
    simp only [hfilter]
    rfl

theorem Inv.set (h : Inv desktop s) {row : Nat} {newItem : ProxyRow}
    (hnew : newItem.Valid desktop.qt ∧ ∃ filter, newItem.filters = [filter]) :
    Inv desktop { s with proxyList := s.proxyList.set row newItem } := by
  refine ⟨fun item hitem => ?_, h.running⟩
  rcases List.mem_or_eq_of_mem_set hitem with hitem | rfl
  · exact h.valid item hitem
  · exact hnew

theorem Inv.step (h : Inv desktop s) (hstep : Step desktop s e t) : Inv desktop t := by
  cases hstep with
  | addProxy inputs =>
    unfold addProxyItem
    split
    · exact h
    · next newItem hnew =>
      obtain ⟨hvalid, hfilters⟩ := ProxyDialog.proxyItem_eq_some hnew
      rw [ProxyDialog.prototype_after] at hfilters
      refine ⟨fun item hitem => ?_, h.running⟩
      rcases List.mem_append.mp hitem with hitem | hitem
      · exact h.valid item hitem
      · rw [List.mem_singleton.mp hitem]
        exact ⟨hvalid, _, hfilters⟩
  | started hstarted => exact h
  | start hstarted hcalls hitems => exact ⟨h.valid, rfl⟩
  | notStarted hstarted => exact h
  | stop hstarted => exact ⟨h.valid, rfl⟩
  | editProxy row inputs =>
    rcases editProxy_cases desktop row inputs s with
      hsame | ⟨item, newItem, hitem, hvalid, hfilters, heq⟩
    · rw [hsame]
      exact h
    · rw [heq]
      obtain ⟨-, filter, hone⟩ := h.valid item (List.mem_of_getElem? hitem)
      exact h.set ⟨hvalid, filter, hfilters.trans hone⟩
  | editFilters row inputs =>
    rcases editFilters_cases desktop row inputs s with
      ⟨-, hsame⟩ | ⟨item, filter, hitem, -, heq⟩
    · rw [hsame]
      exact h
    · rw [heq]
      obtain ⟨⟨herror, hmade⟩, -⟩ := h.valid item (List.mem_of_getElem? hitem)
      exact h.set ⟨⟨herror, hmade⟩, filter, rfl⟩
  | delete row =>
    exact ⟨fun item hitem => h.valid item (List.mem_of_mem_eraseIdx hitem), h.running⟩

theorem inv_of_reachable (h : (system desktop).Reachable s) : Inv desktop s := by
  refine h.invariant (I := Inv desktop) ?_ fun s e t hs hstep => hs.step hstep
  rintro s rfl
  exact ⟨by simp, rfl⟩

/-- The window is started, and nobody clicks on `stop`. -/
def KeepsRunning (s : CpWindow) : Event → Prop
  | .stop => False
  | _ => s.started = true

/-- `t` runs with the router that a click on `start` made of the list of `s`; no other was made
since. -/
structure StartedFrom (desktop : Desktop) (s : CpWindow) (driver : Bool)
    (calls : List RegisterCalls) (k : Socksifier) (t : CpWindow) : Prop where
  reachable : (system desktop).Reachable s
  notStarted : s.started = false
  start : Step desktop s (.start driver calls) { s with started := true, socksifier := some k }
  since : ((system desktop).restrict KeepsRunning).Steps
    { s with started := true, socksifier := some k } t

/-- The list was registered with a new router. -/
theorem StartedFrom.registered {driver : Bool} {calls : List RegisterCalls} {k : Socksifier}
    (h : StartedFrom desktop s driver calls k t) : calls.length = s.proxyList.length ∧
      ProcessProxyItems desktop (s.proxyList.zip calls) (Socksifier.make driver) k := by
  obtain ⟨-, hnot, hstart, -⟩ := h
  generalize hs₁ : { s with started := true, socksifier := some k } = s₁ at hstart
  cases hstart with
  | started hstarted => exact absurd hstarted (by simp [hnot])
  | start _ hcalls hitems =>
    cases hs₁
    exact ⟨hcalls, hitems⟩

/-- An event that neither starts nor stops the router leaves it what it is. -/
theorem StartedFrom.snoc {driver : Bool} {calls : List RegisterCalls} {k : Socksifier}
    {r : CpWindow} (h : StartedFrom desktop s driver calls k t) (hkeeps : KeepsRunning t e)
    (hstep : Step desktop t e r) : StartedFrom desktop s driver calls k r :=
  ⟨h.reachable, h.notStarted, h.start, h.since.snoc (e := e) ⟨hkeeps, hstep⟩⟩

/-- The router of a window was made by a click on `start`. -/
def WasStarted (desktop : Desktop) (t : CpWindow) : Prop :=
  ∀ k, t.socksifier = some k → ∃ s driver calls, StartedFrom desktop s driver calls k t

/-- An event that is neither `start` nor `stop` keeps the router. -/
theorem WasStarted.kept (h : WasStarted desktop s) (hinv : Inv desktop s)
    (hstep : Step desktop s e t) (hsame : t.socksifier = s.socksifier)
    (hkeeps : s.started = true → KeepsRunning s e) : WasStarted desktop t := by
  intro k hk
  rw [hsame] at hk
  have hstarted : s.started = true := by rw [← hinv.running, hk, Option.isSome_some]
  obtain ⟨s₀, driver, calls, hfrom⟩ := h k hk
  exact ⟨s₀, driver, calls, hfrom.snoc (hkeeps hstarted) hstep⟩

/-- An event makes a router, takes it away or keeps it. -/
theorem WasStarted.step (h : (system desktop).Reachable s) (hmade : WasStarted desktop s)
    (hstep : Step desktop s e t) : WasStarted desktop t := by
  have hinv := inv_of_reachable h
  cases hstep with
  | addProxy inputs =>
    refine hmade.kept hinv (.addProxy inputs) ?_ id
    unfold addProxyItem
    split <;> rfl
  | started hstarted => exact hmade
  | @start driver calls k hstarted hcalls hitems =>
    rintro k' ⟨⟩
    exact ⟨s, driver, calls, h, hstarted, .start hstarted hcalls hitems, .refl _⟩
  | notStarted hstarted => exact hmade
  | stop hstarted =>
    intro k hk
    cases hk
  | editProxy row inputs =>
    refine hmade.kept hinv (.editProxy row inputs) ?_ id
    rcases editProxy_cases desktop row inputs s with hsame | ⟨_, _, -, -, -, heq⟩
    · rw [hsame]
    · rw [heq]
  | editFilters row inputs =>
    refine hmade.kept hinv (.editFilters row inputs) ?_ id
    rcases editFilters_cases desktop row inputs s with ⟨-, hsame⟩ | ⟨_, _, -, -, heq⟩
    · rw [hsame]
    · rw [heq]
  | delete row => exact hmade.kept hinv (.delete row) rfl id

theorem wasStarted_of_reachable (h : (system desktop).Reachable t) : WasStarted desktop t := by
  have hboth : (system desktop).Reachable t ∧ WasStarted desktop t := by
    refine h.invariant
      (I := fun t => (system desktop).Reachable t ∧ WasStarted desktop t) ?_ ?_
    · rintro s rfl
      refine ⟨.init rfl, fun k hk => ?_⟩
      cases hk
    · rintro s e t ⟨hs, hmade⟩ hstep
      exact ⟨hs.snoc hstep, hmade.step hs hstep⟩
  exact hboth.2

/-- A running router serves the list as it was when `start` was clicked, whatever is edited since:
the run has a step that starts it, from a window `s` that was not started, and none that stops it
later. Its proxies are the items of `s` that could be registered, with their servers, credentials
and filters; a process is sent to a proxy only if the filter of its item matches, and packets to the
upstream proxies pass unless the driver refused a filter. -/
theorem running_serves_rows (h : (system desktop).Reachable t) {k : Socksifier}
    (hk : t.socksifier = some k) :
    ∃ s driver calls, StartedFrom desktop s driver calls k t ∧
      calls.length = s.proxyList.length ∧
      Runs desktop ((s.proxyList.zip calls).filterMap Registered.ofItem) k ∧
      Serves desktop ((s.proxyList.zip calls).filterMap Registered.ofItem) k ∧
      ServesAll desktop ((s.proxyList.zip calls).filterMap Registered.ofItem) k ∧
      Bypasses (s.proxyList.zip calls) k := by
  obtain ⟨s, driver, calls, hfrom⟩ := wasStarted_of_reachable h k hk
  obtain ⟨hcalls, hitems⟩ := hfrom.registered
  have hvalid : ∀ item ∈ s.proxyList.zip calls,
      item.1.Valid desktop.qt ∧ ∃ filter, item.1.filters = [filter] := fun item hitem =>
    (inv_of_reachable hfrom.reachable).valid item.1 (List.of_mem_zip hitem).1
  have hnone : Runs desktop [] (Socksifier.make driver) := ⟨rfl, rfl, .refl _⟩
  obtain ⟨hruns, hbypass, -⟩ := hitems.runs hvalid hnone
  rw [List.nil_append] at hruns
  refine ⟨s, driver, calls, hfrom, hcalls, hruns, hruns.serves,
    hruns.servesAll fun e he => ?_, hbypass⟩
  obtain ⟨item, -, hitem⟩ := List.mem_filterMap.mp he
  exact ⟨item, hitem⟩

/-! ## The list -/

/-- A registered proxy takes its filter. -/
theorem exists_filtersAdded {k : Socksifier} (proxyId : Nat)
    (hid : proxyId < k.registration.router.proxyServers.length) (filter : FilterInterface) :
    ∃ t, FiltersAdded proxyId [filter] k t :=
  ⟨_, .next ⟨_, .filtered proxyId [filter] _ hid (.refl _), rfl⟩ (.done _)⟩

/-- The items of a list can be registered, whatever the system answers. -/
theorem exists_processProxyItems {items : List (ProxyRow × RegisterCalls)}
    (hvalid : ∀ item ∈ items, item.1.Valid desktop.qt ∧ ∃ filter, item.1.filters = [filter])
    (k : Socksifier) : ∃ t, ProcessProxyItems desktop items k t := by
  induction items generalizing k with
  | nil => exact ⟨k, .done k⟩
  | cons item rest ih =>
    obtain ⟨row, c⟩ := item
    have hrest := fun item hitem => hvalid item (List.mem_cons_of_mem _ hitem)
    obtain ⟨hrow, filter, hone⟩ := hvalid _ List.mem_cons_self
    obtain ⟨protocols, hprotocols, -⟩ := hrow.eq_make
    rcases row.addTo_cases hprotocols c k with ⟨-, _, heq, -⟩ | ⟨e, _, -, -, heq, -, -⟩
    · obtain ⟨t, ht⟩ := ih hrest _
      exact ⟨t, .failed hrow.error hprotocols heq ht⟩
    · obtain ⟨k', hk'⟩ := exists_filtersAdded (k := (row.addTo c protocols k).2)
        k.registration.router.proxyServers.length (by rw [heq]; simp)
        (filter.matchProcess desktop.tolower desktop.regexMatch)
      have hinterfaces : row.interfaces desktop =
          [filter.matchProcess desktop.tolower desktop.regexMatch] := by
        rw [ProxyRow.interfaces, hone, List.map_singleton]
      rw [← hinterfaces, heq] at hk'
      obtain ⟨t, ht⟩ := ih hrest k'
      exact ⟨t, .registered hrow.error hprotocols heq hk' ht⟩

/-- In every window every item is valid and has one filter, `Edit Proxy` accepted without a change
leaves the list what it is, there is a router just while the window is started, and one that is not
can be. `Edit Filters` accepted without a change does not keep the filter
(`FiltersDialog.filter_init`). -/
theorem list_kept (h : (system desktop).Reachable s) :
    (∀ row ∈ s.proxyList, row.Valid desktop.qt ∧ ∃ filter, row.filters = [filter]) ∧
      (∀ row, s.editProxy desktop row [] = s) ∧ s.socksifier.isSome = s.started ∧
      (s.started = false → ∀ driver calls, calls.length = s.proxyList.length →
        ∃ k, Step desktop s (.start driver calls)
          { s with started := true, socksifier := some k }) := by
  have hinv := inv_of_reachable h
  refine ⟨hinv.valid, fun row => ?_, hinv.running, fun hstarted driver calls hcalls => ?_⟩
  · cases hitem : s.proxyList[row]? with
    | none => rw [editProxy, hitem]
    | some item =>
      have hmem := List.mem_of_getElem? hitem
      obtain ⟨hlt, hget⟩ := List.getElem?_eq_some_iff.mp hitem
      have hsame := ProxyDialog.proxyItem_init (hinv.valid item hmem).1
      rw [editProxy, hitem]
      simp only [List.foldl_nil, hsame]
      rw [eraseIdx_insertIdx hlt, ← hget, List.set_getElem_self]
  · have hvalid : ∀ item ∈ s.proxyList.zip calls,
        item.1.Valid desktop.qt ∧ ∃ filter, item.1.filters = [filter] := fun item hitem =>
      hinv.valid item.1 (List.of_mem_zip hitem).1
    obtain ⟨k, hk⟩ := exists_processProxyItems hvalid (Socksifier.make driver)
    exact ⟨k, .start hstarted hcalls hk⟩

/-! ## A proxy that is added and started -/

/-- A desktop for which `10.0.0.1` is an address. -/
def someDesktop : Desktop where
  qt := QProxyItem.someQt
  re := RegexEngine.newlines
  tolower := NameFilter.asciiToLower
  regexMatch s p := s == p
  ownProcessId := 1

/-- Every call succeeds. -/
def succeedingCalls : RegisterCalls where
  names := NameService.literalOnly
  add := ⟨fun _ => true, some 1000, some 2000, true, true, true⟩

/-- The proxy `10.0.0.1:80` is entered. -/
def entered : CpWindow :=
  addProxyItem someDesktop [.ip QProxyItem.tenQuad, .port ['8', '0']] {}

theorem entered_reachable : (system someDesktop).Reachable entered :=
  (System.Reachable.init rfl).snoc (M := system someDesktop) (.addProxy _)

theorem list_kept_entered : entered.editProxy someDesktop 0 [] = entered ∧
    entered.socksifier.isSome = false := by
  obtain ⟨-, hedit, hsocksifier, -⟩ := list_kept entered_reachable
  exact ⟨hedit 0, hsocksifier⟩

/-- The proxy is deleted while the router runs, and the router goes on to serve it. -/
theorem running_serves_rows_entered : ∃ k s driver calls,
    StartedFrom someDesktop s driver calls k ⟨[], some k, true⟩ ∧
    calls.length = s.proxyList.length ∧
    Runs someDesktop ((s.proxyList.zip calls).filterMap Registered.ofItem) k := by
  have hvalid : ∀ item ∈ entered.proxyList.zip [succeedingCalls],
      item.1.Valid someDesktop.qt ∧ ∃ filter, item.1.filters = [filter] := fun item hitem =>
    (inv_of_reachable entered_reachable).valid item.1 (List.of_mem_zip hitem).1
  obtain ⟨k, hk⟩ := exists_processProxyItems hvalid (Socksifier.make true)
  have hstart := entered_reachable.snoc (M := system someDesktop) (.start rfl rfl hk)
  have hdeleted := hstart.snoc (M := system someDesktop) (.delete 0)
  obtain ⟨s, driver, calls, hfrom, hcalls, hruns, -⟩ := running_serves_rows hdeleted rfl
  exact ⟨k, s, driver, calls, hfrom, hcalls, hruns⟩

end CpWindow

end CutieProxy
