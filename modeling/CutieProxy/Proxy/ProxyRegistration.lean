import CutieProxy.Ndisapi.StaticFilters
import CutieProxy.Proxy.ParseEndpoint
import CutieProxy.Proxy.SocksLocalRouter

/-!
# Registering a proxy

`add_socks5_proxy` adds pass filters for the endpoint of a proxy before it creates and starts the
servers of the proxy. A server that was created is destroyed on every way out, and the list of
servers changes last; the filters are never taken back. `undone_iff` says when a call that returns
nothing has changed nothing.
-/

namespace CutieProxy

/-- `supported_protocols`. -/
inductive SupportedProtocols where
  | tcp
  | udp
  | both
  deriving DecidableEq, Repr

/-- What the calls of `add_socks5_proxy` return. -/
structure AddCalls where
  /-- Whether the driver adds a filter, by the number of filters handed to it before. -/
  driver : Nat → Bool
  /-- The port the new TCP server listens on; its constructor throws if there is none. -/
  tcpServer : Option UInt16
  /-- That of the new UDP server. -/
  udpServer : Option UInt16
  tcpStarts : Bool
  udpStarts : Bool
  /-- `emplace_back` has memory for the new element. -/
  emplaced : Bool

/-- The state `add_socks5_proxy` manages. -/
structure ProxyRegistration where
  staticFilters : StaticFilters := {}
  router : SocksLocalRouter := {}

/-- `IPPROTO_ICMP`. -/
def ipprotoIcmp : UInt8 := 1

namespace ProxyRegistration

/-- `icmp_filter`, which the constructor adds. -/
def icmpFilter : Filter .v4 where
  action := .pass
  direction := .both
  protocol := some ipprotoIcmp

/-- The constructor; `driver` tells whether the driver adds its filter. -/
def construct (driver : Bool) : ProxyRegistration where
  staticFilters := (StaticFilters.addFilterBack driver ⟨.v4, icmpFilter⟩ {}).2

/-- The lambda `create_filter`. -/
def createFilter (protocol : UInt8) (direction : Direction) (address : IpAddressV4)
    (port : UInt16) : Filter .v4 where
  protocol := some protocol
  direction := direction
  action := .pass
  destAddress := some ⟨address, ⟨255, 255, 255, 255⟩⟩
  destPort := some (port, port)

/-- The filters that are added for an endpoint, in order. -/
def filtersFor (endpoint : IpEndpoint IpAddressV4) (protocols : SupportedProtocols) :
    List (Filter .v4) :=
  let tcpOutFilter := createFilter ipprotoTcp .outgoing endpoint.ip endpoint.port
  let tcpInFilter := createFilter ipprotoTcp .incoming endpoint.ip endpoint.port
  let udpOutFilter := createFilter ipprotoUdp .outgoing endpoint.ip endpoint.port
  let udpInFilter := createFilter ipprotoUdp .incoming endpoint.ip endpoint.port
  match protocols with
  | .both | .udp => [tcpOutFilter, tcpInFilter, udpOutFilter, udpInFilter]
  | .tcp => [tcpOutFilter, tcpInFilter]

/-- A call of `add_filter_back` for each filter, whose results are not looked at. -/
def addFilters (driver : Nat → Bool) : List (Filter .v4) → Nat → StaticFilters → StaticFilters
  | [], _, s => s
  | f :: rest, calls, s =>
    addFilters driver rest (calls + 1) (s.addFilterBack (driver calls) ⟨.v4, f⟩).2

/-- The block that may throw, up to the servers that are entered; nothing where it returns early or
throws. -/
def createServers (protocols : SupportedProtocols) (start : Bool) (o : AddCalls) :
    Option (Option UInt16 × Option UInt16) := do
  let tcp ← if protocols = .both ∨ protocols = .tcp then o.tcpServer.map some else some none
  let udp ← if protocols = .both ∨ protocols = .udp then o.udpServer.map some else some none
  if start = true ∧ tcp.isSome = true ∧ o.tcpStarts = false then none
  else if start = true ∧ udp.isSome = true ∧ o.udpStarts = false then none
  else if o.emplaced then some (tcp, udp)
  else none

/-- `add_socks5_proxy`. The credentials go to the servers only, which ask for them later. -/
def addSocks5Proxy (w : NameService) (endpoint : List UInt8) (protocols : SupportedProtocols)
    (_credPair : Option (List UInt8 × List UInt8)) (start : Bool) (o : AddCalls)
    (s : ProxyRegistration) : Option Nat × ProxyRegistration :=
  match w.parseEndpoint endpoint with
  | none => (none, s)
  | some proxyEndpoint =>
    let staticFilters := addFilters o.driver (filtersFor proxyEndpoint protocols) 0 s.staticFilters
    match createServers protocols start o with
    | none => (none, { s with staticFilters })
    | some servers =>
      let proxyServers := s.router.proxyServers ++ [servers]
      (some (proxyServers.length - 1),
        { staticFilters, router := { s.router with proxyServers } })

/-- Every server that is asked for is created, started when `start` says so, and entered. -/
@[mk_iff]
structure ServersCome (protocols : SupportedProtocols) (start : Bool) (o : AddCalls) : Prop where
  tcp : protocols ≠ .udp → o.tcpServer ≠ none ∧ (start = true → o.tcpStarts = true)
  udp : protocols ≠ .tcp → o.udpServer ≠ none ∧ (start = true → o.udpStarts = true)
  room : o.emplaced = true

/-- The number of filters a call hands to the driver. -/
def filterCount : SupportedProtocols → Nat
  | .tcp => 2
  | .udp | .both => 4

/-! ## The filters -/

theorem length_filtersFor (endpoint : IpEndpoint IpAddressV4) (protocols : SupportedProtocols) :
    (filtersFor endpoint protocols).length = filterCount protocols := by
  cases protocols <;> rfl

/-- After the calls the table has the filters it had and those that the driver took. -/
theorem mem_addFilters {driver : Nat → Bool} {fs : List (Filter .v4)} {calls : Nat}
    {s : StaticFilters} {g : FilterVariant} :
    g ∈ (addFilters driver fs calls s).filters ↔
      g ∈ s.filters ∨ ∃ i f, fs[i]? = some f ∧ driver (calls + i) = true ∧ g = ⟨.v4, f⟩ := by
  induction fs generalizing calls s with
  | nil => simp [addFilters]
  | cons f rest ih =>
    have hfirst : g ∈ (s.addFilterBack (driver calls) ⟨.v4, f⟩).2.filters ↔
        g ∈ s.filters ∨ driver calls = true ∧ g = ⟨.v4, f⟩ := by
      unfold StaticFilters.addFilterBack
      cases driver calls <;> simp
    rw [addFilters, ih, hfirst, or_assoc]
    refine or_congr_right ⟨?_, ?_⟩
    · rintro (⟨hdriver, rfl⟩ | ⟨i, f', hi, hdriver, rfl⟩)
      · exact ⟨0, f, rfl, hdriver, rfl⟩
      · exact ⟨i + 1, f', hi, by rwa [Nat.add_comm i 1, ← Nat.add_assoc], rfl⟩
    · rintro ⟨i, f', hi, hdriver, rfl⟩
      cases i with
      | zero =>
        cases hi
        exact Or.inl ⟨hdriver, rfl⟩
      | succ i =>
        exact Or.inr ⟨i, f', hi, by rwa [Nat.add_assoc, Nat.add_comm 1 i], rfl⟩

theorem length_le_addFilters (driver : Nat → Bool) (fs : List (Filter .v4)) (calls : Nat)
    (t : StaticFilters) :
    t.filters.length ≤ (addFilters driver fs calls t).filters.length := by
  induction fs generalizing calls t with
  | nil => exact Nat.le_refl _
  | cons f rest ih =>
    refine Nat.le_trans ?_ (ih _ _)
    unfold StaticFilters.addFilterBack
    split
    · simp
    · exact Nat.le_refl _

/-- The table is as it was exactly when the driver added none of the filters. -/
theorem addFilters_eq_self_iff (driver : Nat → Bool) (fs : List (Filter .v4)) (calls : Nat)
    (t : StaticFilters) :
    addFilters driver fs calls t = t ↔ ∀ i < fs.length, driver (calls + i) = false := by
  induction fs generalizing calls t with
  | nil => exact iff_of_true rfl nofun
  | cons f rest ih =>
    rw [addFilters, List.length_cons, Nat.forall_lt_succ_left]
    have hrest : (∀ i < rest.length, driver (calls + 1 + i) = false) ↔
        ∀ i < rest.length, driver (calls + (i + 1)) = false := by
      simp only [Nat.add_assoc, Nat.add_comm 1]
    cases hdriver : driver calls with
    | false => exact (ih _ _).trans (hrest.trans (and_iff_right rfl).symm)
    | true =>
      refine iff_of_false (fun heq => ?_) fun h => Bool.noConfusion h.1
      -- one filter more than before, and none is taken back
      have hle := length_le_addFilters driver rest (calls + 1) (t.addFilterBack true ⟨.v4, f⟩).2
      have hlength : (t.addFilterBack true ⟨.v4, f⟩).2.filters.length = t.filters.length + 1 :=
        List.length_append
      rw [heq, hlength] at hle
      exact Nat.not_succ_le_self _ hle

/-! ## The servers -/

theorem createServers_eq_none_iff (protocols : SupportedProtocols) (start : Bool) (o : AddCalls) :
    createServers protocols start o = none ↔ ¬ ServersCome protocols start o := by
  rw [serversCome_iff]
  unfold createServers
  cases protocols with
  | tcp =>
    cases o.tcpServer with
    | none => simp
    | some port => cases start <;> cases o.tcpStarts <;> cases o.emplaced <;> simp
  | udp =>
    cases o.udpServer with
    | none => simp
    | some port => cases start <;> cases o.udpStarts <;> cases o.emplaced <;> simp
  | both =>
    cases o.tcpServer with
    | none => simp
    | some tcpPort =>
      cases o.udpServer with
      | none => simp
      | some udpPort =>
        cases start <;> cases o.tcpStarts <;> cases o.udpStarts <;> cases o.emplaced <;> simp

/-- A call that returns nothing leaves the servers and the filters of processes as they were. -/
theorem router_of_none {w : NameService} {endpoint : List UInt8} {protocols : SupportedProtocols}
    {credPair : Option (List UInt8 × List UInt8)} {start : Bool} {o : AddCalls}
    {s : ProxyRegistration}
    (h : (addSocks5Proxy w endpoint protocols credPair start o s).1 = none) :
    (addSocks5Proxy w endpoint protocols credPair start o s).2.router = s.router := by
  unfold addSocks5Proxy at h ⊢
  split
  · rfl
  · next e hparse =>
    rw [hparse] at h
    dsimp only at h ⊢
    split
    · rfl
    · next servers hservers =>
      rw [hservers] at h
      cases h

/-- A call leaves everything as it was when it returns nothing exactly when the endpoint is not
parsed, every server comes about, or the driver adds none of the filters. -/
theorem undone_iff (w : NameService) (endpoint : List UInt8) (protocols : SupportedProtocols)
    (credPair : Option (List UInt8 × List UInt8)) (start : Bool) (o : AddCalls)
    (s : ProxyRegistration) :
    ((addSocks5Proxy w endpoint protocols credPair start o s).1 = none →
        (addSocks5Proxy w endpoint protocols credPair start o s).2 = s) ↔
      w.parseEndpoint endpoint = none ∨ ServersCome protocols start o ∨
        ∀ i < filterCount protocols, o.driver i = false := by
  unfold addSocks5Proxy
  cases hparse : w.parseEndpoint endpoint with
  | none => exact iff_of_true (fun _ => rfl) (Or.inl rfl)
  | some e =>
    have hfilters := addFilters_eq_self_iff o.driver (filtersFor e protocols) 0 s.staticFilters
    rw [length_filtersFor] at hfilters
    simp only [Nat.zero_add] at hfilters
    have hservers := createServers_eq_none_iff protocols start o
    dsimp only
    cases hcreate : createServers protocols start o with
    | some servers =>
      have hcome : ServersCome protocols start o := by
        refine Classical.not_not.mp fun hnot => ?_
        rw [hservers.mpr hnot] at hcreate
        cases hcreate
      exact iff_of_true nofun (Or.inr (Or.inl hcome))
    | none =>
      have hcome := hservers.mp hcreate
      constructor
      · intro h
        have hsame := congrArg ProxyRegistration.staticFilters (h rfl)
        exact Or.inr (Or.inr (hfilters.mp hsame))
      · rintro (hnone | hall | hrefused) _
        · cases hnone
        · exact absurd hall hcome
        · show { s with staticFilters := addFilters _ _ _ _ } = s
          rw [hfilters.mpr hrefused]

/-- `10.0.0.1:1080`. -/
def endpointText : List UInt8 := NameService.tenText ++ colon :: [49, 48, 56, 48]

theorem parseEndpoint_endpointText :
    NameService.literalOnly.parseEndpoint endpointText = some ⟨⟨10, 0, 0, 1⟩, 1080, none⟩ := by
  have hsplit : splitColon endpointText = some (NameService.tenText, [49, 48, 56, 48]) :=
    splitColon_eq_some.mpr ⟨rfl, by decide⟩
  exact (NameService.parseEndpoint_of_splitColon (w := NameService.literalOnly)
    (e := ⟨⟨10, 0, 0, 1⟩, 1080, none⟩) hsplit).mpr ⟨by decide, by decide, by decide, rfl⟩

/-- The driver adds every filter, and the TCP server cannot be started. -/
def tcpStartFails : AddCalls where
  driver _ := true
  tcpServer := some 1000
  udpServer := some 2000
  tcpStarts := false
  udpStarts := true
  emplaced := true

/-- The server for `10.0.0.1:1080` cannot be started, and the filters for that endpoint stay. -/
theorem filters_stay : ¬ ∀ (w : NameService) (endpoint : List UInt8)
    (protocols : SupportedProtocols) (credPair : Option (List UInt8 × List UInt8)) (start : Bool)
    (o : AddCalls) (s : ProxyRegistration),
    (addSocks5Proxy w endpoint protocols credPair start o s).1 = none →
      (addSocks5Proxy w endpoint protocols credPair start o s).2 = s := by
  intro hclaim
  have hfilters := congrArg (fun s => s.staticFilters.filters.length)
    (hclaim NameService.literalOnly endpointText .tcp none true tcpStartFails {}
      (by rw [addSocks5Proxy, parseEndpoint_endpointText]; rfl))
  rw [addSocks5Proxy, parseEndpoint_endpointText] at hfilters
  cases hfilters

end ProxyRegistration

end CutieProxy
