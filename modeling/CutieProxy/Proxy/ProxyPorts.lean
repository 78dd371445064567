import CutieProxy.Proxy.SocksLocalRouter

/-!
# Which proxy serves a process

`get_proxy_port_tcp` and `get_proxy_port_udp` walk `proxy_to_filters`, an unordered map, and stop at
the first proxy with a filter that matches the process, whether it has a server of the protocol or
not. `port_iff_not_hidden` says when that matters: a proxy that is stopped, or was added for the
other protocol, hides every proxy that comes after it in the order of the map.

A call of `add_filter_to_proxy` may insert into the map, which then has any order.
-/

namespace CutieProxy

open Transition

namespace SocksLocalRouter

/-- A proxy server of a protocol in an element of `proxy_servers_`: `first` or `second`. -/
abbrev ServerOf := Option UInt16 × Option UInt16 → Option UInt16

/-- `proxy_to_filters[proxy_id].push_back(filter)`. -/
def pushFilter (proxyId : Nat) (filter : FilterInterface) :
    List (Nat × List FilterInterface) → List (Nat × List FilterInterface)
  | [] => [(proxyId, [filter])]
  | (id, filters) :: rest =>
    if id = proxyId then (id, filters ++ [filter]) :: rest
    else (id, filters) :: pushFilter proxyId filter rest

/-- The calls that change proxies. -/
inductive ProxyCall where
  /-- `add_socks5_proxy`, with the ports of the servers it adds if it succeeds. -/
  | addSocks5Proxy (servers : Option (Option UInt16 × Option UInt16))
  /-- `add_filter_to_proxy`; the overload for one filter is that for a list of it. -/
  | addFilterToProxy (proxyId : Nat) (filters : List FilterInterface)
  | stopSocks5Proxy (proxyId : Nat)

/-- The router after a call. -/
inductive ProxyStep : SocksLocalRouter → ProxyCall → SocksLocalRouter → Prop
  | added {s : SocksLocalRouter} (servers : Option UInt16 × Option UInt16) :
    ProxyStep s (.addSocks5Proxy (some servers))
      { s with proxyServers := s.proxyServers ++ [servers] }
  | failed {s : SocksLocalRouter} : ProxyStep s (.addSocks5Proxy none) s
  | filtered {s : SocksLocalRouter} (proxyId : Nat) (filters : List FilterInterface)
    (order : List (Nat × List FilterInterface)) (hrange : proxyId < s.proxyServers.length)
    (horder : order.Perm (filters.foldl (fun l filter => pushFilter proxyId filter l)
      s.proxyToFilters)) :
    ProxyStep s (.addFilterToProxy proxyId filters) { s with proxyToFilters := order }
  | refused {s : SocksLocalRouter} {proxyId : Nat} {filters : List FilterInterface}
    (hrange : s.proxyServers.length ≤ proxyId) :
    ProxyStep s (.addFilterToProxy proxyId filters) s
  | stopped {s : SocksLocalRouter} (proxyId : Nat) :
    ProxyStep s (.stopSocks5Proxy proxyId)
      { s with proxyServers := s.proxyServers.set proxyId (none, none) }

/-- The sequences of calls. -/
def proxySystem : System SocksLocalRouter ProxyCall where
  init s := s = {}
  step := ProxyStep

/-- A filter of the proxy matches the process. -/
def Matches (process : NetworkProcess) (proxy : Nat × List FilterInterface) : Prop :=
  ∃ filter ∈ proxy.2, filter process = true

/-- The live server of the protocol that the proxy has. -/
def liveServer (s : SocksLocalRouter) (server : ServerOf) (proxy : Nat × List FilterInterface) :
    Option UInt16 :=
  s.proxyServers[proxy.1]?.bind server

/-- A proxy with a matching filter has a live server with the port. -/
def Serves (s : SocksLocalRouter) (server : ServerOf) (process : NetworkProcess) (port : UInt16) :
    Prop :=
  ∃ proxy ∈ s.proxyToFilters, Matches process proxy ∧ s.liveServer server proxy = some port

/-- A port is returned if and only if a proxy serves the process, and it is that of such a proxy. -/
def FindsServer (s : SocksLocalRouter) (server : ServerOf) (process : NetworkProcess) : Prop :=
  ((s.getProxyPort server process).isSome ↔ ∃ port, s.Serves server process port) ∧
    ∀ port, s.getProxyPort server process = some port → s.Serves server process port

/-- The first proxy with a matching filter has no live server, and one after it serves the
process. -/
def Hidden (s : SocksLocalRouter) (server : ServerOf) (process : NetworkProcess) : Prop :=
  ∃ before first after, s.proxyToFilters = before ++ first :: after ∧
    (∀ proxy ∈ before, ¬ Matches process proxy) ∧ Matches process first ∧
    s.liveServer server first = none ∧
    ∃ proxy ∈ after, Matches process proxy ∧ (s.liveServer server proxy).isSome

variable {s t : SocksLocalRouter} {server : ServerOf} {process : NetworkProcess}
  {proxy : Nat × List FilterInterface} {proxyId : Nat} {filter : FilterInterface}
  {l : List (Nat × List FilterInterface)}

/-! ## What the walk returns -/

theorem any_eq_true_iff :
    (proxy.2.any fun filter => filter process) = true ↔ Matches process proxy :=
  List.any_eq_true

/-- The walk returns the server of the first proxy with a matching filter, or nothing. -/
theorem getProxyPort_cases (s : SocksLocalRouter) (server : ServerOf) (process : NetworkProcess) :
    ((∀ proxy ∈ s.proxyToFilters, ¬ Matches process proxy) ∧
      s.getProxyPort server process = none) ∨
    ∃ before first after, s.proxyToFilters = before ++ first :: after ∧
      (∀ proxy ∈ before, ¬ Matches process proxy) ∧ Matches process first ∧
      s.getProxyPort server process = s.liveServer server first := by
  unfold getProxyPort
  cases hfind : s.proxyToFilters.find? fun proxy => proxy.2.any fun filter => filter process with
  | none =>
    refine Or.inl ⟨fun proxy hproxy hmatch => ?_, rfl⟩
    exact List.find?_eq_none.mp hfind proxy hproxy (any_eq_true_iff.mpr hmatch)
  | some first =>
    obtain ⟨hmatch, before, after, hsplit, hbefore⟩ := List.find?_eq_some_iff_append.mp hfind
    refine Or.inr ⟨before, first, after, hsplit, fun proxy hproxy hmatch' => ?_,
      any_eq_true_iff.mp hmatch, rfl⟩
    have hfalse := hbefore proxy hproxy
    rw [any_eq_true_iff.mpr hmatch'] at hfalse
    cases hfalse

/-- The first element of a list with a property is one. -/
theorem first_unique {α : Type} {p : α → Prop} {before before' after after' : List α} {x y : α}
    (h : before ++ x :: after = before' ++ y :: after') (hbefore : ∀ z ∈ before, ¬ p z)
    (hx : p x) (hbefore' : ∀ z ∈ before', ¬ p z) (hy : p y) :
    before = before' ∧ x = y ∧ after = after' := by
  induction before generalizing before' with
  | nil =>
    cases before' with
    | nil =>
      cases h
      exact ⟨rfl, rfl, rfl⟩
    | cons z before' =>
      cases h
      exact absurd hx (hbefore' _ List.mem_cons_self)
  | cons z before ih =>
    cases before' with
    | nil =>
      cases h
      exact absurd hy (hbefore _ List.mem_cons_self)
    | cons z' before' =>
      obtain ⟨rfl, htail⟩ := List.cons.inj h
      obtain ⟨rfl, hxy, hafter⟩ := ih htail (fun w hw => hbefore w (List.mem_cons_of_mem _ hw))
        fun w hw => hbefore' w (List.mem_cons_of_mem _ hw)
      exact ⟨rfl, hxy, hafter⟩

/-- What comes after a first match without a live server is what can serve the process. -/
theorem serves_iff_of_first {before after : List (Nat × List FilterInterface)}
    (hsplit : s.proxyToFilters = before ++ proxy :: after)
    (hbefore : ∀ p ∈ before, ¬ Matches process p) (hlive : s.liveServer server proxy = none) :
    (∃ port, s.Serves server process port) ↔
      ∃ p ∈ after, Matches process p ∧ (s.liveServer server p).isSome := by
  constructor
  · rintro ⟨port, p, hp, hmatch, hserver⟩
    rw [hsplit] at hp
    rcases List.mem_append.mp hp with hp | hp
    · exact absurd hmatch (hbefore p hp)
    rcases List.mem_cons.mp hp with rfl | hp
    · rw [hlive] at hserver
      cases hserver
    · exact ⟨p, hp, hmatch, hserver ▸ rfl⟩
  · rintro ⟨p, hp, hmatch, hsome⟩
    obtain ⟨port, hserver⟩ := Option.isSome_iff_exists.mp hsome
    refine ⟨port, p, ?_, hmatch, hserver⟩
    exact hsplit ▸ List.mem_append_right _ (List.mem_cons_of_mem _ hp)

/-- Nothing is returned, rightly so just when nothing serves the process. -/
theorem findsServer_of_none (hport : s.getProxyPort server process = none) :
    s.FindsServer server process ↔ ¬ ∃ port, s.Serves server process port := by
  unfold FindsServer
  rw [hport]
  constructor
  · rintro ⟨hiff, -⟩ hserves
    cases hiff.mpr hserves
  · intro hserves
    exact ⟨iff_of_false Bool.false_ne_true hserves, nofun⟩

/-- The right server is found exactly when no proxy hides it. -/
theorem findsServer_iff (s : SocksLocalRouter) (server : ServerOf) (process : NetworkProcess) :
    s.FindsServer server process ↔ ¬ s.Hidden server process := by
  rcases s.getProxyPort_cases server process with ⟨hnone, hport⟩ |
    ⟨before, first, after, hsplit, hbefore, hfirst, hport⟩
  · -- no filter matches
    refine (findsServer_of_none hport).trans (iff_of_true ?_ ?_)
    · rintro ⟨port, proxy, hproxy, hmatch, -⟩
      exact hnone proxy hproxy hmatch
    · rintro ⟨before, first, after, hsplit, -, hfirst, -⟩
      exact hnone first (hsplit ▸ List.mem_append_right _ List.mem_cons_self) hfirst
  · cases hlive : s.liveServer server first with
    | some port =>
      rw [hlive] at hport
      have hserves : s.Serves server process port :=
        ⟨first, hsplit ▸ List.mem_append_right _ List.mem_cons_self, hfirst, hlive⟩
      refine iff_of_true ⟨?_, fun port' h => ?_⟩ ?_
      · rw [hport]
        exact iff_of_true rfl ⟨port, hserves⟩
      · rw [hport] at h
        cases h
        exact hserves
      · rintro ⟨before', first', after', hsplit', hbefore', hfirst', hnone, -⟩
        obtain ⟨-, rfl, -⟩ :=
          first_unique (hsplit.symm.trans hsplit') hbefore hfirst hbefore' hfirst'
        rw [hlive] at hnone
        cases hnone
    | none =>
      rw [hlive] at hport
      refine (findsServer_of_none hport).trans (not_congr ?_)
      refine (serves_iff_of_first hsplit hbefore hlive).trans ⟨fun hserved => ?_, ?_⟩
      · exact ⟨before, first, after, hsplit, hbefore, hfirst, hlive, hserved⟩
      · rintro ⟨before', first', after', hsplit', hbefore', hfirst', -, hserved⟩
        obtain ⟨-, -, rfl⟩ :=
          first_unique (hsplit.symm.trans hsplit') hbefore hfirst hbefore' hfirst'
        exact hserved

/-! ## The runs -/

/-- The identifiers of a map after a filter was pushed are those before, and the proxy's. -/
theorem mem_pushFilter (h : proxy ∈ pushFilter proxyId filter l) :
    proxy.1 = proxyId ∨ ∃ proxy' ∈ l, proxy'.1 = proxy.1 := by
  induction l with
  | nil =>
    rw [List.mem_singleton.mp h]
    exact Or.inl rfl
  | cons x l ih =>
    unfold pushFilter at h
    split at h
    · next hx =>
      rcases List.mem_cons.mp h with rfl | h
      · exact Or.inl hx
      · exact Or.inr ⟨proxy, List.mem_cons_of_mem _ h, rfl⟩
    · rcases List.mem_cons.mp h with rfl | h
      · exact Or.inr ⟨_, List.mem_cons_self, rfl⟩
      · refine (ih h).imp_right ?_
        rintro ⟨proxy', hproxy', heq⟩
        exact ⟨proxy', List.mem_cons_of_mem _ hproxy', heq⟩

/-- Every proxy of the map is one that was added. -/
def InRange (s : SocksLocalRouter) : Prop :=
  ∀ proxy ∈ s.proxyToFilters, proxy.1 < s.proxyServers.length

theorem inRange_foldl {filters : List FilterInterface} {n : Nat} (hid : proxyId < n)
    (h : ∀ proxy ∈ l, proxy.1 < n) :
    ∀ proxy ∈ filters.foldl (fun l filter => pushFilter proxyId filter l) l, proxy.1 < n := by
  induction filters generalizing l with
  | nil => exact h
  | cons filter filters ih =>
    refine ih fun proxy hproxy => ?_
    rcases mem_pushFilter hproxy with heq | ⟨proxy', hproxy', heq⟩
    · exact heq ▸ hid
    · exact heq ▸ h proxy' hproxy'

theorem InRange.step {e : ProxyCall} (h : s.InRange) (hstep : ProxyStep s e t) : t.InRange := by
  cases hstep with
  | added servers =>
    intro proxy hproxy
    have hlt := h proxy hproxy
    show proxy.1 < (s.proxyServers ++ [servers]).length
    rw [List.length_append]
    omega
  | failed => exact h
  | filtered proxyId filters order hrange horder =>
    intro proxy hproxy
    exact inRange_foldl hrange h proxy (horder.mem_iff.mp hproxy)
  | refused => exact h
  | stopped proxyId =>
    intro proxy hproxy
    show proxy.1 < (s.proxyServers.set proxyId (none, none)).length
    rw [List.length_set]
    exact h proxy hproxy

/-- After every sequence of calls, and in every order of the map, the look-ups index only proxies
that were added, and each finds the server for a process exactly when no proxy hides it. -/
theorem port_iff_not_hidden (h : proxySystem.Reachable s) (process : NetworkProcess) :
    s.InRange ∧ (s.FindsServer Prod.fst process ↔ ¬ s.Hidden Prod.fst process) ∧
      (s.FindsServer Prod.snd process ↔ ¬ s.Hidden Prod.snd process) := by
  refine ⟨?_, s.findsServer_iff _ process, s.findsServer_iff _ process⟩
  refine h.invariant (I := InRange) ?_ fun s e t hs hstep => hs.step hstep
  rintro s rfl proxy hproxy
  cases hproxy

/-- A proxy for TCP only and one for both protocols, as the user interface registers them. -/
def tcpThenBoth : SocksLocalRouter where
  proxyServers := [(some 1000, none), (some 1001, some 2001)]
  proxyToFilters := [(0, [allFilter]), (1, [allFilter])]

theorem reachable_tcpThenBoth : proxySystem.Reachable tcpThenBoth := by
  have hstart := System.Reachable.init (M := proxySystem) (s := {}) rfl
  have hfirst := hstart.snoc (.added (some 1000, none))
  have hfiltered := hfirst.snoc (.filtered 0 [allFilter] [(0, [allFilter])]
    (Nat.lt_succ_self _) (.refl _))
  have hsecond := hfiltered.snoc (.added (some 1001, some 2001))
  exact hsecond.snoc (.filtered 1 [allFilter] [(0, [allFilter]), (1, [allFilter])]
    (Nat.lt_succ_self _) (.refl _))

theorem port_iff_not_hidden_tcpThenBoth :
    tcpThenBoth.InRange ∧
      (tcpThenBoth.FindsServer Prod.fst ProcessLookup.defaultProcess ↔
        ¬ tcpThenBoth.Hidden Prod.fst ProcessLookup.defaultProcess) ∧
      (tcpThenBoth.FindsServer Prod.snd ProcessLookup.defaultProcess ↔
        ¬ tcpThenBoth.Hidden Prod.snd ProcessLookup.defaultProcess) :=
  port_iff_not_hidden reachable_tcpThenBoth _

/-- A datagram is not proxied, though the second proxy would serve its process. -/
theorem tcp_proxy_hides_udp : ¬ ∀ (s : SocksLocalRouter) (process : NetworkProcess),
    proxySystem.Reachable s →
      s.FindsServer Prod.fst process ∧ s.FindsServer Prod.snd process := by
  intro hclaim
  have hfinds := (hclaim _ ProcessLookup.defaultProcess reachable_tcpThenBoth).2
  refine (findsServer_iff _ _ _).mp hfinds ⟨[], (0, [allFilter]), [(1, [allFilter])], rfl, nofun,
    ⟨allFilter, List.mem_cons_self, rfl⟩, rfl, (1, [allFilter]), List.mem_cons_self,
    ⟨allFilter, List.mem_cons_self, rfl⟩, rfl⟩

end SocksLocalRouter

end CutieProxy
